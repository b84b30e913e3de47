import StoryScript.Proofs.ReadBack
import StoryScript.Proofs.Streaming

namespace StoryScript

namespace Manuscript

theorem Told.isTold_classify (line : Told) (number : Nat) : (Line.classify line.print number).isTold = true := by
  simp [Line.isTold, Line.isBlank, line.read_print, line.full]

theorem Told.content_classify (line : Told) (number : Nat) :
    (Line.classify line.print number).content = line.text := by
  rw [← String.toList_inj, Line.classify_content, line.read_print]

theorem Told.contents_classifyFrom (first : Nat) (lines : List Told) :
    (Line.classifyFrom first (lines.map Told.print)).map (·.content) = lines.map (·.text) := by
  induction lines generalizing first with
  | nil => rfl
  | cons line rest ih => simp [ih, line.content_classify]

theorem Offer.content_classify (offer : Offer) (number : Nat) :
    (Line.classify offer.print number).content = offer.print := by
  rw [← String.toList_inj, Line.classify_content, offer.read_print]

theorem Offer.mapM_readChoice (first : Nat) (offers : List Offer) :
    (Line.classifyFrom first (offers.map Offer.print)).mapM Line.readChoice =
      .ok (offers.map (·.toChoice)) := by
  induction offers generalizing first with
  | nil => rfl
  | cons offer rest ih =>
    have read : (Line.classify offer.print first).readChoice = .ok offer.toChoice := by
      rw [Line.readChoice, offer.content_classify, offer.choice_read?]
    rw [List.map_cons, Line.classifyFrom_cons, List.mapM_cons, read, ih]
    rfl

namespace Item

variable {level : Level}

/-- What the lines of an item leave open. -/
def pending : Item level → Pending
  | .paragraph _ _ => .paragraph
  | .menu _ _ => .menu
  | .code _ => .nothing
  | .command _ => .nothing

theorem adjoins_iff {item next : Item level} :
    item.adjoins next = true ↔ item.pending = next.pending ∧ item.pending ≠ .nothing := by
  cases item <;> cases next <;> simp [adjoins, pending]

theorem print_ne_nil (item : Item level) : item.print ≠ [] := by
  cases item <;> simp_all [print]

theorem pending_classify {item : Item level} {text : String} (member : text ∈ item.print) (number : Nat) :
    Pending.of (Line.classify text number) = item.pending := by
  cases item with
  | paragraph lines _ =>
    obtain ⟨line, _, rfl⟩ := List.mem_map.mp member
    exact Pending.of_eq_paragraph_iff.mpr (line.isTold_classify number)
  | code line =>
    cases List.mem_singleton.mp member
    simp [Pending.of, Line.isTold, line.read_print, pending]
  | command directive =>
    cases List.mem_singleton.mp member
    simp [Pending.of, Line.isTold, directive.read_print, pending]
  | menu offers _ =>
    obtain ⟨offer, _, rfl⟩ := List.mem_map.mp member
    exact Pending.of_eq_menu_iff.mpr (by simp [offer.read_print])

def kind : Item level → Line.Kind
  | .paragraph _ _ => .narrative
  | .menu _ _ => .choice
  | .code _ => .code
  | .command _ => .command

/-- No item is taken for a header or a comment. -/
theorem kind_plain (item : Item level) : item.kind ≠ .header ∧ item.kind ≠ .comment := by
  cases item <;> simp [kind]

theorem kind_classify {item : Item level} {text : String} (member : text ∈ item.print) (number : Nat) :
    (Line.classify text number).kind = item.kind := by
  cases item with
  | paragraph lines _ =>
    obtain ⟨line, _, rfl⟩ := List.mem_map.mp member
    simp [line.read_print, kind]
  | code line =>
    cases List.mem_singleton.mp member
    simp [line.read_print, kind]
  | command directive =>
    cases List.mem_singleton.mp member
    simp [directive.read_print, kind]
  | menu offers _ =>
    obtain ⟨offer, _, rfl⟩ := List.mem_map.mp member
    simp [offer.read_print, kind]

/-- The lines of an item are compiled to its script. -/
theorem passage_print (item : Item level) (first : Nat) (scope : Scope) :
    Transcript.passage (level = .inNode) scope (Line.classifyFrom first item.print) =
      .ok (item.render scope, item.enter scope) := by
  cases item with
  | paragraph lines full =>
    obtain ⟨line, rest, rfl⟩ := List.exists_cons_of_ne_nil full
    have told : ∀ other ∈ Line.classifyFrom first ((line :: rest).map Told.print), other.isTold = true := by
      intro other member
      obtain ⟨text, printed, number, rfl⟩ := Line.exists_of_mem_classifyFrom member
      obtain ⟨source, _, rfl⟩ := List.mem_map.mp printed
      exact source.isTold_classify number
    have contents := Told.contents_classifyFrom first (line :: rest)
    rw [List.map_cons, Line.classifyFrom_cons] at told contents
    rw [print, List.map_cons, Line.classifyFrom_cons, Transcript.passage_paragraph _ scope told, contents]
    rfl
  | code line =>
    have kind : (Line.classify line.print first).kind = .code := by simp [line.read_print]
    have text : Script.codeLine (Line.classify line.print first) = line.text ++ "\n" := by
      rw [Script.codeLine, Line.classify_content, line.read_print, line.toList_print]
      simp
    rw [print, Line.classifyFrom_cons, Line.classifyFrom_nil, Transcript.passage_code _ scope kind, text]
    rfl
  | command directive =>
    have kind : (Line.classify directive.print first).kind = .command := by simp [directive.read_print]
    have content : (Line.classify directive.print first).content = directive.print := by
      rw [← String.toList_inj, Line.classify_content, directive.read_print]
    have declared : (Line.classify directive.print first).declaredScope?.getD scope =
        if directive.name = "scope" then ⟨directive.body⟩ else scope := by
      rw [Line.declaredScope?, content, directive.command_read, kind]
      by_cases declares : directive.name = "scope" <;> simp [declares]
    rw [print, Line.classifyFrom_cons, Line.classifyFrom_nil, Transcript.passage_command _ scope kind, content,
      directive.command_read, declared]
    rfl
  | menu offers full =>
    obtain ⟨offer, rest, rfl⟩ := List.exists_cons_of_ne_nil full
    have choices : ∀ line ∈ Line.classifyFrom first ((offer :: rest).map Offer.print), line.kind = .choice := by
      intro line member
      obtain ⟨text, printed, number, rfl⟩ := Line.exists_of_mem_classifyFrom member
      obtain ⟨source, _, rfl⟩ := List.mem_map.mp printed
      simp [source.read_print]
    have read := Offer.mapM_readChoice first (offer :: rest)
    rw [List.map_cons, Line.classifyFrom_cons] at choices read
    have menu := Transcript.passage_menu scope choices
    rw [read] at menu
    refine menu.trans ?_
    simp [Except.map, render, enter, Function.comp_def]

/-- Between two items nothing runs on: a blank line stands where it would. -/
theorem print_apart {item : Item level} {rest : List (Item level)} {first second : Nat} :
    ∀ last ∈ (Line.classifyFrom first item.print).getLast?,
      ∀ next ∈ (Line.classifyFrom second (item.gap rest ++ printAll rest)).head?, last.joins next = false := by
  intro last isLast next isNext
  obtain ⟨text, printed, number, rfl⟩ := Line.exists_of_mem_classifyFrom (List.mem_of_getLast? isLast)
  rw [Line.joins_eq_false_iff, pending_classify printed]
  cases rest with
  | nil => simp [gap, printAll] at isNext
  | cons other rest =>
    by_cases adjoins : item.adjoins other = true
    · have same : next = Line.classify "" second := by simpa [gap, adjoins] using isNext.symm
      subst same
      have settled : Pending.of (Line.classify "" second) = .nothing := Pending.of_gap rfl
      rw [settled]
      exact eq_or_ne item.pending .nothing
    · obtain ⟨head, more, shape⟩ := List.exists_cons_of_ne_nil other.print_ne_nil
      have same : next = Line.classify head second := by
        simpa [gap, adjoins, printAll, shape] using isNext.symm
      subst same
      rw [pending_classify (shape ▸ List.mem_cons_self)]
      rw [adjoins_iff] at adjoins
      by_cases settled : item.pending = .nothing
      · exact Or.inl settled
      · exact Or.inr fun both => adjoins ⟨both, settled⟩

theorem eq_empty_of_mem_gap {item : Item level} {rest : List (Item level)} {text : String}
    (member : text ∈ item.gap rest) : text = "" := by
  unfold gap at member
  split at member
  · cases member
  · split at member
    · exact List.mem_singleton.mp member
    · cases member

/-- Only blank lines are added to the lines of the items. -/
theorem mem_printAll {items : List (Item level)} {text : String} (member : text ∈ printAll items) :
    text = "" ∨ ∃ item ∈ items, text ∈ item.print := by
  induction items with
  | nil => cases member
  | cons item rest ih =>
    rw [printAll, List.mem_append, List.mem_append] at member
    rcases member with here | between | later
    · exact Or.inr ⟨item, List.mem_cons_self, here⟩
    · exact Or.inl (eq_empty_of_mem_gap between)
    · rcases ih later with empty | ⟨other, among, printed⟩
      · exact Or.inl empty
      · exact Or.inr ⟨other, List.mem_cons_of_mem item among, printed⟩

theorem kind_of_mem_printAll {items : List (Item level)} {text : String} (member : text ∈ printAll items)
    (number : Nat) :
    (Line.classify text number).kind ≠ .header ∧ (Line.classify text number).kind ≠ .comment := by
  rcases mem_printAll member with rfl | ⟨item, _, printed⟩
  · simp [Line.read]
  · rw [kind_classify printed]
    exact item.kind_plain

/-- The lines of items are compiled item by item. -/
theorem passage_printAll (items : List (Item level)) (first : Nat) (scope : Scope) :
    Transcript.passage (level = .inNode) scope (Line.classifyFrom first (printAll items)) =
      .ok (renderAll scope items, items.foldl enter scope) := by
  induction items generalizing first scope with
  | nil => exact Transcript.passage_nil _ scope
  | cons item rest ih =>
    have plain : ∀ line ∈ Line.classifyFrom first item.print, line.kind ≠ .header := by
      intro line member
      obtain ⟨text, printed, number, rfl⟩ := Line.exists_of_mem_classifyFrom member
      rw [kind_classify printed]
      exact item.kind_plain.1
    have gaps : ∀ start, ∀ line ∈ Line.classifyFrom start (item.gap rest), line.isGap = true := by
      intro start line member
      obtain ⟨text, among, number, rfl⟩ := Line.exists_of_mem_classifyFrom member
      rw [eq_empty_of_mem_gap among]
      rfl
    rw [printAll, Line.classifyFrom_append, Transcript.passage_append scope plain print_apart, passage_print,
      Passage.andThen_ok, Line.classifyFrom_append, Transcript.passage_gaps _ _ (gaps _), ih]
    rfl

theorem isOneLine_of_mem_print {item : Item level} {text : String} (member : text ∈ item.print) :
    Source.IsOneLine text := by
  cases item with
  | paragraph lines _ =>
    obtain ⟨line, _, rfl⟩ := List.mem_map.mp member
    exact Source.isOneLine_append.mpr ⟨by decide, line.oneLine⟩
  | code line =>
    cases List.mem_singleton.mp member
    exact Source.isOneLine_append.mpr ⟨by decide, line.oneLine⟩
  | command directive =>
    cases List.mem_singleton.mp member
    simp only [Directive.print, Source.isOneLine_append]
    exact ⟨⟨⟨by decide, directive.nameOneLine⟩, by decide⟩, directive.bodyOneLine⟩
  | menu offers _ =>
    obtain ⟨offer, _, rfl⟩ := List.mem_map.mp member
    simp only [Offer.print, Source.isOneLine_append]
    exact ⟨⟨⟨by decide, offer.targetOneLine⟩, by decide⟩, offer.formOneLine⟩

theorem isOneLine_of_mem_printAll {items : List (Item level)} {text : String} (member : text ∈ printAll items) :
    Source.IsOneLine text := by
  rcases mem_printAll member with rfl | ⟨item, _, printed⟩
  · decide
  · exact isOneLine_of_mem_print printed

end Item

namespace Scene

theorem isOneLine_header (scene : Scene) : Source.IsOneLine scene.header := by
  simp only [header, Source.isOneLine_append]
  exact ⟨⟨⟨by decide, scene.idOneLine⟩, by decide⟩, scene.titleOneLine⟩

theorem kind_classify_header (scene : Scene) (number : Nat) :
    (Line.classify scene.header number).kind = .header := by
  simp [scene.read_header]

theorem content_classify_header (scene : Scene) (number : Nat) :
    (Line.classify scene.header number).content = scene.header := by
  rw [← String.toList_inj, Line.classify_content, scene.read_header]

theorem kind_of_head? {scenes : List Scene} {first : Nat} {next : Line}
    (begins : next ∈ (Line.classifyFrom first (scenes.flatMap print)).head?) : next.kind = .header := by
  cases scenes with
  | nil => simp at begins
  | cons scene rest =>
    have same : Line.classify scene.header first = next := by simpa [print] using begins
    exact same ▸ scene.kind_classify_header first

theorem body_print (scene : Scene) (first : Nat) (scope : Scope) :
    Transcript.body scope (Line.classifyFrom first scene.print) =
      .ok (scene.render scope, scene.items.foldl Item.enter scope) := by
  have plain : ∀ line ∈ Line.classifyFrom (first + 1) (Item.printAll scene.items), line.kind ≠ .header := by
    intro line member
    obtain ⟨text, printed, number, rfl⟩ := Line.exists_of_mem_classifyFrom member
    exact (Item.kind_of_mem_printAll printed number).1
  have inner := Item.passage_printAll scene.items (first + 1) scope
  rw [print, Line.classifyFrom_cons, Transcript.body_node scope (scene.kind_classify_header first) plain,
    content_classify_header, nodeId_classify]
  refine (congrArg _ inner).trans ?_
  simp only [Except.map, render]

theorem body_prints (scenes : List Scene) (first : Nat) (scope : Scope) :
    ∃ last, Transcript.body scope (Line.classifyFrom first (scenes.flatMap print)) =
      .ok (renderAll scope scenes, last) := by
  induction scenes generalizing first scope with
  | nil => exact ⟨scope, Transcript.body_of_plain scope (by simp)⟩
  | cons scene rest ih =>
    obtain ⟨last, later⟩ := ih (first + scene.print.length) (scene.items.foldl Item.enter scope)
    refine ⟨last, ?_⟩
    rw [List.flatMap_cons, Line.classifyFrom_append, Transcript.body_append scope _ fun _ => kind_of_head?,
      body_print, Passage.andThen_ok, later]
    rfl

end Scene

theorem isOneLine_of_mem_texts {manuscript : Manuscript} {text : String} (member : text ∈ manuscript.texts) :
    Source.IsOneLine text := by
  rcases List.mem_append.mp member with early | late
  · exact Item.isOneLine_of_mem_printAll early
  · obtain ⟨scene, _, printed⟩ := List.mem_flatMap.mp late
    rcases List.mem_cons.mp printed with rfl | inside
    · exact scene.isOneLine_header
    · exact Item.isOneLine_of_mem_printAll inside

theorem not_comment_of_mem_texts {manuscript : Manuscript} {text : String} (member : text ∈ manuscript.texts)
    (number : Nat) : (Line.classify text number).kind ≠ .comment := by
  rcases List.mem_append.mp member with early | late
  · exact (Item.kind_of_mem_printAll early number).2
  · obtain ⟨scene, _, printed⟩ := List.mem_flatMap.mp late
    rcases List.mem_cons.mp printed with rfl | inside
    · rw [scene.kind_classify_header]
      exact Line.Kind.noConfusion
    · exact (Item.kind_of_mem_printAll inside number).2

/-- No line of a manuscript is left out as a comment. -/
theorem ofTexts_texts (manuscript : Manuscript) :
    Line.ofTexts manuscript.texts = Line.classifyFrom 1 manuscript.texts := by
  refine List.filter_eq_self.mpr fun line member => ?_
  obtain ⟨text, printed, number, rfl⟩ := Line.exists_of_mem_classifyFrom member
  simpa using not_comment_of_mem_texts printed number

theorem body_texts (manuscript : Manuscript) :
    ∃ last, Transcript.body .global (Line.classifyFrom 1 manuscript.texts) =
      .ok (Item.renderAll .global manuscript.preamble ++
        Scene.renderAll (manuscript.preamble.foldl Item.enter .global) manuscript.scenes, last) := by
  have plain : ∀ line ∈ Line.classifyFrom 1 (Item.printAll manuscript.preamble), line.kind ≠ .header := by
    intro line member
    obtain ⟨text, printed, number, rfl⟩ := Line.exists_of_mem_classifyFrom member
    exact (Item.kind_of_mem_printAll printed number).1
  have front := Item.passage_printAll manuscript.preamble 1 .global
  obtain ⟨last, back⟩ := Scene.body_prints manuscript.scenes
    (1 + (Item.printAll manuscript.preamble).length) (manuscript.preamble.foldl Item.enter .global)
  refine ⟨last, ?_⟩
  rw [texts, Line.classifyFrom_append, Transcript.body_append _ _ fun _ => Scene.kind_of_head?,
    Transcript.body_of_plain _ plain]
  refine (congrArg (Passage.andThen · _) front).trans ?_
  rw [Passage.andThen_ok, back]
  rfl

end Manuscript

namespace Story

/-- Every manuscript, written out as source, compiles to the module it stands for. -/
theorem result_print_eq_render (manuscript : Manuscript) :
    (compileSource manuscript.print).result = .ok manuscript.render := by
  have classified : ∀ line ∈ Line.ofTexts manuscript.texts, line.IsClassified := fun _ =>
    Line.isClassified_of_mem_ofTexts
  obtain ⟨last, body⟩ := manuscript.body_texts
  rw [compileSource, Manuscript.print, Source.lines_terminated fun _ => Manuscript.isOneLine_of_mem_texts,
    compileTexts, result_eq_body classified, manuscript.ofTexts_texts, body]
  simp only [Except.map, Manuscript.render, String.append_assoc]

/-- Told lines may look like a header or a comment, and an argument may hold a semicolon. -/
example :
    let preamble : List (Manuscript.Item .topLevel) :=
      [.paragraph [⟨"=a= b", by decide, by decide⟩, ⟨"# c", by decide, by decide⟩] (by simp)]
    let scene : Manuscript.Scene :=
      { id := "d", title := " e", named := by decide, spaceless := by decide, unmarked := by decide
        idOneLine := by decide, titleOneLine := by decide
        items := [.menu [⟨⟨"d", .conditional "f" "g;h"⟩, by decide, by decide, by decide, by decide⟩] (by simp)] }
    Manuscript.print ⟨preamble, [scene]⟩ = "\\=a= b\n\\# c\n=d= e\n>d ?f;g;h\n" := by
  decide

end Story

end StoryScript

import StoryScript.Proofs.Renumbering

namespace StoryScript

namespace Transcript

/-- The transcript of a story before its first line. -/
def start : Transcript :=
  { blank false .global with text := Module.imports }

def module (t : Transcript) : String :=
  t.text ++ t.closing ++ Script.ending

theorem compile_append (front back : List Line) :
    compile (front ++ back) = (start.run front).bind fun t => (t.run back).map module := by
  change (start.run (front ++ back)).map module = _
  rw [run_append]
  cases start.run front <;> rfl

/-- A gap closes what is open and does nothing else. -/
theorem step_gap (t : Transcript) {line : Line} (gap : line.isGap = true) : t.step line = .ok t.settle := by
  obtain ⟨kind, empty⟩ := Line.isGap_iff.mp gap
  have settled := Pending.of_gap gap
  simp [step, addition, kind, empty, settled, settle, Line.declaredScope?, Except.map]

/-- A gap between lines parts those before it from those behind it, which move down. -/
theorem compile_gap {gap : Line} (front back : List Line) (f : Nat → Nat) (empty : gap.isGap = true) :
    compile (front.map (.renumber f) ++ gap :: back.map (.renumber f)) =
      ((start.run front).bind fun t => (t.settle.run back).map module).mapError (.renumber f) := by
  rw [compile_append, run_renumber]
  cases start.run front with
  | error fault => rfl
  | ok t =>
    change (t.run (gap :: _)).map module = ((t.settle.run back).map module).mapError _
    rw [run_cons, step_gap t empty]
    change (t.settle.run _).map module = _
    rw [run_renumber]
    cases t.settle.run back <;> rfl

theorem module_below (before : String) (t : Transcript) : (t.below before).module = before ++ t.module := by
  have same : (t.below before).closing = t.closing := rfl
  rw [module, module, same, below, String.append_assoc, String.append_assoc, String.append_assoc]

/-- What the lines behind a step add does not depend on the text before them. -/
theorem run_behind {t next : Transcript} {line : Line} {before : String}
    (stepped : t.step line = .ok (next.below before)) (rest : List Line) :
    (t.run (line :: rest)).map module = ((next.run rest).map module).map (before ++ ·) := by
  rw [run_cons, stepped]
  change ((next.below before).run rest).map module = _
  rw [run_below]
  cases next.run rest with
  | error fault => rfl
  | ok last => exact congrArg Except.ok (module_below before last)

section Seams

variable {t : Transcript} {line : Line}

theorem settle_apart {lines : List Line}
    (apart : ∀ next ∈ lines.head?, t.pending = .nothing ∨ t.pending ≠ Pending.of next) :
    (t.settle.run lines).map module = (t.run lines).map module := by
  have same := congrArg (Except.map fun closed => closed.1 ++ Script.ending) (run_settle closing (closing_eq t) apart)
  have whole (u : Transcript) : (u.run lines).map module =
      ((u.run lines).map (close closing)).map fun closed => closed.1 ++ Script.ending := by
    cases u.run lines <;> rfl
  rw [whole, whole, ← same]

/-- Parted from the paragraph before it, a line begins one of its own. -/
theorem settle_told (inside : t.pending = .paragraph) (told : line.isTold = true) (rest : List Line) :
    ∃ added : Except Fault String,
      (t.run (line :: rest)).map module = added.map (t.text ++ "\n" ++ line.content ++ ·) ∧
      (t.settle.run (line :: rest)).map module =
        added.map (t.text ++ "`);\ngame.say(`" ++ line.content ++ ·) := by
  have seam : "`);\ngame.say(`" = "`);\n" ++ "game.say(`" := by decide
  refine ⟨(({ t with pending := .paragraph, text := "" } : Transcript).run rest).map module,
    run_behind ?_ rest, run_behind ?_ rest⟩
  · rw [step_told t told]
    simp [inside, below, String.append_assoc]
  · rw [step_told _ told]
    simp [inside, below, settle, Pending.closing, seam, String.append_assoc, -String.reduceAppend]

/-- Parted from the menu before it, a choice begins one of its own. -/
theorem settle_choice {choice : Choice} (inside : t.pending = .menu) (inNode : t.inNode = true)
    (kind : line.kind = .choice) (read : Choice.read? line.content = some choice) (rest : List Line) :
    ∃ added : Except Fault String,
      (t.run (line :: rest)).map module = added.map (t.text ++ ",\n" ++ Script.element t.scope choice ++ ·) ∧
      (t.settle.run (line :: rest)).map module =
        added.map (t.text ++ ");\ngame.choose(\n" ++ Script.element t.scope choice ++ ·) := by
  have readable : line.readChoice = .ok choice := by rw [Line.readChoice, read]
  have seam : ");\ngame.choose(\n" = ");\n" ++ "game.choose(\n" := by decide
  refine ⟨(({ t with pending := .menu, text := "" } : Transcript).run rest).map module,
    run_behind ?_ rest, run_behind ?_ rest⟩
  · rw [step_choice inNode kind, readable]
    simp [inside, below, Except.map, String.append_assoc]
  · rw [step_choice (show t.settle.inNode = true from inNode) kind, readable]
    simp [inside, below, settle, Pending.closing, seam, Except.map, String.append_assoc, -String.reduceAppend]

theorem run_unread (inNode : t.inNode = true) (kind : line.kind = .choice)
    (unread : Choice.read? line.content = none) (rest : List Line) :
    t.run (line :: rest) = .error ⟨line.number, .unfinishedCondition⟩ := by
  rw [run_cons, step_choice inNode kind, Line.readChoice, unread]
  rfl

end Seams

section LastLine

variable {before t : Transcript} {lines : List Line} {last : Line}

theorem step_of_last (ran : before.run lines = .ok t) (isLast : lines.getLast? = some last) :
    ∃ earlier : Transcript, earlier.step last = .ok t := by
  obtain ⟨front, rfl⟩ := List.getLast?_eq_some_iff.mp isLast
  rw [run_append] at ran
  cases early : before.run front with
  | error fault => rw [early] at ran; cases ran
  | ok earlier =>
    rw [early] at ran
    change earlier.run [last] = .ok t at ran
    rw [run_cons] at ran
    cases stepped : earlier.step last with
    | error fault => rw [stepped] at ran; cases ran
    | ok after =>
      rw [stepped] at ran
      cases ran
      exact ⟨earlier, stepped⟩

theorem text_of_told (ran : before.run lines = .ok t) (isLast : lines.getLast? = some last)
    (told : last.isTold = true) : ∃ early, t.text = early ++ last.content := by
  obtain ⟨earlier, stepped⟩ := step_of_last ran isLast
  rw [step_told earlier told] at stepped
  cases stepped
  by_cases inside : earlier.pending = .paragraph
  · exact ⟨earlier.text ++ "\n", by simp [inside, String.append_assoc]⟩
  · exact ⟨earlier.text ++ earlier.pending.closing ++ "game.say(`", by simp [inside, String.append_assoc]⟩

/-- A choice that was taken in stood in a node and could be read, and its element was written last. -/
theorem text_of_choice (ran : before.run lines = .ok t) (isLast : lines.getLast? = some last)
    (kind : last.kind = .choice) :
    t.inNode = true ∧ ∃ early choice, Choice.read? last.content = some choice ∧
      t.text = early ++ Script.element t.scope choice := by
  obtain ⟨earlier, stepped⟩ := step_of_last ran isLast
  cases inNode : earlier.inNode with
  | false =>
    have refused : earlier.addition last = .error ⟨last.number, .choiceOutsideNode⟩ := by
      simp [addition, kind, inNode]
    rw [step, refused] at stepped
    cases stepped
  | true =>
    rw [step_choice inNode kind, Line.readChoice] at stepped
    cases read : Choice.read? last.content with
    | none => rw [read] at stepped; cases stepped
    | some choice =>
      rw [read] at stepped
      cases stepped
      refine ⟨inNode, ?_⟩
      by_cases inside : earlier.pending = .menu
      · exact ⟨earlier.text ++ ",\n", choice, rfl, by simp [inside, String.append_assoc]⟩
      · exact ⟨earlier.text ++ earlier.pending.closing ++ "game.choose(\n", choice, rfl,
          by simp [inside, String.append_assoc]⟩

end LastLine

end Transcript

namespace Story

/-- The module of `front ++ back`, and what it becomes when an empty text is put in between. What
is cut is found behind the last line of `front`, at the place where the module of `front` alone
is closed. -/
inductive Parted (front back : List String) : String → String → Prop
  | apart {text : String} :
      (∀ last ∈ (Line.ofTexts front).getLast?, ∀ next ∈ (Line.ofTexts back).head?, last.joins next = false) →
      Parted front back text text
  | paragraph {last next : Line} {before after : String} :
      (Line.ofTexts front).getLast? = some last → (Line.ofTexts back).head? = some next →
      last.isTold = true → next.isTold = true →
      (compileTexts front).result = .ok (before ++ last.content ++ "`);\n" ++
        (if (Line.ofTexts front).any (·.kind == .header) then Script.closer else "") ++ Script.ending) →
      Parted front back (before ++ last.content ++ "\n" ++ next.content ++ after)
        (before ++ last.content ++ "`);\ngame.say(`" ++ next.content ++ after)
  | menu {last next : Line} {offer other : Choice} {first second before after : String} :
      (Line.ofTexts front).getLast? = some last → (Line.ofTexts back).head? = some next →
      last.kind = .choice → next.kind = .choice →
      Choice.read? last.content = some offer → Choice.read? next.content = some other →
      Script.element (Scope.global.after (Line.ofTexts front)) offer = first →
      Script.element (Scope.global.after (Line.ofTexts front)) other = second →
      (compileTexts front).result = .ok (before ++ first ++ ");\n" ++ Script.closer ++ Script.ending) →
      Parted front back (before ++ first ++ ",\n" ++ second ++ after)
        (before ++ first ++ ");\ngame.choose(\n" ++ second ++ after)

/-- Where a module is cut, and between which lines, is determined by the texts. -/
theorem Parted.unique {front back : List String} {text parted other : String} (first : Parted front back text parted)
    (second : Parted front back text other) : other = parted := by
  have joined {last next : Line} (joins : last.isTold = true ∧ next.isTold = true ∨ last.kind = .choice ∧ next.kind = .choice)
      (apart : last.joins next = false) : False := by
    rcases joins with ⟨told, continued⟩ | ⟨offers, continued⟩ <;> simp_all [Line.joins]
  have narrative {last : Line} (told : last.isTold = true) : last.kind ≠ .choice := by
    simp [(Line.isTold_iff.mp told).1]
  generalize same : text = again at second
  cases first with
  | apart apart =>
    cases second with
    | apart => exact same.symm
    | paragraph isLast isNext told continued => exact (joined (Or.inl ⟨told, continued⟩) (apart _ isLast _ isNext)).elim
    | menu isLast isNext offers continued => exact (joined (Or.inr ⟨offers, continued⟩) (apart _ isLast _ isNext)).elim
  | paragraph isLast isNext told continued alone =>
    cases second with
    | apart apart => exact (joined (Or.inl ⟨told, continued⟩) (apart _ isLast _ isNext)).elim
    | paragraph isLast' isNext' told' continued' alone' =>
      cases isLast.symm.trans isLast'
      cases isNext.symm.trans isNext'
      have place := Except.ok.inj (alone.symm.trans alone')
      simp only [String.append_left_inj] at place
      subst place
      simp only [String.append_right_inj] at same
      rw [same]
    | menu isLast' isNext' offers =>
      cases isLast.symm.trans isLast'
      exact absurd offers (narrative told)
  | menu isLast isNext offers continued read read' element element' alone =>
    cases second with
    | apart apart => exact (joined (Or.inr ⟨offers, continued⟩) (apart _ isLast _ isNext)).elim
    | paragraph isLast' isNext' told =>
      cases isLast.symm.trans isLast'
      exact absurd offers (narrative told)
    | menu isLast' isNext' offers' continued' again again' written written' alone' =>
      cases isLast.symm.trans isLast'
      cases isNext.symm.trans isNext'
      cases read.symm.trans again
      cases read'.symm.trans again'
      cases element.symm.trans written
      cases element'.symm.trans written'
      have place := Except.ok.inj (alone.symm.trans alone')
      simp only [String.append_left_inj] at place
      subst place
      simp only [String.append_right_inj] at same
      rw [same]

/-- Two compilations fail alike or succeed with modules that are related. -/
inductive Alike (related : String → String → Prop) : Except Fault String → Except Fault String → Prop
  | failed (fault : Fault) : Alike related (.error fault) (.error fault)
  | compiled {text other : String} : related text other → Alike related (.ok text) (.ok other)

theorem Alike.of_added {related : String → String → Prop} {first second added : Except Fault String}
    {front other : String} (here : first = added.map (front ++ ·)) (there : second = added.map (other ++ ·))
    (parts : ∀ after, related (front ++ after) (other ++ after)) : Alike related first second := by
  rw [here, there]
  cases added with
  | error fault => exact .failed fault
  | ok after => exact .compiled (parts after)

theorem Alike.refl {related : String → String → Prop} (same : ∀ text, related text text)
    (result : Except Fault String) : Alike related result result := by
  cases result with
  | error fault => exact .failed fault
  | ok text => exact .compiled (same text)

section Gap

variable {front back : List String}

theorem result_append (front back : List String) :
    (compileTexts (front ++ back)).result = (Transcript.start.run (Line.ofTexts front)).bind fun t =>
      (t.run ((Line.ofTexts back).map (.renumber (· + front.length)))).map Transcript.module := by
  rw [compileTexts_eq_transcript, Line.ofTexts_append, Transcript.compile_append]

theorem result_gap {gap : String} (empty : (Line.classify gap (front.length + 1)).isGap = true) :
    (compileTexts (front ++ gap :: back)).result =
      ((Transcript.start.run (Line.ofTexts front)).bind fun t =>
        (t.settle.run ((Line.ofTexts back).map (.renumber (· + front.length)))).map Transcript.module).mapError
          (.renumber (Line.numberBehind front.length 1)) := by
  have kind : (Line.classify gap 1).kind = .narrative := (Line.isGap_iff.mp empty).1
  have kept : Line.ofTexts [gap] = [Line.classify gap 1] := by
    change [Line.classify gap 1].filter _ = _
    rw [List.filter_cons_of_pos (by rw [kind]; rfl)]
    rfl
  have shape : Line.ofTexts (front ++ gap :: back) = _ :=
    (congrArg Line.ofTexts (List.append_cons front gap back)).trans (Line.ofTexts_between front [gap] back)
  rw [kept] at shape
  rw [compileTexts_eq_transcript, shape]
  exact Transcript.compile_gap _ _ _ empty

section Seam

variable {t : Transcript} {last next : Line} {rest : List Line}
  (ran : Transcript.start.run (Line.ofTexts front) = .ok t)
  (isLast : (Line.ofTexts front).getLast? = some last) (behind : Line.ofTexts back = next :: rest)

include ran

theorem result_eq_module : (compileTexts front).result = .ok t.module := by
  rw [compileTexts_eq_transcript]
  change (Transcript.start.run _).map Transcript.module = _
  rw [ran]
  rfl

include isLast

theorem pending_eq : t.pending = .of last := by
  rw [(Transcript.run_state ran).1, isLast]
  rfl

include behind

theorem alike_paragraphs (told : last.isTold = true) (continued : next.isTold = true) (f : Nat → Nat) :
    Alike (Parted front back) ((t.run ((next :: rest).map (.renumber f))).map Transcript.module)
      ((t.settle.run ((next :: rest).map (.renumber f))).map Transcript.module) := by
  have inside : t.pending = .paragraph := (pending_eq ran isLast).trans (Pending.of_eq_paragraph_iff.mpr told)
  have inNode : t.inNode = (Line.ofTexts front).any (·.kind == .header) := (Transcript.run_state ran).2.1
  obtain ⟨early, text⟩ := Transcript.text_of_told ran isLast told
  have isNext : (Line.ofTexts back).head? = some next := by rw [behind]; rfl
  have goesOn : (next.renumber f).isTold = true := continued
  have content : (next.renumber f).content = next.content := rfl
  obtain ⟨added, whole, cut⟩ := Transcript.settle_told inside goesOn (rest.map (.renumber f))
  refine .of_added whole cut fun after => ?_
  rw [text, content]
  refine .paragraph isLast isNext told continued ?_
  rw [result_eq_module ran, Transcript.module, Transcript.closing, inside, inNode, text]
  simp [Pending.closing, String.append_assoc]

theorem alike_menus (offers : last.kind = .choice) (continued : next.kind = .choice) (f : Nat → Nat) :
    Alike (Parted front back) ((t.run ((next :: rest).map (.renumber f))).map Transcript.module)
      ((t.settle.run ((next :: rest).map (.renumber f))).map Transcript.module) := by
  have inside : t.pending = .menu := (pending_eq ran isLast).trans (Pending.of_eq_menu_iff.mpr offers)
  have scope : t.scope = Scope.global.after (Line.ofTexts front) := (Transcript.run_state ran).2.2
  obtain ⟨inNode, early, offer, read, text⟩ := Transcript.text_of_choice ran isLast offers
  have isNext : (Line.ofTexts back).head? = some next := by rw [behind]; rfl
  have goesOn : (next.renumber f).kind = .choice := continued
  have closed : t.settle.inNode = true := inNode
  rw [List.map_cons]
  cases found : Choice.read? (next.renumber f).content with
  | none =>
    rw [Transcript.run_unread inNode goesOn found, Transcript.run_unread closed goesOn found]
    exact .failed _
  | some other =>
    obtain ⟨added, whole, cut⟩ := Transcript.settle_choice inside inNode goesOn found (rest.map (.renumber f))
    refine .of_added whole cut fun after => ?_
    rw [text, scope]
    refine .menu isLast isNext offers continued read found rfl rfl ?_
    rw [result_eq_module ran, Transcript.module, Transcript.closing, inside, inNode, text, scope]
    simp [Pending.closing, String.append_assoc]

end Seam

/-- Closing what is open behind `front` before `back` is taken in changes no fault, and in the text
no more than `Parted` tells. -/
theorem alike_settled {t : Transcript} (ran : Transcript.start.run (Line.ofTexts front) = .ok t) (f : Nat → Nat) :
    Alike (Parted front back) ((t.run ((Line.ofTexts back).map (.renumber f))).map Transcript.module)
      ((t.settle.run ((Line.ofTexts back).map (.renumber f))).map Transcript.module) := by
  by_cases joined : ∃ last ∈ (Line.ofTexts front).getLast?, ∃ next ∈ (Line.ofTexts back).head?, last.joins next = true
  · obtain ⟨last, isLast, next, isNext, joins⟩ := joined
    obtain ⟨rest, behind⟩ := List.head?_eq_some_iff.mp isNext
    simp only [Line.joins, Bool.or_eq_true, Bool.and_eq_true, beq_iff_eq] at joins
    rw [behind]
    rcases joins with ⟨told, continued⟩ | ⟨offers, continued⟩
    · exact alike_paragraphs ran isLast behind told continued f
    · exact alike_menus ran isLast behind offers continued f
  · have apart : ∀ last ∈ (Line.ofTexts front).getLast?, ∀ next ∈ (Line.ofTexts back).head?,
        last.joins next = false := fun last isLast next isNext =>
      Bool.eq_false_iff.mpr fun joins => joined ⟨last, isLast, next, isNext, joins⟩
    rw [Transcript.settle_apart]
    · exact .refl (fun _ => .apart apart) _
    · refine Transcript.pending_apart rfl ran fun last isLast next isNext => ?_
      rw [List.head?_map] at isNext
      obtain ⟨original, isHead, rfl⟩ := Option.map_eq_some_iff.mp isNext
      exact apart last isLast original isHead

theorem gap_outcome {gap : String} (empty : (Line.classify gap (front.length + 1)).isGap = true) :
    ∃ settled, Alike (Parted front back) (compileTexts (front ++ back)).result settled ∧
      (compileTexts (front ++ gap :: back)).result =
        settled.mapError (.renumber (Line.numberBehind front.length 1)) := by
  refine ⟨_, ?_, result_gap empty⟩
  rw [result_append]
  cases ran : Transcript.start.run (Line.ofTexts front) with
  | error fault => exact .failed fault
  | ok t => exact alike_settled ran _

/-- An empty text between the texts of a story ends the paragraph or menu that runs on over it, and
changes no other module. What is wrong with a story stays wrong, one line further down if it
stands behind the empty text. -/
theorem gaps_part_neighbours {gap : String} (empty : (Line.classify gap (front.length + 1)).isGap = true) :
    (∀ text, (compileTexts (front ++ back)).result = .ok text →
      ∃ parted, (compileTexts (front ++ gap :: back)).result = .ok parted ∧ Parted front back text parted ∧
        ∀ other, Parted front back text other → other = parted) ∧
    ∀ failure, (compileTexts (front ++ back)).result.mapError Fault.toFailure = .error failure →
      (compileTexts (front ++ gap :: back)).result.mapError Fault.toFailure =
        .error (failure.renumber (Line.numberBehind front.length 1)) := by
  obtain ⟨settled, alike, cut⟩ := gap_outcome empty
  rw [cut, Fault.mapError_renumber]
  generalize (compileTexts (front ++ back)).result = whole at alike
  cases alike with
  | failed fault =>
    refine ⟨fun _ compiled => (by cases compiled), fun _ failed => ?_⟩
    cases failed
    rfl
  | compiled parts =>
    refine ⟨fun _ compiled => ?_, fun _ failed => (by cases failed)⟩
    cases compiled
    exact ⟨_, rfl, parts, fun _ => parts.unique⟩

/-- A tab ends a paragraph, and an unfinished condition is found one line further down. -/
theorem gaps_part_neighbours_tab :
    (Line.classify "\t" (["Hi"].length + 1)).isGap = true ∧
    (∃ parted, (compileTexts (["Hi"] ++ "\t" :: ["you"])).result = .ok parted ∧
      Parted ["Hi"] ["you"] (Module.imports ++ "game.say(`Hi\nyou`);\n" ++ Script.ending) parted ∧
      ∀ other, Parted ["Hi"] ["you"] (Module.imports ++ "game.say(`Hi\nyou`);\n" ++ Script.ending) other →
        other = parted) ∧
    (Line.classify "\t" (["=a= A", ">b go"].length + 1)).isGap = true ∧
    (compileTexts (["=a= A", ">b go"] ++ "\t" :: [">c ?x"])).result.mapError Fault.toFailure =
      .error (.story 4 "conditional choice is missing ';'.") := by
  have empty : (Line.classify "\t" (["Hi"].length + 1)).isGap = true := by decide
  have between : (Line.classify "\t" (["=a= A", ">b go"].length + 1)).isGap = true := by decide
  refine ⟨empty, (gaps_part_neighbours empty).1 _ ?_, between, (gaps_part_neighbours between).2 (.story 3 _) ?_⟩
  · rw [compileTexts_eq_transcript]
    rfl
  · rw [compileTexts_eq_transcript]
    rfl

end Gap

end Story

end StoryScript

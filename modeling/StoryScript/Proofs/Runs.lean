import StoryScript.Proofs.Passage

namespace StoryScript

theorem intercalate_cons_eq_join (separator first : String) (rest : List String) :
    separator.intercalate (first :: rest) = first ++ String.join (rest.map (separator ++ ·)) := by
  induction rest generalizing first with
  | nil => simp
  | cons second rest ih =>
    rw [String.intercalate_cons_cons, ih]
    simp [String.append_assoc]

def Line.readChoice (line : Line) : Except Fault Choice :=
  match Choice.read? line.content with
  | some choice => .ok choice
  | none => .error ⟨line.number, .unfinishedCondition⟩

/-- A menu is read choice by choice. -/
theorem Line.read_of_mapM_cons {line : Line} {rest : List Line} {choices : List Choice}
    (all : (line :: rest).mapM Line.readChoice = .ok choices) :
    ∃ choice more, Choice.read? line.content = some choice ∧ rest.mapM Line.readChoice = .ok more ∧
      choices = choice :: more := by
  rw [List.mapM_cons] at all
  unfold Line.readChoice at all
  cases found : Choice.read? line.content with
  | none => rw [found] at all; cases all
  | some choice =>
    rw [found] at all
    change (rest.mapM Line.readChoice).bind _ = _ at all
    cases others : rest.mapM Line.readChoice with
    | error fault => rw [others] at all; cases all
    | ok more =>
      rw [others] at all
      cases all
      exact ⟨choice, more, rfl, rfl, rfl⟩

theorem Line.read_of_mapM {lines : List Line} {choices : List Choice} (all : lines.mapM Line.readChoice = .ok choices) :
    ∀ line ∈ lines, Choice.read? line.content ≠ none := by
  induction lines generalizing choices with
  | nil => simp
  | cons line rest ih =>
    obtain ⟨choice, more, found, others, _⟩ := read_of_mapM_cons all
    exact List.forall_mem_cons.mpr ⟨by simp [found], ih others⟩

/-- A menu is refused at its first choice that cannot be read. -/
theorem Line.unread_of_mapM {lines : List Line} {fault : Fault} (failed : lines.mapM Line.readChoice = .error fault) :
    ∃ early line late, lines = early ++ line :: late ∧ (∀ other ∈ early, Choice.read? other.content ≠ none) ∧
      Choice.read? line.content = none ∧ fault = ⟨line.number, .unfinishedCondition⟩ := by
  induction lines with
  | nil => cases failed
  | cons line rest ih =>
    rw [List.mapM_cons] at failed
    cases found : Choice.read? line.content with
    | none =>
      rw [readChoice, found] at failed
      cases failed
      exact ⟨[], line, rest, rfl, by simp, found, rfl⟩
    | some choice =>
      rw [readChoice, found] at failed
      change (rest.mapM Line.readChoice).bind _ = _ at failed
      cases others : rest.mapM Line.readChoice with
      | ok more =>
        rw [others] at failed
        cases failed
      | error other =>
        rw [others] at failed
        cases failed
        obtain ⟨early, unread, late, rfl, read, none, same⟩ := ih others
        exact ⟨line :: early, unread, late, rfl, List.forall_mem_cons.mpr ⟨by simp [found], read⟩, none, same⟩

namespace Transcript

@[simp] theorem passage_nil (inNode : Bool) (scope : Scope) :
    passage inNode scope [] = .ok ("", scope) := by
  simp [passage, close, blank, Except.map]

/-- A line that the next one does not continue is a passage of its own. -/
theorem passage_cons {inNode : Bool} {line : Line} {rest : List Line} (scope : Scope)
    (plain : line.kind ≠ .header) (apart : ∀ next ∈ rest.head?, line.joins next = false) :
    passage inNode scope (line :: rest) =
      (passage inNode scope [line]).andThen (passage inNode · rest) := by
  have alone : ∀ other ∈ [line], other.kind ≠ .header := by simpa using plain
  exact passage_append scope alone (by simpa using apart)

theorem passage_singleton (inNode : Bool) (scope : Scope) (line : Line) :
    passage inNode scope [line] = ((blank inNode scope).addition line).map fun added =>
      (added ++ (Pending.of line).closing, line.declaredScope?.getD scope) := by
  rw [passage, run_cons, step]
  cases (blank inNode scope).addition line with
  | error fault => rfl
  | ok added => simp [Except.map, Except.bind, close, blank]

theorem passage_of_fault {inNode : Bool} {scope : Scope} {line : Line} {fault : Fault} (rest : List Line)
    (faulty : (blank inNode scope).addition line = .error fault) :
    passage inNode scope (line :: rest) = .error fault := by
  rw [passage, run_cons, step, faulty]
  rfl

theorem passage_gap {line : Line} (inNode : Bool) (scope : Scope) (gap : line.isGap = true) :
    passage inNode scope [line] = .ok ("", scope) := by
  obtain ⟨kind, empty⟩ := Line.isGap_iff.mp gap
  rw [passage_singleton]
  simp [addition, blank, kind, empty, Pending.of, Line.isTold, Line.declaredScope?, Except.map]

theorem passage_code {line : Line} (inNode : Bool) (scope : Scope) (kind : line.kind = .code) :
    passage inNode scope [line] = .ok (Script.codeLine line, scope) := by
  rw [passage_singleton]
  simp [addition, blank, kind, Pending.of, Line.isTold, Line.declaredScope?, Except.map]

theorem passage_command {line : Line} (inNode : Bool) (scope : Scope) (kind : line.kind = .command) :
    passage inNode scope [line] =
      .ok (Script.directive (Command.read line.content), line.declaredScope?.getD scope) := by
  rw [passage_singleton]
  simp [addition, blank, kind, Pending.of, Line.isTold, Except.map]

theorem step_told (t : Transcript) {line : Line} (told : line.isTold = true) :
    t.step line = .ok { t with
      pending := .paragraph
      text := t.text ++ if t.pending = .paragraph then "\n" ++ line.content
        else t.pending.closing ++ "game.say(`" ++ line.content } := by
  obtain ⟨kind, notBlank⟩ := Line.isTold_iff.mp told
  by_cases inside : t.pending = .paragraph <;>
    simp [step, addition, kind, notBlank, inside, Pending.of, told, Line.declaredScope?, Except.map]

/-- Inside a paragraph every further line stands behind a line feed. -/
theorem run_told {t : Transcript} {lines : List Line} (inside : t.pending = .paragraph)
    (told : ∀ line ∈ lines, line.isTold = true) :
    t.run lines = .ok { t with text := t.text ++ String.join (lines.map ("\n" ++ ·.content)) } := by
  induction lines generalizing t with
  | nil => simp
  | cons line rest ih =>
    rw [run_cons, step_told t (told line List.mem_cons_self), if_pos inside]
    refine (ih rfl fun other member => told other (List.mem_cons_of_mem line member)).trans ?_
    simp [inside, String.append_assoc]

theorem passage_paragraph {first : Line} {more : List Line} (inNode : Bool) (scope : Scope)
    (told : ∀ line ∈ first :: more, line.isTold = true) :
    passage inNode scope (first :: more) =
      .ok (Script.paragraph ((first :: more).map (·.content)), scope) := by
  rw [passage, run_cons, step_told _ (told first List.mem_cons_self)]
  change (run _ more).map _ = _
  rw [run_told rfl fun line member => told line (List.mem_cons_of_mem first member)]
  simp [Except.map, close, blank, Pending.closing, Script.paragraph, intercalate_cons_eq_join,
    String.append_assoc, Function.comp_def]

theorem step_choice {t : Transcript} {line : Line} (inNode : t.inNode = true)
    (kind : line.kind = .choice) :
    t.step line = line.readChoice.map fun choice => { t with
      pending := .menu
      text := t.text ++ if t.pending = .menu then ",\n" ++ Script.element t.scope choice
        else t.pending.closing ++ "game.choose(\n" ++ Script.element t.scope choice } := by
  unfold step addition Line.readChoice
  simp only [kind, inNode, if_true]
  cases Choice.read? line.content with
  | none => rfl
  | some choice =>
    by_cases inside : t.pending = .menu <;>
      simp [inside, Pending.of, Line.isTold, kind, Line.declaredScope?, Except.map]

/-- Inside a menu every further choice stands behind a comma, up to the first unfinished
condition. -/
theorem run_choices {t : Transcript} {lines : List Line} (inside : t.pending = .menu)
    (inNode : t.inNode = true) (choices : ∀ line ∈ lines, line.kind = .choice) :
    t.run lines = (lines.mapM Line.readChoice).map fun read =>
      { t with text := t.text ++ String.join (read.map (",\n" ++ Script.element t.scope ·)) } := by
  induction lines generalizing t with
  | nil => simp [pure, Except.pure, Except.map]
  | cons line rest ih =>
    rw [run_cons, List.mapM_cons, step_choice inNode (choices line List.mem_cons_self)]
    cases line.readChoice with
    | error fault => rfl
    | ok choice =>
      have later : ∀ other ∈ rest, other.kind = .choice := fun other member =>
        choices other (List.mem_cons_of_mem line member)
      refine (ih rfl (by exact inNode) later).trans ?_
      cases rest.mapM Line.readChoice with
      | error fault => rfl
      | ok read => simp [inside, bind, Except.bind, pure, Except.pure, Except.map, String.append_assoc]

theorem passage_menu {first : Line} {more : List Line} (scope : Scope)
    (choices : ∀ line ∈ first :: more, line.kind = .choice) :
    passage true scope (first :: more) = ((first :: more).mapM Line.readChoice).map fun read =>
      (Script.menu (read.map (Script.element scope)), scope) := by
  rw [passage, run_cons, List.mapM_cons, step_choice rfl (choices first List.mem_cons_self)]
  cases first.readChoice with
  | error fault => rfl
  | ok choice =>
    change (run _ more).map _ = _
    rw [run_choices rfl rfl fun line member => choices line (List.mem_cons_of_mem first member)]
    cases more.mapM Line.readChoice with
    | error fault => rfl
    | ok read =>
      simp [bind, Except.bind, pure, Except.pure, Except.map, close, blank, Pending.closing, Script.menu,
        intercalate_cons_eq_join, String.append_assoc, Function.comp_def]

theorem passage_gaps {gaps rest : List Line} (inNode : Bool) (scope : Scope)
    (empty : ∀ line ∈ gaps, line.isGap = true) :
    passage inNode scope (gaps ++ rest) = passage inNode scope rest := by
  induction gaps with
  | nil => rfl
  | cons line gaps ih =>
    have gap := empty line List.mem_cons_self
    have kind : line.kind = .narrative := (Line.isGap_iff.mp gap).1
    rw [List.cons_append, passage_cons scope (by simp [kind])
      fun next _ => Line.joins_eq_false_iff.mpr (Or.inl (Pending.of_gap gap)), passage_gap inNode scope gap,
      Passage.andThen_ok, ih fun other member => empty other (List.mem_cons_of_mem line member)]
    cases passage inNode scope rest <;> simp [Except.map]

theorem passage_script {lines : List Line} (inNode : Bool) (scope : Scope)
    (code : ∀ line ∈ lines, line.kind = .code) :
    passage inNode scope lines = .ok (String.join (lines.map Script.codeLine), scope) := by
  induction lines with
  | nil => simp
  | cons line rest ih =>
    have kind := code line List.mem_cons_self
    have settled : Pending.of line = .nothing := by simp [Pending.of, Line.isTold, kind]
    rw [passage_cons scope (by simp [kind])
      fun next _ => Line.joins_eq_false_iff.mpr (Or.inl settled), passage_code inNode scope kind,
      Passage.andThen_ok, ih fun other member => code other (List.mem_cons_of_mem line member)]
    simp [Except.map]

end Transcript

end StoryScript

import StoryScript.Emitter
import StoryScript.Proofs.Runs

namespace StoryScript.Emitter

def text (e : Emitter) : String :=
  Statement.renderAll e.statements.toList

def outcome : EStateM.Result Fault Emitter Unit → Passage
  | .ok () e => .ok (e.text, e.scope)
  | .error fault _ => .error fault

/-- Run in `scope`, an action adds the text of `passage` to whatever stood before and leaves its
scope, or it stops with its fault. -/
def Writes (action : EmitM Unit) (scope : Scope) (passage : Passage) : Prop :=
  ∀ e : Emitter, e.scope = scope →
    outcome (action.run e) = Passage.andThen (.ok (e.text, e.scope)) fun _ => passage

theorem Writes.pure (scope : Scope) : Writes (pure ()) scope (.ok ("", scope)) := by
  rintro e rfl
  simp [outcome, Passage.andThen_ok, Except.map]

theorem Writes.fail (scope : Scope) (line : Line) (cause : Fault.Cause) :
    Writes (fail line cause) scope (.error ⟨line.number, cause⟩) := by
  intro e _
  rfl

theorem Writes.note (scope : Scope) (event : Log.Event) : Writes (note event) scope (.ok ("", scope)) := by
  rintro e rfl
  simp [outcome, Passage.andThen_ok, Except.map, text]

theorem Writes.emit (scope : Scope) (statement : Statement) :
    Writes (emit statement) scope (.ok (statement.render, scope)) := by
  rintro e rfl
  simp [outcome, Passage.andThen_ok, Except.map, text, Statement.renderAll_append]

theorem Writes.enter (scope next : Scope) : Writes (enter next) scope (.ok ("", next)) := by
  rintro e rfl
  simp [outcome, Passage.andThen_ok, Except.map, text]

/-- What a second action writes follows what the first one wrote, in the scope that it left. -/
theorem Writes.bind {first second : EmitM Unit} {scope : Scope} {passage : Passage}
    {next : Scope → Passage} (before : Writes first scope passage)
    (after : ∀ scope, Writes second scope (next scope)) :
    Writes (first >>= fun _ => second) scope (passage.andThen next) := by
  intro e same
  have ran := before e same
  rw [EStateM.run_bind]
  cases result : first.run e with
  | error fault e' =>
    rw [result] at ran
    cases passage with
    | error _ => exact ran
    | ok _ => cases ran
  | ok _ e' =>
    rw [result] at ran
    cases passage with
    | error _ => cases ran
    | ok written =>
      obtain ⟨text, last⟩ := written
      simp only [outcome, Passage.andThen_ok, Except.map, Except.ok.injEq, Prod.mk.injEq] at ran
      change outcome (second.run e') = _
      rw [after e'.scope e' rfl]
      simp only [Passage.andThen_ok, ran]
      cases next last <;> simp [Except.map, String.append_assoc]

/-- A paragraph after gaps is written as if the gaps were not there. -/
theorem emitParagraph_writes {gaps told : List Line} (inNode : Bool) (scope : Scope)
    (empty : ∀ line ∈ gaps, line.isGap = true) (full : ∀ line ∈ told, line.isTold = true) :
    Writes (emitParagraph (gaps ++ told)) scope (Transcript.passage inNode scope (gaps ++ told)) := by
  have dropped : gaps.filter (!·.isBlank) = [] := by
    simp only [List.filter_eq_nil_iff, Bool.not_eq_true', Bool.not_eq_false]
    intro line member
    exact (Line.isGap_iff.mp (empty line member)).2
  have kept : told.filter (!·.isBlank) = told := by
    simp only [List.filter_eq_self, Bool.not_eq_true']
    intro line member
    exact (Line.isTold_iff.mp (full line member)).2
  rw [Transcript.passage_gaps inNode scope empty, emitParagraph, List.filter_append, dropped, kept,
    List.nil_append]
  cases told with
  | nil => rw [Transcript.passage_nil]; exact .pure scope
  | cons first more => rw [Transcript.passage_paragraph inNode scope full]; exact .emit scope _

theorem Writes.forM {α : Type} {action : α → EmitM Unit} {text : α → String}
    (each : ∀ item scope, Writes (action item) scope (.ok (text item, scope))) (items : List α)
    (scope : Scope) : Writes (items.forM action) scope (.ok (String.join (items.map text), scope)) := by
  induction items generalizing scope with
  | nil => exact .pure scope
  | cons item rest ih =>
    change Writes (action item >>= fun _ => rest.forM action) _ _
    rw [List.map_cons, String.join_cons]
    exact (each item scope).bind ih

theorem emitScript_writes {lines : List Line} (inNode : Bool) (scope : Scope)
    (code : ∀ line ∈ lines, line.kind = .code) :
    Writes (emitScript lines) scope (Transcript.passage inNode scope lines) := by
  rw [Transcript.passage_script inNode scope code]
  exact Writes.forM (fun line scope => .emit scope _) lines scope

theorem emitCommand_writes {line : Line} (inNode : Bool) (scope : Scope) (kind : line.kind = .command) :
    Writes (emitCommand line) scope (Transcript.passage inNode scope [line]) := by
  rw [Transcript.passage_command inNode scope kind]
  unfold emitCommand Script.directive Line.declaredScope?
  dsimp only
  rw [kind]
  generalize Command.read line.content = command
  by_cases image : command.name = "img"
  · have unnamed : command.name ≠ "scope" := by simp [image]
    rw [if_pos image, if_pos image, if_neg (by simp [unnamed])]
    exact .emit scope (.showImage command.body)
  · rw [if_neg image, if_neg image]
    by_cases named : command.name = "scope"
    · rw [if_pos named, if_pos named, if_pos ⟨rfl, named⟩]
      have entered (before : Scope) :=
        (Writes.enter before ⟨command.body⟩).bind fun last => .emit last (.enterScope ⟨command.body⟩)
      have noted := (Writes.note scope (.scopeEntered line.number ⟨command.body⟩)).bind entered
      simp only [Passage.andThen_ok, Except.map, String.empty_append] at noted
      exact noted
    · rw [if_neg named, if_neg named, if_neg (by simp [named])]
      exact .emit scope (.sayWith command.name command.body)

/-- Reading the choices of a menu changes nothing; the first unfinished one stops it. -/
theorem run_mapM_readLink (scope : Scope) (lines : List Line) (e : Emitter) :
    (lines.mapM (readLink scope)).run e =
      match lines.mapM Line.readChoice with
      | .ok read => .ok (read.map (·.link scope)) e
      | .error fault => .error fault e := by
  induction lines with
  | nil => rfl
  | cons line rest ih =>
    rw [List.mapM_cons, List.mapM_cons, EStateM.run_bind, readLink, Line.readChoice]
    cases Choice.read? line.content with
    | none => rfl
    | some choice =>
      simp only [EStateM.run_pure, EStateM.run_bind, ih]
      cases rest.mapM Line.readChoice <;> rfl

theorem emitMenu_writes {first : Line} {more : List Line} (scope : Scope)
    (choices : ∀ line ∈ first :: more, line.kind = .choice) :
    Writes (emitMenu (first :: more)) scope (Transcript.passage true scope (first :: more)) := by
  rintro e rfl
  rw [Transcript.passage_menu e.scope choices, emitMenu, EStateM.run_bind, run_currentScope]
  change outcome (EStateM.run (_ >>= _) e) = _
  rw [EStateM.run_bind, run_mapM_readLink]
  cases (first :: more).mapM Line.readChoice with
  | error fault => simp only [outcome, Passage.andThen_ok, Except.map]
  | ok read =>
    have emitted := Writes.emit e.scope (.choose (read.map (·.link e.scope))) e rfl
    rw [Script.render_choose] at emitted
    exact emitted

end StoryScript.Emitter

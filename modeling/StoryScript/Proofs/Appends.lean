import StoryScript.Proofs.Steps
import StoryScript.Proofs.Writes

namespace StoryScript.Emitter

/-- An emitter with what `earlier` emitted and logged in front of its own. -/
def behind (own earlier : Emitter) : Emitter :=
  { scope := own.scope, statements := earlier.statements ++ own.statements, log := earlier.log ++ own.log }

/-- The outcome of an action, with all that was emitted and logged up to it behind what `earlier` had. -/
def resultBehind {α : Type} (earlier : Emitter) : EStateM.Result Fault Emitter α → EStateM.Result Fault Emitter α
  | .ok a own => .ok a (own.behind earlier)
  | .error fault own => .error fault (own.behind earlier)

theorem text_behind (own earlier : Emitter) : (own.behind earlier).text = earlier.text ++ own.text := by
  rw [text, behind, Array.toList_append, Statement.renderAll_append]
  rfl

theorem inScope_behind (e : Emitter) : (inScope e.scope).behind e = e := by
  simp [behind, inScope]

/-- An action that never looks at what was emitted and logged before it. Whatever that was, it ends
alike and puts the same behind it. -/
def Appends {α : Type} (action : EmitM α) : Prop :=
  ∀ own earlier : Emitter, action.run (own.behind earlier) = resultBehind earlier (action.run own)

namespace Appends

section Outcome

variable {α : Type} {action : EmitM α} (appends : Appends action)

include appends

theorem run_eq (e : Emitter) : action.run e = resultBehind e (action.run (.inScope e.scope)) := by
  rw [← appends, inScope_behind]

/-- Of what there was before, the scope alone decides what comes of the action. -/
theorem exists_result (e : Emitter) :
    ∃ result, ∀ other : Emitter, other.scope = e.scope → action.run other = resultBehind other result :=
  ⟨action.run (.inScope e.scope), fun other same => by rw [appends.run_eq, same]⟩

theorem of_ok {a : α} {e next : Emitter} (ran : action.run e = .ok a next) :
    ∃ own : Emitter, ∀ other, other.scope = e.scope → action.run other = .ok a (own.behind other) := by
  obtain ⟨result, alike⟩ := appends.exists_result e
  have here := (alike e rfl).symm.trans ran
  cases result with
  | error fault own => cases here
  | ok b own =>
    cases here
    exact ⟨own, alike⟩

theorem of_error {fault : Fault} {e last : Emitter} (failed : action.run e = .error fault last) :
    ∃ own : Emitter, ∀ other, other.scope = e.scope → action.run other = .error fault (own.behind other) := by
  obtain ⟨result, alike⟩ := appends.exists_result e
  have here := (alike e rfl).symm.trans failed
  cases result with
  | ok a own => cases here
  | error cause own =>
    cases here
    exact ⟨own, alike⟩

end Outcome

section Combine

variable {α β : Type}

theorem pure (a : α) : Appends (pure a) := by
  intro own earlier
  rfl

theorem fail (line : Line) (cause : Fault.Cause) : Appends (fail line cause : EmitM α) := by
  intro own earlier
  rfl

theorem bind {first : EmitM α} {next : α → EmitM β} (before : Appends first) (after : ∀ a, Appends (next a)) :
    Appends (first >>= next) := by
  intro own earlier
  have shifted := before own earlier
  cases ran : first.run own with
  | error fault last =>
    rw [ran] at shifted
    rw [run_bind_of_error shifted, run_bind_of_error ran]
    rfl
  | ok a last =>
    -- Where the first action stops, all it has added stands behind `earlier` as well.
    rw [ran] at shifted
    rw [run_bind_of_ok shifted, run_bind_of_ok ran, after a]

theorem forM {action : α → EmitM Unit} (each : ∀ item, Appends (action item)) (items : List α) :
    Appends (items.forM action) := by
  induction items with
  | nil => exact pure ()
  | cons item rest ih => exact (each item).bind fun _ => ih

theorem mapM {action : α → EmitM β} (each : ∀ item, Appends (action item)) (items : List α) :
    Appends (items.mapM action) := by
  induction items with
  | nil => exact pure []
  | cons item rest ih =>
    rw [List.mapM_cons]
    exact (each item).bind fun first => ih.bind fun more => pure (first :: more)

end Combine

theorem emit (statement : Statement) : Appends (emit statement) := by
  intro own earlier
  simp [behind, resultBehind]

theorem note (event : Log.Event) : Appends (note event) := by
  intro own earlier
  simp [behind, resultBehind]

theorem enter (scope : Scope) : Appends (enter scope) := by
  intro own earlier
  rfl

theorem currentScope : Appends currentScope := by
  intro own earlier
  rfl

theorem readLink (scope : Scope) (line : Line) : Appends (readLink scope line) := by
  unfold Emitter.readLink
  cases Choice.read? line.content with
  | none => exact fail line .unfinishedCondition
  | some choice => exact pure (choice.link scope)

theorem emitMenu (choices : List Line) : Appends (emitMenu choices) :=
  currentScope.bind fun scope => (mapM (readLink scope) choices).bind fun links => emit (.choose links)

theorem emitParagraph (lines : List Line) : Appends (emitParagraph lines) := by
  unfold Emitter.emitParagraph
  cases lines.filter (!·.isBlank) with
  | nil => exact pure ()
  | cons first more => exact emit (.say ((first :: more).map (·.content)))

theorem emitScript (lines : List Line) : Appends (emitScript lines) :=
  forM (fun _ => emit _) lines

theorem emitCommand (line : Line) : Appends (emitCommand line) := by
  unfold Emitter.emitCommand
  dsimp only
  generalize Command.read line.content = command
  by_cases image : command.name = "img"
  · rw [if_pos image]
    exact emit (.showImage command.body)
  · rw [if_neg image]
    by_cases named : command.name = "scope"
    · rw [if_pos named]
      exact (note _).bind fun _ => (enter _).bind fun _ => emit (.enterScope ⟨command.body⟩)
    · rw [if_neg named]
      exact emit (.sayWith command.name command.body)

theorem emitBlock {level : Level} {node : Block → EmitM Unit} (nodes : ∀ block, Appends (node block)) (block : Block) :
    Appends (emitBlock level node block) := by
  refine (note _).bind fun _ => ?_
  cases block.lead.kind with
  | header => exact nodes block
  | narrative => exact emitParagraph block.lines
  | code => exact emitScript block.lines
  | command => exact emitCommand block.lead
  | choice =>
    cases level with
    | topLevel => exact fail block.lead .choiceOutsideNode
    | inNode => exact emitMenu block.lines
  | comment => exact fail block.lead .strayComment

theorem emitInner (block : Block) : Appends (emitInner block) :=
  emitBlock (fun nested => fail nested.lead .nestedNode) block

theorem emitNode (block : Block) : Appends (emitNode block) := by
  unfold Emitter.emitNode
  dsimp only
  cases headerId block.lead with
  | error cause => exact fail block.lead cause
  | ok id =>
    refine currentScope.bind fun scope => (note _).bind fun _ => (emit _).bind fun _ => ?_
    exact (forM emitInner _).bind fun _ => emit .closeNode

theorem emitAt (level : Level) (block : Block) : Appends (emitAt level block) := by
  cases level with
  | topLevel => exact emitBlock emitNode block
  | inNode => exact emitInner block

end Appends

end StoryScript.Emitter

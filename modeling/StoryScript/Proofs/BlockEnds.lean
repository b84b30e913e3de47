import StoryScript.Proofs.Classified
import StoryScript.Proofs.Effects

namespace StoryScript

/-- The announcements in a log. -/
def Log.dispatches (events : List Event) : List Event :=
  events.filter fun
    | .dispatching _ _ _ => true
    | _ => false

theorem Log.dispatches_append (front back : List Event) :
    dispatches (front ++ back) = dispatches front ++ dispatches back :=
  List.filter_append front back

/-- How a block without a header ends. It is refused for a stray comment, for a choice outside every
node or for a choice that cannot be read. -/
inductive Block.Ends (level : Level) (block : Block) : EStateM.Result Fault Emitter Unit → Prop
  | done {next} : block.lead.kind ≠ .comment →
      (block.lead.kind = .choice → level = .inNode ∧ ∃ choices, block.lines.mapM Line.readChoice = .ok choices) →
      Ends level block (.ok () next)
  | stray {last} : block.lead.kind = .comment → Ends level block (.error ⟨block.lead.number, .strayComment⟩ last)
  | outside {last} : block.lead.kind = .choice → level = .topLevel →
      Ends level block (.error ⟨block.lead.number, .choiceOutsideNode⟩ last)
  | unread {fault last} : block.lead.kind = .choice → level = .inNode →
      block.lines.mapM Line.readChoice = .error fault → Ends level block (.error fault last)

namespace Emitter

def dispatches (e : Emitter) : List Log.Event :=
  Log.dispatches e.log.toList

/-- The emitter that a run leaves, be it refused or not. -/
def left {α : Type} : EStateM.Result Fault Emitter α → Emitter
  | .ok _ e => e
  | .error _ e => e

theorem dispatches_push (e : Emitter) (event : Log.Event) :
    dispatches { e with log := e.log.push event } = e.dispatches ++ Log.dispatches [event] := by
  rw [dispatches, Array.toList_push, Log.dispatches_append]
  rfl

/-- Commands are never refused, and announce nothing. -/
theorem run_emitCommand (line : Line) (e : Emitter) :
    ∃ next, (emitCommand line).run e = .ok () next ∧ next.dispatches = e.dispatches := by
  unfold emitCommand
  dsimp only
  generalize Command.read line.content = command
  by_cases image : command.name = "img"
  · rw [if_pos image]
    exact ⟨_, run_emit_eq_adding _ e, rfl⟩
  · rw [if_neg image]
    by_cases named : command.name = "scope"
    · rw [if_pos named]
      refine ⟨_, rfl, ?_⟩
      change dispatches { e with log := e.log.push (.scopeEntered line.number ⟨command.body⟩) } = _
      rw [dispatches_push]
      exact List.append_nil _
    · rw [if_neg named]
      exact ⟨_, run_emit_eq_adding _ e, rfl⟩

/-- A block is announced, whether it is refused or not, and nothing else is. -/
theorem emitBlock_ends (level : Level) (node : Block → EmitM Unit) {block : Block} (e : Emitter)
    (plain : block.lead.kind ≠ .header) :
    block.Ends level ((emitBlock level node block).run e) ∧
      (left ((emitBlock level node block).run e)).dispatches =
        e.dispatches ++ [.dispatching block.lead.number block.lead.kind level] := by
  have announced := dispatches_push e (.dispatching block.lead.number block.lead.kind level)
  unfold emitBlock
  rw [run_bind_of_ok (run_note _ e)]
  generalize Emitter.mk e.scope e.statements _ = noted at announced ⊢
  have silent {kind : Line.Kind} (leads : block.lead.kind = kind) (proper : kind ≠ .comment)
      (unoffered : kind ≠ .choice) {next : Emitter} {result : EStateM.Result Fault Emitter Unit}
      (ran : result = .ok () next) (same : next.dispatches = noted.dispatches) :
      block.Ends level result ∧ (left result).dispatches =
        e.dispatches ++ [.dispatching block.lead.number kind level] := by
    subst leads
    rw [ran]
    exact ⟨.done proper fun offers => absurd offers unoffered, same.trans announced⟩
  cases kind : block.lead.kind with
  | header => exact absurd kind plain
  | narrative =>
    obtain ⟨added, _, ran⟩ := run_emitParagraph block.lines noted
    exact silent kind (by simp) (by simp) ran rfl
  | code =>
    obtain ⟨added, _, ran⟩ := run_emitScript block.lines noted
    exact silent kind (by simp) (by simp) ran rfl
  | command =>
    obtain ⟨next, ran, same⟩ := run_emitCommand block.lead noted
    exact silent kind (by simp) (by simp) ran same
  | choice =>
    rw [kind] at announced
    cases level with
    | topLevel => exact ⟨.outside kind rfl, announced⟩
    | inNode =>
      dsimp only
      rw [run_emitMenu]
      cases read : block.lines.mapM Line.readChoice with
      | error fault => exact ⟨.unread kind rfl read, announced⟩
      | ok choices => exact ⟨.done (by simp [kind]) fun _ => ⟨rfl, choices, read⟩, announced⟩
  | comment =>
    rw [kind] at announced
    exact ⟨.stray kind, announced⟩

theorem emitAt_ends {lead : Line} (level : Level) (rest : List Line) (e : Emitter) (plain : lead.kind ≠ .header) :
    (Block.cut lead rest).1.Ends level ((emitAt level (Block.cut lead rest).1).run e) ∧
      (left ((emitAt level (Block.cut lead rest).1).run e)).dispatches =
        e.dispatches ++ [.dispatching lead.number lead.kind level] := by
  cases level with
  | topLevel => exact emitBlock_ends .topLevel emitNode e plain
  | inNode => exact emitBlock_ends .inNode (fun nested => fail nested.lead .nestedNode) e plain

/-- A classified header opens its node and is announced. -/
theorem run_openNode {header : Line} (classified : header.IsClassified) (kind : header.kind = .header)
    (e : Emitter) : ∃ next, (openNode header).run e = .ok () next ∧
      next.dispatches = e.dispatches ++ [.dispatching header.number header.kind .topLevel] := by
  obtain ⟨id, found, _⟩ := classified.headerId_eq kind
  unfold openNode
  rw [run_bind_of_ok (run_note _ e), found]
  refine ⟨_, rfl, ?_⟩
  change Log.dispatches ((e.log.push (.dispatching header.number header.kind .topLevel)).push
    (.nodeOpened header.number _)).toList = _
  rw [Array.toList_push, Array.toList_push, Log.dispatches_append, Log.dispatches_append]
  exact List.append_nil _

end Emitter

end StoryScript

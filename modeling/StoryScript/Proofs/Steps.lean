import Mathlib.Logic.Relation
import StoryScript.Proofs.BlockCuts
import StoryScript.Story

namespace StoryScript

namespace Emitter

/-- The handler of a block at a level. -/
def emitAt : Level → Block → EmitM Unit
  | .topLevel => emitOuter
  | .inNode => emitInner

/-- What is done at a header before the first line behind it. -/
def openNode (header : Line) : EmitM Unit := do
  note (.dispatching header.number header.kind .topLevel)
  match headerId header with
  | .error cause => fail header cause
  | .ok id =>
    let scope ← currentScope
    let key := scope.key (String.ofList id)
    note (.nodeOpened header.number key)
    emit (.openNode header.content key scope)

def emitInners (lines : List Line) : EmitM Unit :=
  (Block.ofLines lines).forM emitInner

/-- The loop of a level over the lines that are left, with what it leaves of them. At the top level it
goes on to the end, inside a node to the next header. -/
def loop : Level → List Line → EmitM (List Line)
  | .topLevel, rest => do
    emitStory rest
    return []
  | .inNode, rest => do
    emitInners (rest.takeWhile (·.kind != .header))
    return rest.dropWhile (·.kind != .header)

/-- What is still to be done for the lines that are left. Inside a node, its other blocks and its
closing come first. -/
def emitRest : Level → List Line → EmitM Unit
  | .topLevel, rest => emitStory rest
  | .inNode, rest => do
    emitInners (rest.takeWhile (·.kind != .header))
    emit .closeNode
    emitStory (rest.dropWhile (·.kind != .header))

theorem emitStory_cons (lead : Line) (rest : List Line) :
    emitStory (lead :: rest) = (do emitOuter (Block.cut lead rest).1; emitStory (Block.cut lead rest).2) := by
  rw [emitStory, Block.ofLines_cons]
  rfl

theorem emitInners_cons (lead : Line) (rest : List Line) :
    emitInners (lead :: rest) = (do emitInner (Block.cut lead rest).1; emitInners (Block.cut lead rest).2) := by
  rw [emitInners, Block.ofLines_cons]
  rfl

theorem emitInners_nil : emitInners [] = pure () := by
  rw [emitInners, Block.ofLines_nil]
  rfl

theorem emitOuter_header {header : Line} (more : List Line) (kind : header.kind = .header) :
    emitOuter ⟨header, more⟩ = (do openNode header; emitInners more; emit .closeNode) := by
  funext e
  unfold emitOuter emitBlock openNode emitNode
  dsimp only
  rw [kind]
  cases headerId header <;> rfl

theorem loop_inNode {inner outer : List Line} (plain : ∀ line ∈ inner, line.kind ≠ .header)
    (headed : ∀ line ∈ outer.head?, line.kind = .header) :
    loop .inNode (inner ++ outer) = (do emitInners inner; return outer) := by
  simp only [loop, takeWhile_to_header plain headed, dropWhile_to_header plain headed]

theorem loop_inNode_of_headed {rest : List Line} (headed : ∀ line ∈ rest.head?, line.kind = .header) :
    loop .inNode rest = pure rest := by
  have stopped : loop .inNode ([] ++ rest) = _ := loop_inNode (by simp) headed
  rwa [List.nil_append, emitInners_nil, pure_bind] at stopped

/-- A turn of the loop inside a node cuts its block from all the lines that are left, but the block
claims none behind the node. -/
theorem loop_inNode_block {lead : Line} (rest : List Line) (plain : lead.kind ≠ .header) :
    loop .inNode (lead :: rest) =
      (do emitInner (Block.cut lead rest).1; loop .inNode (Block.cut lead rest).2) := by
  obtain ⟨inner, outer, rfl, others, headed⟩ := exists_append_at_header rest
  have own : ∀ line ∈ lead :: inner, line.kind ≠ .header := List.forall_mem_cons.mpr ⟨plain, others⟩
  have later : ∀ line ∈ (Block.cut lead inner).2, line.kind ≠ .header := fun line member =>
    own line (Block.cut_lines lead inner ▸ List.mem_append_right _ member)
  rw [← List.cons_append, loop_inNode own headed, emitInners_cons, Block.cut_append lead inner headed,
    loop_inNode later headed, bind_assoc]

theorem emitRest_inNode (rest : List Line) :
    emitRest .inNode rest = (do let outer ← loop .inNode rest; emit .closeNode; emitStory outer) := by
  simp only [emitRest, loop, bind_assoc, pure_bind]

theorem emitRest_block {lead : Line} (level : Level) (rest : List Line) (plain : lead.kind ≠ .header) :
    emitRest level (lead :: rest) =
      (do emitAt level (Block.cut lead rest).1; emitRest level (Block.cut lead rest).2) := by
  cases level with
  | topLevel => exact emitStory_cons lead rest
  | inNode =>
    rw [emitRest_inNode, emitRest_inNode, loop_inNode_block rest plain, bind_assoc]
    rfl

theorem emitRest_enter {header : Line} (rest : List Line) (kind : header.kind = .header) :
    emitRest .topLevel (header :: rest) = (do openNode header; emitRest .inNode rest) := by
  rw [emitRest, emitStory_cons, Block.cut_header rest kind, emitOuter_header _ kind]
  simp only [emitRest, bind_assoc]

theorem emitRest_leave {rest : List Line} (headed : ∀ line ∈ rest.head?, line.kind = .header) :
    emitRest .inNode rest = (do emit .closeNode; emitRest .topLevel rest) := by
  rw [emitRest_inNode, loop_inNode_of_headed headed, pure_bind]
  rfl

section Bind

variable {α β : Type} {first : EmitM α} {next : α → EmitM β} {e last : Emitter}

theorem run_bind_of_ok {a : α} (ran : first.run e = .ok a last) : (first >>= next).run e = (next a).run last := by
  rw [EStateM.run_bind, ran]

theorem run_bind_of_error {fault : Fault} (ran : first.run e = .error fault last) :
    (first >>= next).run e = .error fault last := by
  rw [EStateM.run_bind, ran]

end Bind

end Emitter

open Emitter

/-- Where a run stands between two steps. -/
structure Station where
  level : Level
  rest : List Line
  emitter : Emitter

namespace Station

/-- Before the first line of a story. -/
def start (lines : List Line) : Station :=
  ⟨.topLevel, lines, .inScope .global⟩

def outcome (s : Station) : EStateM.Result Fault Emitter Unit :=
  (emitRest s.level s.rest).run s.emitter

end Station

/-- One step of a run: a block is compiled, a node is opened at its header, or a node is closed
where the next header or the end is reached. -/
inductive Step : Station → Station → Prop
  | block {level lead rest e next} : lead.kind ≠ .header →
      (emitAt level (Block.cut lead rest).1).run e = .ok () next →
      Step ⟨level, lead :: rest, e⟩ ⟨level, (Block.cut lead rest).2, next⟩
  | enter {header rest e next} : header.kind = .header → (openNode header).run e = .ok () next →
      Step ⟨.topLevel, header :: rest, e⟩ ⟨.inNode, rest, next⟩
  | leave {rest e next} : (∀ line ∈ rest.head?, line.kind = .header) → (emit .closeNode).run e = .ok () next →
      Step ⟨.inNode, rest, e⟩ ⟨.topLevel, rest, next⟩

/-- No step is possible: the run stops with a fault and leaves `last`. -/
inductive Refuses : Station → Fault → Emitter → Prop
  | block {level lead rest e fault last} : lead.kind ≠ .header →
      (emitAt level (Block.cut lead rest).1).run e = .error fault last →
      Refuses ⟨level, lead :: rest, e⟩ fault last
  | enter {header rest e fault last} : header.kind = .header → (openNode header).run e = .error fault last →
      Refuses ⟨.topLevel, header :: rest, e⟩ fault last

/-- The stations of the run of a story. -/
def Reaches (lines : List Line) (s : Station) : Prop :=
  Relation.ReflTransGen Step (.start lines) s

/-- A step does the next part of what remains, so a run goes through every station it reaches. -/
theorem Step.outcome_eq {s t : Station} (step : Step s t) : s.outcome = t.outcome := by
  unfold Station.outcome
  cases step with
  | block plain ran => rw [emitRest_block _ _ plain, run_bind_of_ok ran]
  | enter kind ran => rw [emitRest_enter _ kind, run_bind_of_ok ran]
  | leave headed ran => rw [emitRest_leave headed, run_bind_of_ok ran]

theorem Refuses.outcome_eq {s : Station} {fault : Fault} {last : Emitter} (refuses : Refuses s fault last) :
    s.outcome = .error fault last := by
  unfold Station.outcome
  cases refuses with
  | block plain ran => rw [emitRest_block _ _ plain, run_bind_of_error ran]
  | enter kind ran => rw [emitRest_enter _ kind, run_bind_of_error ran]

/-- Closing a node takes no line, so being inside one counts for less than a line. -/
def Station.size (s : Station) : Nat :=
  2 * s.rest.length + if s.level = .inNode then 1 else 0

theorem Step.size_lt {s t : Station} (step : Step s t) : t.size < s.size := by
  cases step with
  | @block level lead rest e next plain ran =>
    have shorter := Block.cut_rest_length lead rest
    simp only [Station.size]
    omega
  | enter kind ran =>
    simp only [Station.size, List.length_cons, if_true, reduceCtorEq, if_false]
    omega
  | leave headed ran =>
    simp only [Station.size, if_true, reduceCtorEq, if_false]
    omega

/-- A run goes on until no lines are left at the top level, unless it is refused. -/
theorem Station.progress (s : Station) :
    (s.level = .topLevel ∧ s.rest = []) ∨ (∃ t, Step s t) ∨ ∃ fault last, Refuses s fault last := by
  obtain ⟨level, rest, e⟩ := s
  have afterBlock {lead : Line} {more : List Line} (plain : lead.kind ≠ .header) :
      (∃ t, Step ⟨level, lead :: more, e⟩ t) ∨ ∃ fault last, Refuses ⟨level, lead :: more, e⟩ fault last := by
    cases ran : (emitAt level (Block.cut lead more).1).run e with
    | ok _ next => exact Or.inl ⟨_, .block plain ran⟩
    | error fault last => exact Or.inr ⟨fault, last, .block plain ran⟩
  cases level with
  | topLevel =>
    cases rest with
    | nil => exact Or.inl ⟨rfl, rfl⟩
    | cons lead more =>
      refine Or.inr ?_
      by_cases kind : lead.kind = .header
      · cases ran : (openNode lead).run e with
        | ok _ next => exact Or.inl ⟨_, .enter kind ran⟩
        | error fault last => exact Or.inr ⟨fault, last, .enter kind ran⟩
      · exact afterBlock kind
  | inNode =>
    refine Or.inr ?_
    by_cases headed : ∀ line ∈ rest.head?, line.kind = .header
    · exact Or.inl ⟨_, .leave headed rfl⟩
    · cases rest with
      | nil => simp at headed
      | cons lead more => exact afterBlock (by simpa using headed)

/-- Step by step, every run comes to its end or to the station where it is refused. -/
theorem Station.completes (s : Station) :
    (∃ e, Relation.ReflTransGen Step s ⟨.topLevel, [], e⟩ ∧ s.outcome = .ok () e) ∨
      ∃ t fault last, Relation.ReflTransGen Step s t ∧ Refuses t fault last ∧ s.outcome = .error fault last := by
  rcases s.progress with ⟨outside, finished⟩ | ⟨t, step⟩ | ⟨fault, last, refuses⟩
  · obtain ⟨level, rest, e⟩ := s
    cases outside
    cases finished
    refine Or.inl ⟨e, .refl, ?_⟩
    rw [outcome, emitRest, emitStory, Block.ofLines_nil]
    rfl
  · have shorter := step.size_lt
    rw [step.outcome_eq]
    rcases t.completes with ⟨e, later, ended⟩ | ⟨u, fault, last, later, refuses, ended⟩
    · exact Or.inl ⟨e, .head step later, ended⟩
    · exact Or.inr ⟨u, fault, last, .head step later, refuses, ended⟩
  · exact Or.inr ⟨s, fault, last, .refl, refuses, refuses.outcome_eq⟩
termination_by s.size

section Run

variable {lines : List Line}

theorem Reaches.outcome_eq {s : Station} (reached : Reaches lines s) :
    (emitStory lines).run (.inScope .global) = s.outcome := by
  induction reached with
  | refl => rfl
  | tail _ step ih => rw [ih, step.outcome_eq]

theorem reaches_end {e : Emitter} (ran : (emitStory lines).run (.inScope .global) = .ok () e) :
    Reaches lines ⟨.topLevel, [], e⟩ := by
  rcases (Station.start lines).completes with ⟨last, reached, ended⟩ | ⟨t, fault, last, _, _, ended⟩
  · cases ran.symm.trans ended
    exact reached
  · cases ran.symm.trans ended

theorem reaches_refusal {e : Emitter} {fault : Fault}
    (ran : (emitStory lines).run (.inScope .global) = .error fault e) :
    ∃ s, Reaches lines s ∧ Refuses s fault e := by
  rcases (Station.start lines).completes with ⟨last, _, ended⟩ | ⟨t, other, last, reached, refuses, ended⟩
  · cases ran.symm.trans ended
  · cases ran.symm.trans ended
    exact ⟨t, reached, refuses⟩

end Run

namespace Story

variable {lines : List Line}

/-- A module consists of what was emitted up to the end of the run, and the scope in force there is
the last thing noted. -/
theorem run_of_compiled {text : String} (compiled : (compile lines).result = .ok text) :
    ∃ e bytes, (emitStory lines).run (.inScope .global) = .ok () e ∧ text = Module.render e.statements.toList ∧
      (compile lines).log.getLast? = some (.storyFinished bytes e.scope) := by
  unfold compile at *
  cases ran : (emitStory lines).run (.inScope .global) with
  | error fault last =>
    rw [ran] at compiled
    cases compiled
  | ok _ e =>
    rw [ran] at compiled
    cases compiled
    exact ⟨e, _, rfl, rfl, List.getLast?_concat⟩

theorem run_of_refused {fault : Fault} (refused : (compile lines).result = .error fault) :
    ∃ last, (emitStory lines).run (.inScope .global) = .error fault last := by
  unfold compile at refused
  cases ran : (emitStory lines).run (.inScope .global) with
  | ok _ e =>
    rw [ran] at refused
    cases refused
  | error fault last =>
    rw [ran] at refused
    cases refused
    exact ⟨last, rfl⟩

end Story

end StoryScript

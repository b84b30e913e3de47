import StoryScript.Proofs.Steps
import StoryScript.Proofs.Writes

namespace StoryScript

/-- Statements that neither name a node nor set the scope. -/
def Statement.isPlain : Statement → Bool
  | say _ | script _ | showImage _ | sayWith _ _ => true
  | openNode _ _ _ | closeNode | choose _ | enterScope _ => false

/-- What a block without a header adds where `scope` is in force, and the scope it leaves. -/
inductive Block.Yields (level : Level) (scope : Scope) : List Line → List Statement → Scope → Prop
  | plain {lines added} :
      (∀ line ∈ lines, line.kind ≠ .header ∧ line.kind ≠ .choice ∧ line.declaredScope? = none) →
      (∀ statement ∈ added, statement.isPlain = true) → Yields level scope lines added scope
  | declaration {line declared} : line.declaredScope? = some declared →
      Yields level scope [line] [.enterScope declared] declared
  | menu {lines choices} : level = .inNode → (∀ line ∈ lines, line.kind = .choice) →
      lines.mapM Line.readChoice = .ok choices →
      Yields level scope lines [.choose (choices.map (·.link scope))] scope

theorem Block.Yields.after_eq {level : Level} {scope last : Scope} {lines : List Line} {added : List Statement}
    (yields : Yields level scope lines added last) : last = scope.after lines := by
  cases yields with
  | plain silent _ => rw [Scope.after_eq_self fun line member => (silent line member).2.2]
  | declaration declares => simp [Scope.after, declares]
  | menu _ offers _ =>
    rw [Scope.after_eq_self fun line member => Line.declaredScope?_eq_none (by simp [offers line member])]

/-- How a block without a header ends from `e` on. One that is refused has emitted nothing and set
no scope. -/
def Block.Leaves (level : Level) (lines : List Line) (e : Emitter) : EStateM.Result Fault Emitter Unit → Prop
  | .ok () next => ∃ added, next.statements.toList = e.statements.toList ++ added ∧
      Yields level e.scope lines added next.scope
  | .error _ last => last.statements = e.statements ∧ last.scope = e.scope

namespace Emitter

/-- The emitter with more statements behind those it has. -/
def adding (added : List Statement) (e : Emitter) : Emitter :=
  { e with statements := e.statements ++ added }

@[simp] theorem adding_statements (added : List Statement) (e : Emitter) :
    (e.adding added).statements.toList = e.statements.toList ++ added := by
  simp [adding]

theorem adding_adding (first second : List Statement) (e : Emitter) :
    (e.adding first).adding second = e.adding (first ++ second) := by
  simp [adding, ← Array.toList_inj]

theorem run_emit_eq_adding (statement : Statement) (e : Emitter) :
    (emit statement).run e = .ok () (e.adding [statement]) := by
  simp [adding]

theorem run_emitParagraph (lines : List Line) (e : Emitter) :
    ∃ added, (∀ statement ∈ added, statement.isPlain = true) ∧ (emitParagraph lines).run e = .ok () (e.adding added) := by
  unfold emitParagraph
  cases lines.filter (!·.isBlank) with
  | nil => exact ⟨[], by simp, by simp [adding]⟩
  | cons first more =>
    exact ⟨[.say ((first :: more).map (·.content))], by simp [Statement.isPlain], run_emit_eq_adding _ e⟩

theorem run_emitScript (lines : List Line) (e : Emitter) :
    ∃ added, (∀ statement ∈ added, statement.isPlain = true) ∧ (emitScript lines).run e = .ok () (e.adding added) := by
  induction lines generalizing e with
  | nil => exact ⟨[], by simp, by simp [adding, emitScript]⟩
  | cons line rest ih =>
    have first := run_emit_eq_adding (.script (String.ofList (line.content.toList.drop 2))) e
    obtain ⟨added, quiet, ran⟩ := ih (e.adding [.script (String.ofList (line.content.toList.drop 2))])
    refine ⟨.script (String.ofList (line.content.toList.drop 2)) :: added,
      List.forall_mem_cons.mpr ⟨rfl, quiet⟩, ?_⟩
    rw [adding_adding, List.singleton_append] at ran
    exact (run_bind_of_ok first).trans ran

theorem leaves_of_adding {level : Level} {lines : List Line} {e : Emitter} {added : List Statement}
    {result : EStateM.Result Fault Emitter Unit} (ran : result = .ok () (e.adding added))
    (yields : Block.Yields level e.scope lines added e.scope) : Block.Leaves level lines e result := by
  rw [ran]
  exact ⟨added, adding_statements added e, yields⟩

/-- Only a command named `scope` sets the scope, and it emits the scope that it sets. -/
theorem emitCommand_leaves {line : Line} (level : Level) (e : Emitter) (kind : line.kind = .command) :
    Block.Leaves level [line] e ((emitCommand line).run e) := by
  have declared : line.declaredScope? =
      if (Command.read line.content).name = "scope" then some ⟨(Command.read line.content).body⟩ else none := by
    simp [Line.declaredScope?, kind]
  unfold emitCommand
  dsimp only
  generalize Command.read line.content = command at declared
  by_cases named : command.name = "scope"
  · rw [if_neg (by simp [named]), if_pos named]
    rw [if_pos named] at declared
    exact ⟨[.enterScope ⟨command.body⟩], Array.toList_push, .declaration declared⟩
  · rw [if_neg named] at declared
    have alone : ∀ other ∈ [line], other.kind ≠ .header ∧ other.kind ≠ .choice ∧ other.declaredScope? = none := by
      simp [kind, declared]
    by_cases image : command.name = "img"
    · rw [if_pos image]
      exact leaves_of_adding (run_emit_eq_adding _ e) (.plain alone (by simp [Statement.isPlain]))
    · rw [if_neg image, if_neg named]
      exact leaves_of_adding (run_emit_eq_adding _ e) (.plain alone (by simp [Statement.isPlain]))

theorem run_emitMenu (lines : List Line) (e : Emitter) :
    (emitMenu lines).run e =
      match lines.mapM Line.readChoice with
      | .ok choices => .ok () (e.adding [.choose (choices.map (·.link e.scope))])
      | .error fault => .error fault e := by
  rw [emitMenu, run_bind_of_ok (run_currentScope e)]
  cases read : lines.mapM Line.readChoice with
  | error fault =>
    refine run_bind_of_error ?_
    rw [run_mapM_readLink, read]
  | ok choices =>
    have links : (lines.mapM (readLink e.scope)).run e = .ok (choices.map (·.link e.scope)) e := by
      rw [run_mapM_readLink, read]
    rw [run_bind_of_ok links, run_emit_eq_adding]

theorem emitBlock_leaves {lead : Line} (level : Level) (node : Block → EmitM Unit) (rest : List Line)
    (e : Emitter) (plain : lead.kind ≠ .header) :
    Block.Leaves level (Block.cut lead rest).1.lines e ((emitBlock level node (Block.cut lead rest).1).run e) := by
  have leads : (Block.cut lead rest).1.lead = lead := rfl
  have same : ∀ line ∈ (Block.cut lead rest).1.lines, line.kind = lead.kind := fun _ => Block.kind_of_mem_cut plain
  have silent (unoffered : lead.kind ≠ .choice) (unset : lead.kind ≠ .command) :
      ∀ line ∈ (Block.cut lead rest).1.lines,
        line.kind ≠ .header ∧ line.kind ≠ .choice ∧ line.declaredScope? = none := by
    intro line member
    have kind := same line member
    exact ⟨kind ▸ plain, kind ▸ unoffered, Line.declaredScope?_eq_none (kind ▸ unset)⟩
  unfold emitBlock
  rw [run_bind_of_ok (run_note _ e), leads]
  -- The note changes the log alone, so what follows begins with the same scope and statements.
  generalize noted : Emitter.mk e.scope e.statements _ = f
  have begins (result : EStateM.Result Fault Emitter Unit)
      (leaves : Block.Leaves level (Block.cut lead rest).1.lines f result) :
      Block.Leaves level (Block.cut lead rest).1.lines e result := by
    subst noted
    exact leaves
  refine begins _ ?_
  cases kind : lead.kind with
  | header => exact absurd kind plain
  | narrative =>
    obtain ⟨added, quiet, ran⟩ := run_emitParagraph (Block.cut lead rest).1.lines f
    exact leaves_of_adding ran (.plain (silent (by simp [kind]) (by simp [kind])) quiet)
  | code =>
    obtain ⟨added, quiet, ran⟩ := run_emitScript (Block.cut lead rest).1.lines f
    exact leaves_of_adding ran (.plain (silent (by simp [kind]) (by simp [kind])) quiet)
  | command =>
    have alone : (Block.cut lead rest).1.lines = [lead] := by simp [Block.cut, Block.lines, Block.claimed, kind]
    rw [alone]
    exact emitCommand_leaves level f kind
  | choice =>
    cases level with
    | topLevel => exact ⟨rfl, rfl⟩
    | inNode =>
      have ran := run_emitMenu (Block.cut lead rest).1.lines f
      cases read : (Block.cut lead rest).1.lines.mapM Line.readChoice with
      | error fault =>
        rw [read] at ran
        exact ran ▸ ⟨rfl, rfl⟩
      | ok choices =>
        rw [read] at ran
        exact leaves_of_adding ran (.menu rfl (fun line member => (same line member).trans kind) read)
  | comment => exact ⟨rfl, rfl⟩

theorem emitAt_leaves {lead : Line} (level : Level) (rest : List Line) (e : Emitter) (plain : lead.kind ≠ .header) :
    Block.Leaves level (Block.cut lead rest).1.lines e ((emitAt level (Block.cut lead rest).1).run e) := by
  cases level with
  | topLevel => exact emitBlock_leaves .topLevel emitNode rest e plain
  | inNode => exact emitBlock_leaves .inNode (fun nested => fail nested.lead .nestedNode) rest e plain

theorem emitAt_ok {level : Level} {lead : Line} {rest : List Line} {e next : Emitter}
    (plain : lead.kind ≠ .header) (ran : (emitAt level (Block.cut lead rest).1).run e = .ok () next) :
    ∃ added, next.statements.toList = e.statements.toList ++ added ∧
      Block.Yields level e.scope (Block.cut lead rest).1.lines added next.scope := by
  have leaves := emitAt_leaves level rest e plain
  rwa [ran] at leaves

theorem emitAt_error {level : Level} {lead : Line} {rest : List Line} {e last : Emitter} {fault : Fault}
    (plain : lead.kind ≠ .header) (ran : (emitAt level (Block.cut lead rest).1).run e = .error fault last) :
    last.statements = e.statements ∧ last.scope = e.scope := by
  have leaves := emitAt_leaves level rest e plain
  rwa [ran] at leaves

/-- A node is opened under the key of its id, and the scope that qualifies the id is emitted too. -/
theorem openNode_ok {header : Line} {e next : Emitter} (ran : (openNode header).run e = .ok () next) :
    next.scope = e.scope ∧ ∃ id, Header.id? header.content.toList = some id ∧
      next.statements.toList = e.statements.toList ++
        [.openNode header.content (e.scope.key (String.ofList id)) e.scope] := by
  unfold openNode at ran
  rw [run_bind_of_ok (run_note _ e)] at ran
  cases found : headerId header with
  | error cause => rw [found] at ran; cases ran
  | ok id =>
    rw [found] at ran
    have read : Header.id? header.content.toList = some id := by
      unfold headerId at found
      split at found
      · cases found
      · split at found
        · cases found
        · split at found
          · cases found
            assumption
          · cases found
    cases ran
    exact ⟨rfl, id, read, Array.toList_push⟩

theorem openNode_error {header : Line} {e last : Emitter} {fault : Fault}
    (ran : (openNode header).run e = .error fault last) : last.statements = e.statements ∧ last.scope = e.scope := by
  unfold openNode at ran
  rw [run_bind_of_ok (run_note _ e)] at ran
  cases found : headerId header with
  | error cause => rw [found] at ran; cases ran; exact ⟨rfl, rfl⟩
  | ok id => rw [found] at ran; cases ran

end Emitter

end StoryScript

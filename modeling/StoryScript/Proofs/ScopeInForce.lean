import StoryScript.Proofs.Effects

namespace StoryScript

namespace Statement

/-- The value that a statement assigns to `game.scope`. -/
def assigned? : Statement → Option Scope
  | openNode _ _ scope => some scope
  | enterScope scope => some scope
  | closeNode => some .global
  | say _ | script _ | choose _ | showImage _ | sayWith _ _ => none

def isBoundary : Statement → Bool
  | openNode _ _ _ | closeNode => true
  | say _ | script _ | choose _ | showImage _ | enterScope _ | sayWith _ _ => false

/-- Behind `statements` a node is open, and `scope` is the value assigned last to `game.scope` since
its opening, be it by the opening itself. -/
def Inside (statements : List Statement) (scope : Scope) : Prop :=
  ∃ before header key opened inner, statements = before ++ .openNode header key opened :: inner ∧
    (∀ statement ∈ inner, statement.isBoundary = false) ∧
    (inner.filterMap assigned?).getLast?.getD opened = scope

/-- How a statement behind others names nodes of the story of `lines`. A node is registered under
the key of its header's id in the scope that its opening assigns, and the links of a menu lead to
the targets of adjacent choices in the scope assigned last in their node. -/
def Qualified (lines : List Line) (before : List Statement) : Statement → Prop
  | openNode header key scope => ∃ line ∈ lines, line.kind = .header ∧ line.content = header ∧
      ∃ id, Header.id? header.toList = some id ∧ key = scope.key (String.ofList id)
  | choose links => ∃ scope menu choices, Inside before scope ∧ menu <:+: lines ∧
      (∀ line ∈ menu, line.kind = .choice) ∧ menu.mapM Line.readChoice = .ok choices ∧
      links = choices.map (·.link scope)
  | _ => True

/-- Every statement is qualified by what was emitted before it. -/
def AllQualified (lines : List Line) (statements : List Statement) : Prop :=
  ∀ before statement, before ++ [statement] <+: statements → Qualified lines before statement

theorem Inside.append {statements added : List Statement} {scope : Scope} (inside : Inside statements scope)
    (within : ∀ statement ∈ added, statement.isBoundary = false) :
    Inside (statements ++ added) ((added.filterMap assigned?).getLast?.getD scope) := by
  obtain ⟨before, header, key, opened, inner, rfl, apart, rfl⟩ := inside
  refine ⟨before, header, key, opened, inner ++ added, by simp, List.forall_mem_append.mpr ⟨apart, within⟩, ?_⟩
  rw [List.filterMap_append, List.getLast?_append]
  cases (added.filterMap assigned?).getLast? <;> rfl

theorem inside_openNode (statements : List Statement) (header key : String) (scope : Scope) :
    Inside (statements ++ [.openNode header key scope]) scope :=
  ⟨statements, header, key, scope, [], rfl, by simp, rfl⟩

theorem isBoundary_of_isPlain {statement : Statement} (plain : statement.isPlain = true) :
    statement.isBoundary = false := by
  cases statement <;> simp_all [isPlain, isBoundary]

theorem assigned?_of_isPlain {statement : Statement} (plain : statement.isPlain = true) :
    statement.assigned? = none := by
  cases statement <;> simp_all [isPlain, assigned?]

theorem qualified_of_isPlain {statement : Statement} (lines : List Line) (before : List Statement)
    (plain : statement.isPlain = true) : Qualified lines before statement := by
  cases statement <;> simp_all [isPlain, Qualified]

theorem AllQualified.push {lines : List Line} {statements : List Statement} {last : Statement}
    (early : AllQualified lines statements) (late : Qualified lines statements last) :
    AllQualified lines (statements ++ [last]) := by
  intro before statement front
  rcases List.prefix_concat_iff.mp front with whole | shorter
  · obtain ⟨rfl, same⟩ := List.append_inj' whole rfl
    cases same
    exact late
  · exact early before statement shorter

theorem AllQualified.append_of_isPlain {lines : List Line} {statements added : List Statement}
    (early : AllQualified lines statements) (plain : ∀ statement ∈ added, statement.isPlain = true) :
    AllQualified lines (statements ++ added) := by
  induction added generalizing statements with
  | nil => rwa [List.append_nil]
  | cons statement more ih =>
    obtain ⟨here, later⟩ := List.forall_mem_cons.mp plain
    rw [List.append_cons]
    exact ih (early.push (qualified_of_isPlain lines statements here)) later

/-- Each assignment stands in the text of its statement, in one kind of quotes or the other. -/
theorem render_of_assigned? {statement : Statement} {scope : Scope} (assigned : statement.assigned? = some scope) :
    ∃ front quote back, statement.render =
      front ++ ("game.scope = " ++ quote ++ scope.name ++ quote ++ ";\n") ++ back := by
  cases statement with
  | openNode header key opened =>
    cases assigned
    have assignment : "game.scope = " ++ "'" ++ scope.name ++ "'" ++ ";\n" =
        "game.scope = '" ++ scope.name ++ "';\n" := by
      rw [← String.toList_inj]
      simp
    refine ⟨"\n/* " ++ header ++ " */\n" ++ "game.gameNodes['" ++ key ++ "'] =\n" ++ "new GameNode('" ++ key ++
      "').setExecFn(function(game, choice) \x7b\n" ++ "game.player.location = '" ++ key ++ "';\n", "'", "", ?_⟩
    rw [String.append_empty, assignment, ← String.append_assoc, ← String.append_assoc]
    rfl
  | enterScope entered =>
    cases assigned
    have assignment : "game.scope = " ++ "\"" ++ scope.name ++ "\"" ++ ";\n" =
        "game.scope = \"" ++ scope.name ++ "\";\n" := by
      rw [← String.toList_inj]
      simp
    exact ⟨"", "\"", "", by rw [String.append_empty, String.empty_append, assignment]; rfl⟩
  | closeNode =>
    cases assigned
    exact ⟨"", "'", "\x7d);\n", by decide⟩
  | say _ | script _ | choose _ | showImage _ | sayWith _ _ => cases assigned

end Statement

open Emitter Statement

/-- The next line alone decides about the scope of a step. A declaration sets it, and every other
step leaves it, the opening and the closing of a node among them. -/
theorem Step.scope_eq {s t : Station} (step : Step s t) :
    t.emitter.scope = (s.rest.head?.bind Line.declaredScope?).getD s.emitter.scope := by
  cases step with
  | @block level lead rest e next plain ran =>
    obtain ⟨added, _, yields⟩ := emitAt_ok plain ran
    change Block.Yields level e.scope (lead :: (Block.cut lead rest).1.more) added next.scope at yields
    change next.scope = lead.declaredScope?.getD e.scope
    generalize next.scope = last at yields ⊢
    generalize (Block.cut lead rest).1.more = more at yields
    cases yields with
    | plain silent _ => rw [(silent lead List.mem_cons_self).2.2, Option.getD_none]
    | declaration declares => rw [declares, Option.getD_some]
    | menu _ offers _ =>
      rw [Line.declaredScope?_eq_none (by simp [offers lead List.mem_cons_self]), Option.getD_none]
  | @enter header rest e next kind ran =>
    have silent : header.declaredScope? = none := Line.declaredScope?_eq_none (by simp [kind])
    change next.scope = header.declaredScope?.getD e.scope
    rw [(openNode_ok ran).1, silent, Option.getD_none]
  | @leave rest e next headed ran =>
    have silent : rest.head?.bind Line.declaredScope? = none := by
      refine Option.bind_eq_none_iff.mpr fun line begins => ?_
      exact Line.declaredScope?_eq_none (by simp [headed line begins])
    rw [silent]
    cases ran
    rfl

/-- What holds at every station of a run. -/
structure InForce (lines : List Line) (s : Station) : Prop where
  behind : s.rest <:+ lines
  inside : s.level = .inNode → Inside s.emitter.statements.toList s.emitter.scope
  qualified : AllQualified lines s.emitter.statements.toList

theorem InForce.block {lines : List Line} {level : Level} {lead : Line} {rest : List Line} {e next : Emitter}
    (force : InForce lines ⟨level, lead :: rest, e⟩) (plain : lead.kind ≠ .header)
    (ran : (emitAt level (Block.cut lead rest).1).run e = .ok () next) :
    InForce lines ⟨level, (Block.cut lead rest).2, next⟩ := by
  obtain ⟨behind, inside, qualified⟩ := force
  obtain ⟨added, emitted, yields⟩ := emitAt_ok plain ran
  have parts := Block.cut_lines lead rest
  have within : (Block.cut lead rest).1.lines <:+: lines :=
    List.IsInfix.trans ⟨[], (Block.cut lead rest).2, parts⟩ behind.isInfix
  suffices kept : (level = .inNode → Inside (e.statements.toList ++ added) next.scope) ∧
      AllQualified lines (e.statements.toList ++ added) by
    rw [← emitted] at kept
    exact ⟨List.IsSuffix.trans ⟨_, parts⟩ behind, kept.1, kept.2⟩
  dsimp only at inside qualified
  generalize next.scope = last at yields ⊢
  generalize (Block.cut lead rest).1.lines = taken at yields within
  cases yields with
  | plain _ quiet =>
    refine ⟨fun open_ => ?_, qualified.append_of_isPlain quiet⟩
    have later := (inside open_).append fun statement member => isBoundary_of_isPlain (quiet statement member)
    rwa [List.filterMap_eq_nil_iff.mpr fun statement member => assigned?_of_isPlain (quiet statement member)] at later
  | declaration _ => exact ⟨fun open_ => (inside open_).append (by simp [isBoundary]), qualified.push trivial⟩
  | menu open_ offers read =>
    exact ⟨fun _ => (inside open_).append (by simp [isBoundary]),
      qualified.push ⟨e.scope, taken, _, inside open_, within, offers, read, rfl⟩⟩

theorem InForce.step {lines : List Line} {s t : Station} (force : InForce lines s) (step : Step s t) :
    InForce lines t := by
  cases step with
  | block plain ran => exact force.block plain ran
  | @enter header rest e next kind ran =>
    obtain ⟨behind, _, qualified⟩ := force
    obtain ⟨kept, id, read, emitted⟩ := openNode_ok ran
    have member : header ∈ lines := behind.subset List.mem_cons_self
    refine ⟨List.IsSuffix.trans (List.suffix_cons header rest) behind, fun _ => ?_, ?_⟩
    · dsimp only
      rw [emitted, kept]
      exact inside_openNode _ _ _ _
    · dsimp only
      rw [emitted]
      exact qualified.push ⟨header, member, kind, rfl, id, read, rfl⟩
  | leave headed ran =>
    obtain ⟨behind, _, qualified⟩ := force
    cases ran
    refine ⟨behind, nofun, ?_⟩
    dsimp only
    rw [Array.toList_push]
    exact qualified.push trivial

theorem Reaches.inForce {lines : List Line} {s : Station} (reached : Reaches lines s) : InForce lines s := by
  induction reached with
  | refl =>
    refine ⟨List.suffix_rfl, nofun, fun before statement front => ?_⟩
    simp [Station.start, inScope] at front
  | tail _ step ih => exact ih.step step

theorem Refuses.keeps {s : Station} {fault : Fault} {last : Emitter} (refuses : Refuses s fault last) :
    last.statements = s.emitter.statements ∧ last.scope = s.emitter.scope := by
  cases refuses with
  | block plain ran => exact emitAt_error plain ran
  | enter _ ran => exact openNode_error ran

namespace Story

/-- What a run emits inside a node qualifies ids by the scope that the program is in there. Behind a
header the last assignment of the node is the scope in force, and every key is made with it. Only a
command named `scope` changes that scope: where a node or the story ends, the program goes back to
the global scope and the run does not. -/
theorem scope_in_force (lines : List Line) :
    (∀ s, Reaches lines s →
      (emitStory lines).run (.inScope .global) = s.outcome ∧
      (s.level = .inNode → Inside s.emitter.statements.toList s.emitter.scope) ∧
      (∀ before statement, before ++ [statement] <+: s.emitter.statements.toList →
        Qualified lines before statement) ∧
      ∀ t, Step s t →
        t.emitter.scope = (s.rest.head?.bind Line.declaredScope?).getD s.emitter.scope ∧
        (s.level = .inNode → t.level = .topLevel →
          t.emitter.statements = s.emitter.statements.push .closeNode ∧ t.emitter.scope = s.emitter.scope)) ∧
    (∀ text, (compile lines).result = .ok text → ∃ e bytes, Reaches lines ⟨.topLevel, [], e⟩ ∧
      text = Module.imports ++ Statement.renderAll e.statements.toList ++ "game.scope = \"g\";" ∧
      (compile lines).log.getLast? = some (.storyFinished bytes e.scope)) ∧
    (∀ fault, (compile lines).result = .error fault → ∃ s last, Reaches lines s ∧ Refuses s fault last ∧
      last.statements = s.emitter.statements ∧ last.scope = s.emitter.scope) ∧
    ∀ statement scope, Statement.assigned? statement = some scope →
      ∃ front quote back, statement.render =
        front ++ ("game.scope = " ++ quote ++ scope.name ++ quote ++ ";\n") ++ back := by
  refine ⟨fun s reached => ?_, fun text compiled => ?_, fun fault refused => ?_, fun _ _ => render_of_assigned?⟩
  · have force := reached.inForce
    refine ⟨reached.outcome_eq, force.inside, force.qualified, fun t step => ⟨step.scope_eq, fun within outside => ?_⟩⟩
    cases step with
    | block => exact absurd (within.symm.trans outside) (by simp)
    | enter => cases within
    | leave headed ran =>
      cases ran
      exact ⟨rfl, rfl⟩
  · obtain ⟨e, bytes, ran, rendered, logged⟩ := run_of_compiled compiled
    exact ⟨e, bytes, reaches_end ran, rendered.trans (Script.render_module _), logged⟩
  · obtain ⟨last, ran⟩ := run_of_refused refused
    obtain ⟨s, reached, refuses⟩ := reaches_refusal ran
    exact ⟨s, last, reached, refuses, refuses.keeps⟩

/-- A node that is opened in the global scope declares another before its menu. -/
theorem scope_in_force_deeper :
    let lines := Line.ofTexts ["=a= A", "!scope deep", ">b go"]
    ∃ e t, Reaches lines ⟨.inNode, [], e⟩ ∧ Step ⟨.inNode, [], e⟩ t ∧
      e.statements.toList =
        [.openNode "=a= A" "=g:a=" .global, .enterScope ⟨"deep"⟩, .choose [⟨"=deep:b=", .plain "go"⟩]] ∧
      Inside e.statements.toList ⟨"deep"⟩ ∧ Qualified lines [] (.openNode "=a= A" "=g:a=" .global) ∧
      t.emitter.scope = ⟨"deep"⟩ := by
  intro lines
  have classified : lines = [.classify "=a= A" 1, .classify "!scope deep" 2, .classify ">b go" 3] := by decide
  obtain ⟨e, reached, emitted, scope⟩ : ∃ e, Reaches lines ⟨.inNode, [], e⟩ ∧
      e.statements.toList =
        [.openNode "=a= A" "=g:a=" .global, .enterScope ⟨"deep"⟩, .choose [⟨"=deep:b=", .plain "go"⟩]] ∧
      e.scope = ⟨"deep"⟩ := by
    rw [classified]
    exact ⟨_, .tail (.tail (.tail .refl (.enter (by decide) rfl)) (.block (by decide) rfl)) (.block (by decide) rfl),
      by decide, by decide⟩
  have step : Step ⟨.inNode, [], e⟩ _ := .leave nofun rfl
  obtain ⟨_, inside, qualified, steps⟩ := (scope_in_force lines).1 _ reached
  refine ⟨e, _, reached, step, emitted, scope ▸ inside rfl, qualified _ _ ?_, ((steps _ step).2 rfl rfl).2.trans scope⟩
  rw [emitted]
  exact ⟨[_, _], rfl⟩

end Story

end StoryScript

import StoryScript.Proofs.Effects
import StoryScript.Proofs.Keys
import StoryScript.Proofs.Marks
import StoryScript.Proofs.Streaming

namespace StoryScript

/-- The keys of lines that begin in `scope`: one for each line that names a node, in their order, made
of its id in the scope in force there. -/
inductive Names : Scope → List Line → List (Line.Kind × String) → Prop
  | nil {scope} : Names scope [] []
  | mention {scope line id rest keys} : line.isMention = true → line.id? = some id → Names scope rest keys →
      Names scope (line :: rest) ((line.kind, scope.key id) :: keys)
  | other {scope line rest keys} : line.isMention = false → Names (scope.after [line]) rest keys →
      Names scope (line :: rest) keys

namespace Names

theorem append {scope : Scope} {front back : List Line} {early late : List (Line.Kind × String)}
    (first : Names scope front early) (second : Names (scope.after front) back late) :
    Names scope (front ++ back) (early ++ late) := by
  induction first with
  | nil => exact second
  | mention names found _ ih =>
    rw [Line.after_mention _ _ names] at second
    exact .mention names found (ih second)
  | @other scope line rest keys silent _ ih =>
    rw [← List.singleton_append, Scope.after_append] at second
    exact .other silent (ih second)

theorem of_silent {scope : Scope} {lines : List Line} (silent : ∀ line ∈ lines, line.isMention = false) :
    Names scope lines [] := by
  induction lines generalizing scope with
  | nil => exact .nil
  | cons line rest ih =>
    obtain ⟨here, later⟩ := List.forall_mem_cons.mp silent
    exact .other here (ih later)

theorem of_menu {scope : Scope} {lines : List Line} {choices : List Choice}
    (offers : ∀ line ∈ lines, line.kind = .choice) (read : lines.mapM Line.readChoice = .ok choices) :
    Names scope lines (Statement.choose (choices.map (·.link scope))).keys := by
  induction lines generalizing choices with
  | nil =>
    cases read
    exact .nil
  | cons line rest ih =>
    obtain ⟨kind, later⟩ := List.forall_mem_cons.mp offers
    obtain ⟨choice, more, found, others, rfl⟩ := Line.read_of_mapM_cons read
    have named : line.id? = some choice.target := by rw [Line.id?_of_choice kind, found, Option.map_some]
    have all := mention (by simp [Line.isMention, kind]) named (ih later others)
    rw [kind] at all
    exact all

theorem length_eq {scope : Scope} {lines : List Line} {keys : List (Line.Kind × String)}
    (names : Names scope lines keys) : keys.length = lines.countP Line.isMention := by
  induction names with
  | nil => rfl
  | mention names _ _ ih => rw [List.length_cons, List.countP_cons_of_pos names, ih]
  | other silent _ ih => rw [List.countP_cons_of_neg (by simp [silent]), ih]

/-- The lines decide about their keys. -/
theorem unique {scope : Scope} {lines : List Line} {keys other : List (Line.Kind × String)}
    (names : Names scope lines keys) (again : Names scope lines other) : keys = other := by
  induction names generalizing other with
  | nil => cases again; rfl
  | mention named found _ ih =>
    cases again with
    | mention _ same later =>
      cases found.symm.trans same
      rw [ih later]
    | other silent _ => cases named.symm.trans silent
  | other silent _ ih =>
    cases again with
    | mention named _ _ => cases named.symm.trans silent
    | other _ later => exact ih later

/-- The key of a line is found by counting the lines before it that have one. -/
theorem key_at {scope : Scope} {before : List Line} {line : Line} {after : List Line}
    {keys : List (Line.Kind × String)} (names : Names scope (before ++ line :: after) keys)
    (mention : line.isMention = true) :
    ∃ id, line.id? = some id ∧ keys[before.countP Line.isMention]? = some (line.kind, (scope.after before).key id) := by
  induction before generalizing scope keys with
  | nil =>
    cases names with
    | mention _ found _ => exact ⟨_, found, rfl⟩
    | other silent _ => exact absurd (silent.symm.trans mention) (by simp)
  | cons first rest ih =>
    cases names with
    | mention named _ later =>
      rw [Line.after_mention _ _ named, List.countP_cons_of_pos named]
      exact ih later
    | other silent later =>
      rw [← List.singleton_append, Scope.after_append, List.singleton_append, List.countP_cons_of_neg (by simp [silent])]
      exact ih later

end Names

/-- The keys of a block are those of its own lines. -/
theorem Block.Yields.names {level : Level} {scope last : Scope} {lines : List Line} {added : List Statement}
    (yields : Yields level scope lines added last) : Names scope lines (added.flatMap Statement.keys) := by
  cases yields with
  | plain silent quiet =>
    have keyless : added.flatMap Statement.keys = [] := by
      refine List.flatMap_eq_nil_iff.mpr fun statement member => ?_
      have plain := quiet statement member
      cases statement <;> simp_all [Statement.isPlain, Statement.keys]
    rw [keyless]
    exact .of_silent fun line member =>
      Line.isMention_eq_false_iff.mpr ⟨(silent line member).1, (silent line member).2.1⟩
  | @declaration line declared declares =>
    have command : line.kind = .command := by
      by_contra other
      rw [Line.declaredScope?_eq_none other] at declares
      cases declares
    exact .of_silent (by simp [Line.isMention, command])
  | menu _ offers read =>
    rw [List.flatMap_singleton]
    exact .of_menu offers read

open Emitter

/-- Up to any station of a run, the keys emitted are those of the lines behind it. -/
def Station.Named (lines : List Line) (s : Station) : Prop :=
  ∃ done, lines = done ++ s.rest ∧ s.emitter.scope = Scope.global.after done ∧
    Names .global done (s.emitter.statements.toList.flatMap Statement.keys)

theorem Station.Named.step {lines : List Line} {s t : Station} (named : s.Named lines) (step : Step s t) :
    t.Named lines := by
  obtain ⟨done, shape, scope, names⟩ := named
  cases step with
  | @block level lead rest e next plain ran =>
    obtain ⟨added, emitted, yields⟩ := emitAt_ok plain ran
    refine ⟨done ++ (Block.cut lead rest).1.lines, ?_, ?_, ?_⟩
    · rw [List.append_assoc, Block.cut_lines]
      exact shape
    · rw [Scope.after_append, ← scope]
      exact yields.after_eq
    · -- The lines done so far leave the very scope that the block begins in.
      dsimp only at scope names ⊢
      rw [emitted, List.flatMap_append]
      exact names.append (scope ▸ yields.names)
  | @enter header rest e next kind ran =>
    obtain ⟨kept, id, read, emitted⟩ := openNode_ok ran
    have mention : header.isMention = true := by simp [Line.isMention, kind]
    have found : header.id? = some (String.ofList id) := by rw [Line.id?_of_header kind, read, Option.map_some]
    refine ⟨done ++ [header], by simpa using shape, ?_, ?_⟩
    · rw [Scope.after_append, Line.after_mention _ _ mention]
      exact kept.trans scope
    · dsimp only at scope names ⊢
      rw [emitted, List.flatMap_append, scope]
      have here : Names (Scope.global.after done) [header] _ := .mention mention found .nil
      rw [kind] at here
      exact names.append here
  | leave headed ran =>
    cases ran
    refine ⟨done, shape, scope, ?_⟩
    dsimp only
    rw [Array.toList_push, List.flatMap_append]
    simpa [Statement.keys] using names

theorem Reaches.named {lines : List Line} {s : Station} (reached : Reaches lines s) : s.Named lines := by
  induction reached with
  | refl => exact ⟨[], rfl, rfl, .nil⟩
  | tail _ step ih => exact ih.step step

/-- The keys in the module of a story, in their order. A story that is refused has none. -/
def Story.keys (lines : List Line) : List (Line.Kind × String) :=
  match (emitStory lines).run (.inScope .global) with
  | .ok () e => e.statements.toList.flatMap Statement.keys
  | .error _ _ => []

theorem Story.names_of_compiled {lines : List Line} {text : String} (compiled : (compile lines).result = .ok text) :
    Names .global lines (keys lines) := by
  obtain ⟨e, _, ran, _, _⟩ := run_of_compiled compiled
  obtain ⟨done, shape, _, names⟩ := (reaches_end ran).named
  rw [List.append_nil] at shape
  rw [keys, ran, shape]
  exact names

/-- The module of a story is made of statements, and the keys of the story are theirs. -/
theorem Story.text_of_compiled {lines : List Line} {text : String} (compiled : (compile lines).result = .ok text) :
    ∃ statements, text = Module.imports ++ Statement.renderAll statements ++ "game.scope = \"g\";" ∧
      keys lines = statements.flatMap Statement.keys := by
  obtain ⟨e, _, ran, rendered, _⟩ := run_of_compiled compiled
  exact ⟨e.statements.toList, rendered.trans (Script.render_module _), by rw [keys, ran]⟩

theorem Story.shows_of_compiled {lines : List Line} {text : String} (compiled : (compile lines).result = .ok text) :
    Shows (keys lines) text := by
  obtain ⟨statements, rfl, same⟩ := text_of_compiled compiled
  rw [same]
  exact ((Statement.shows_renderAll statements).behind Module.imports).before _

/-- One place in a story where a node is named. -/
structure Mention (lines : List Line) where
  before : List Line
  line : Line
  after : List Line
  shape : lines = before ++ line :: after
  names : line.isMention = true

namespace Mention

variable {lines : List Line}

/-- The scope in force at a line is the last one declared before it. -/
def scope (x : Mention lines) : Scope :=
  Scope.global.after x.before

/-- What is emitted for a line stands behind what is emitted for the earlier ones. -/
def emitted? (x : Mention lines) : Option (Line.Kind × String) :=
  (Story.keys lines)[x.before.countP Line.isMention]?

def key? (x : Mention lines) : Option String :=
  x.emitted?.map Prod.snd

theorem emitted_eq {text : String} (compiled : (Story.compile lines).result = .ok text) (x : Mention lines) :
    ∃ id, x.line.id? = some id ∧ x.emitted? = some (x.line.kind, x.scope.key id) := by
  obtain ⟨before, line, after, rfl, names⟩ := x
  exact (Story.names_of_compiled compiled).key_at names

end Mention

namespace Story

/-- A link leads where its author meant it to. Every line that names a node has one key, which stands in
the module in its turn and is made of the id of the line in the scope in force at it. Two keys are equal
only if they have to be: plain ids with the same scope, ids with a colon as they stand, and an id that
names the scope of the plain one. The ids are those that are written, so a choice leads to the node whose
id it gives in the same scope. -/
theorem links_meet_nodes :
    (∀ (lines : List Line) (text : String), (compile lines).result = .ok text →
      (keys lines).length = lines.countP Line.isMention ∧
      (∃ statements, text = Module.imports ++ Statement.renderAll statements ++ "game.scope = \"g\";" ∧
        keys lines = statements.flatMap Statement.keys ∧
        ∀ statement ∈ statements, Shows statement.keys statement.render) ∧
      Shows (keys lines) text ∧
      ∀ x y : Mention lines, ∃ i j, x.line.id? = some i ∧ y.line.id? = some j ∧
        x.emitted? = some (x.line.kind, x.scope.key i) ∧ y.emitted? = some (y.line.kind, y.scope.key j) ∧
        (':' ∉ i.toList → ':' ∉ j.toList → (x.key? = y.key? ↔ i = j ∧ x.scope = y.scope)) ∧
        (':' ∈ i.toList → ':' ∈ j.toList → (x.key? = y.key? ↔ i = j)) ∧
        (':' ∈ i.toList → ':' ∉ j.toList →
          (x.key? = y.key? ↔ y.scope.name ≠ "" ∧ i = y.scope.name ++ ":" ++ j))) ∧
    (∀ (id title description : String) (number : Nat), Line.IsId id →
      let header := Line.classify ("=" ++ id ++ "=" ++ title) number
      let choice := Line.classify (">" ++ id ++ " " ++ description) number
      let bare := Line.classify (">" ++ id) number
      header.kind = .header ∧ header.id? = some id ∧
      choice.kind = .choice ∧ (∀ read, Choice.read? choice.content = some read → choice.id? = some id) ∧
      bare.kind = .choice ∧ bare.id? = some id) ∧
    ∀ (lines : List Line) (text : String), (compile lines).result = .ok text →
      ∀ (x y : Mention lines) (id title description : String) (first second : Nat),
        Line.IsId id → x.line = .classify ("=" ++ id ++ "=" ++ title) first →
        y.line = .classify (">" ++ id ++ " " ++ description) second ∨ y.line = .classify (">" ++ id) second →
        x.scope = y.scope →
        x.emitted? = some (.header, x.scope.key id) ∧ y.emitted? = some (.choice, x.scope.key id) := by
  refine ⟨fun lines text compiled => ⟨(names_of_compiled compiled).length_eq, ?_, shows_of_compiled compiled,
    fun x y => ?_⟩, ?_, ?_⟩
  · obtain ⟨statements, rendered, same⟩ := text_of_compiled compiled
    exact ⟨statements, rendered, same, fun statement _ => statement.shows_render⟩
  · obtain ⟨i, readX, emittedX⟩ := x.emitted_eq compiled
    obtain ⟨j, readY, emittedY⟩ := y.emitted_eq compiled
    have keys : x.key? = y.key? ↔ x.scope.key i = y.scope.key j := by
      simp [Mention.key?, emittedX, emittedY]
    rw [keys]
    exact ⟨i, j, readX, readY, emittedX, emittedY, Scope.key_eq_iff_of_plain, Scope.key_eq_iff_of_colons,
      Scope.key_eq_iff_of_colon⟩
  · intro id title description number proper
    obtain ⟨header, registered⟩ := Line.classify_header title number proper
    obtain ⟨choice, leads⟩ := Line.classify_offer description number proper
    exact ⟨header, registered, choice, leads, Line.classify_bare_offer number proper⟩
  · intro lines text compiled x y id title description first second proper header choice same
    obtain ⟨kindX, named⟩ := Line.classify_header title first proper
    obtain ⟨i, readX, emittedX⟩ := x.emitted_eq compiled
    obtain ⟨j, readY, emittedY⟩ := y.emitted_eq compiled
    obtain ⟨kindY, rfl⟩ := Line.id_of_choice proper choice readY
    rw [header, named] at readX
    cases readX
    rw [header, kindX] at emittedX
    rw [kindY, ← same] at emittedY
    exact ⟨emittedX, emittedY⟩

/-- A node is met by a choice in its scope and by one that names the scope. -/
theorem links_meet_nodes_qualified :
    let lines := Line.ofTexts ["=a= A", ">b go", ">g:b again", "=b= B"]
    let text := Module.imports ++
      "\n/* =a= A */\n" ++
      "game.gameNodes['=g:a='] =\n" ++
      "new GameNode('=g:a=').setExecFn(function(game, choice) \x7b\n" ++
      "game.player.location = '=g:a=';\n" ++
      "game.scope = 'g';\n" ++
      "game.choose(\ngame.choice(\"=g:b=\", `go`),\ngame.choice(\"=g:b=\", `again`));\n" ++
      "game.scope = 'g';\n\x7d);\n" ++
      "\n/* =b= B */\n" ++
      "game.gameNodes['=g:b='] =\n" ++
      "new GameNode('=g:b=').setExecFn(function(game, choice) \x7b\n" ++
      "game.player.location = '=g:b=';\n" ++
      "game.scope = 'g';\n" ++
      "game.scope = 'g';\n\x7d);\n" ++
      "game.scope = \"g\";"
    (compile lines).result = .ok text ∧
    Shows [(.header, "=g:a="), (.choice, "=g:b="), (.choice, "=g:b="), (.header, "=g:b=")] text ∧
    ∃ node plain qualified : Mention lines, node.line = .classify "=b= B" 4 ∧ plain.line = .classify ">b go" 2 ∧
      qualified.line = .classify ">g:b again" 3 ∧ node.emitted? = some (.header, "=g:b=") ∧
      plain.emitted? = some (.choice, "=g:b=") ∧ qualified.key? = node.key? := by
  intro lines text
  have compiled : (compile lines).result = .ok text :=
    (result_eq_body fun _ => Line.isClassified_of_mem_ofTexts).trans (by decide +kernel)
  let node : Mention lines := ⟨lines.take 3, .classify "=b= B" 4, [], by decide, by decide⟩
  let plain : Mention lines := ⟨lines.take 1, .classify ">b go" 2, lines.drop 2, by decide, by decide⟩
  let qualified : Mention lines := ⟨lines.take 2, .classify ">g:b again" 3, lines.drop 3, by decide, by decide⟩
  obtain ⟨registered, leads⟩ := links_meet_nodes.2.2 lines text compiled node plain "b" " B" "go" 4 2
    ⟨by decide, by decide, by decide⟩ (by decide) (by decide) (by decide)
  obtain ⟨_, _, shown, meet⟩ := links_meet_nodes.1 lines text compiled
  obtain ⟨i, j, named, called, _, _, _, _, mixed⟩ := meet qualified node
  have given : qualified.line.id? = some "g:b" := by decide
  have own : node.line.id? = some "b" := by decide
  cases given.symm.trans named
  cases own.symm.trans called
  have names : Names .global lines
      [(.header, "=g:a="), (.choice, "=g:b="), (.choice, "=g:b="), (.header, "=g:b=")] := by
    have parts : lines = [.classify "=a= A" 1, .classify ">b go" 2, .classify ">g:b again" 3, .classify "=b= B" 4] := by
      decide
    have first : (Line.classify "=a= A" 1).id? = some "a" := by decide
    have offer : (Line.classify ">b go" 2).id? = some "b" := by decide
    rw [parts]
    exact .mention rfl first (.mention rfl offer (.mention rfl given (.mention rfl own .nil)))
  rw [(names_of_compiled compiled).unique names] at shown
  exact ⟨compiled, shown, node, plain, qualified, rfl, rfl, rfl, registered, leads,
    (mixed (by decide) (by decide)).mpr (by decide)⟩

end Story

end StoryScript

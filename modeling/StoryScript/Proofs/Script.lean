import StoryScript.Command
import StoryScript.Line
import StoryScript.Statement

namespace StoryScript

/-- The scope a line declares. Only a command named `scope` declares one. -/
def Line.declaredScope? (line : Line) : Option Scope :=
  let command := Command.read line.content
  if line.kind = .command ∧ command.name = "scope" then some ⟨command.body⟩ else none

theorem Line.declaredScope?_eq_none {line : Line} (other : line.kind ≠ .command) : line.declaredScope? = none :=
  if_neg fun declares => other declares.1

/-- The scope in force behind lines that begin in `scope`: the last one that they declare. -/
def Scope.after (scope : Scope) (lines : List Line) : Scope :=
  (lines.filterMap Line.declaredScope?).getLast?.getD scope

theorem Scope.after_append (scope : Scope) (front back : List Line) :
    scope.after (front ++ back) = (scope.after front).after back := by
  unfold after
  rw [List.filterMap_append, List.getLast?_append]
  cases (back.filterMap Line.declaredScope?).getLast? <;> rfl

theorem Scope.after_eq_self {scope : Scope} {lines : List Line}
    (silent : ∀ line ∈ lines, line.declaredScope? = none) : scope.after lines = scope := by
  rw [after, List.filterMap_eq_nil_iff.mpr silent]
  rfl

theorem Scope.after_singleton (scope : Scope) {line : Line} (silent : line.declaredScope? = none) :
    scope.after [line] = scope :=
  after_eq_self (by simpa using silent)

/-- The id between the marker of a header and the next `=`. -/
def Line.nodeId (header : Line) : String :=
  String.ofList ((header.content.toList.drop 1).takeWhile (· != '='))

namespace Script

/-- The key of an id. The scope has its name before the id, unless it has no name or a colon says that
the id names a scope itself. -/
def key (scope : Scope) (id : String) : String :=
  if ':' ∈ id.toList ∨ scope.name = "" then "=" ++ id ++ "="
  else "=" ++ scope.name ++ ":" ++ id ++ "="

/-- The five lines that register a node and open its function. -/
def opener (scope : Scope) (header id : String) : String :=
  let key := Script.key scope id
  "\n/* " ++ header ++ " */\n" ++
  "game.gameNodes['" ++ key ++ "'] =\n" ++
  "new GameNode('" ++ key ++ "').setExecFn(function(game, choice) \x7b\n" ++
  "game.player.location = '" ++ key ++ "';\n" ++
  "game.scope = '" ++ scope.name ++ "';\n"

/-- Every node ends in the scope `g`, whatever scope it was opened in. -/
def closer : String :=
  "game.scope = 'g';\n\x7d);\n"

def ending : String :=
  "game.scope = \"g\";"

/-- A code line without its marker and the character after it. -/
def codeLine (line : Line) : String :=
  String.ofList (line.content.toList.drop 2) ++ "\n"

def directive (command : Command) : String :=
  if command.name = "img" then "game.img(\"" ++ command.body ++ "\");\n"
  else if command.name = "scope" then "game.scope = \"" ++ command.body ++ "\";\n"
  else "game.sayWith(\"" ++ command.name ++ "\", `" ++ command.body ++ "`);\n"

/-- One argument of a menu, with its target qualified by `scope`. -/
def element (scope : Scope) (choice : Choice) : String :=
  let key := Script.key scope choice.target
  match choice.form with
  | .plain description => "game.choice(\"" ++ key ++ "\", `" ++ description ++ "`)"
  | .withArgument description argument =>
    "game.choice(\"" ++ key ++ "\", `" ++ description ++ "`, " ++ argument ++ ")"
  | .conditional condition argument =>
    "(" ++ condition ++ ") ? game.choice(\"" ++ key ++ "\", " ++ argument ++ ") : false"

def paragraph (lines : List String) : String :=
  "game.say(`" ++ "\n".intercalate lines ++ "`);\n"

def menu (elements : List String) : String :=
  "game.choose(\n" ++ ",\n".intercalate elements ++ ");\n"

theorem key_eq (scope : Scope) (id : String) : scope.key id = key scope id := by
  simp [Scope.key, Scope.isQualified, key]

theorem render_link (scope : Scope) (choice : Choice) :
    (choice.link scope).render = element scope choice := by
  obtain ⟨target, form⟩ := choice
  rw [Choice.link, key_eq]
  cases form <;> rfl

theorem render_choose (scope : Scope) (choices : List Choice) :
    (Statement.choose (choices.map (·.link scope))).render = menu (choices.map (element scope)) := by
  have elements : (choices.map (·.link scope)).map Link.render = choices.map (element scope) := by
    rw [List.map_map]
    exact List.map_congr_left fun choice _ => render_link scope choice
  unfold menu
  rw [← elements]
  rfl

theorem render_openNode (scope : Scope) (header id : String) :
    (Statement.openNode header (scope.key id) scope).render = opener scope header id := by
  rw [key_eq]
  rfl

theorem render_closeNode : Statement.closeNode.render = closer := by
  decide

theorem ending_eq : Module.ending = ending := by
  decide

theorem render_module (statements : List Statement) :
    Module.render statements = Module.imports ++ Statement.renderAll statements ++ "game.scope = \"g\";" := by
  rw [Module.render, ending_eq, ending]

end Script

end StoryScript

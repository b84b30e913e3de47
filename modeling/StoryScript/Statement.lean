import StoryScript.Choice
import StoryScript.Scope

namespace StoryScript

/-- A choice whose target is resolved to the key of a node. -/
structure Link where
  key : String
  form : Choice.Form
deriving DecidableEq, Repr

/-- The links of a menu resolve their targets in the scope that is in force. -/
def Choice.link (scope : Scope) (choice : Choice) : Link :=
  { key := scope.key choice.target, form := choice.form }

/-- One argument of the `game.choose` call. Descriptions stand in template literals; a condition
that fails offers nothing. -/
def Link.render : Link → String
  | ⟨key, .plain description⟩ => "game.choice(\"" ++ key ++ "\", `" ++ description ++ "`)"
  | ⟨key, .withArgument description argument⟩ =>
    "game.choice(\"" ++ key ++ "\", `" ++ description ++ "`, " ++ argument ++ ")"
  | ⟨key, .conditional condition argument⟩ =>
    "(" ++ condition ++ ") ? game.choice(\"" ++ key ++ "\", " ++ argument ++ ") : false"

/-- What a story module consists of between its imports and its end. -/
inductive Statement where
  /-- Registers a node under `key` and opens its function, which enters `scope`. -/
  | openNode (header key : String) (scope : Scope)
  /-- Leaves the scope of the node and closes its function. -/
  | closeNode
  | say (paragraph : List String)
  | script (text : String)
  | choose (links : List Link)
  | showImage (source : String)
  | enterScope (scope : Scope)
  /-- Tells `text` in a style. -/
  | sayWith (style text : String)
deriving DecidableEq, Repr

namespace Statement

def render : Statement → String
  | openNode header key scope =>
    "\n/* " ++ header ++ " */\n" ++
    "game.gameNodes['" ++ key ++ "'] =\n" ++
    "new GameNode('" ++ key ++ "').setExecFn(function(game, choice) \x7b\n" ++
    "game.player.location = '" ++ key ++ "';\n" ++
    "game.scope = '" ++ scope.name ++ "';\n"
  | closeNode => "game.scope = '" ++ Scope.global.name ++ "';\n\x7d);\n"
  | say paragraph => "game.say(`" ++ "\n".intercalate paragraph ++ "`);\n"
  | script text => text ++ "\n"
  | choose links => "game.choose(\n" ++ ",\n".intercalate (links.map Link.render) ++ ");\n"
  | showImage source => "game.img(\"" ++ source ++ "\");\n"
  | enterScope scope => "game.scope = \"" ++ scope.name ++ "\";\n"
  | sayWith style text => "game.sayWith(\"" ++ style ++ "\", `" ++ text ++ "`);\n"

def renderAll (statements : List Statement) : String :=
  String.join (statements.map render)

@[simp] theorem renderAll_nil : renderAll [] = "" := rfl

@[simp] theorem renderAll_cons (statement : Statement) (rest : List Statement) :
    renderAll (statement :: rest) = statement.render ++ renderAll rest := by
  simp [renderAll]

theorem renderAll_append (front back : List Statement) :
    renderAll (front ++ back) = renderAll front ++ renderAll back := by
  induction front with
  | nil => simp
  | cons statement rest ih => simp [ih, String.append_assoc]

end Statement

def Module.imports : String :=
  "import \x7bgame, back, visited, GameNode\x7d from \"./game.js\";\n" ++
  "import \x7bstory\x7d from \"./story.js\";\n"

/-- Every story module ends in the global scope. -/
def Module.ending : String :=
  "game.scope = \"" ++ Scope.global.name ++ "\";"

def Module.render (statements : List Statement) : String :=
  Module.imports ++ Statement.renderAll statements ++ Module.ending

end StoryScript

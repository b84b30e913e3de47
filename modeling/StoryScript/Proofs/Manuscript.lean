import StoryScript.Log
import StoryScript.Proofs.Script
import StoryScript.Proofs.SourceLines

namespace StoryScript

/-- A form that is read back as it is written: its parts are trimmed, and none of them holds what
would end it or be taken for a condition. -/
def Choice.Form.IsCanonical : Choice.Form → Prop
  | .plain description =>
    description ≠ "" ∧ Text.trim description = description ∧ ';' ∉ description.toList ∧
      description.toList.head? ≠ some '?'
  | .withArgument description argument =>
    Text.trim description = description ∧ Text.trim argument = argument ∧ ';' ∉ description.toList ∧
      description.toList.head? ≠ some '?'
  | .conditional condition argument =>
    Text.trim condition = condition ∧ Text.trim argument = argument ∧ ';' ∉ condition.toList

instance : DecidablePred Choice.Form.IsCanonical
  | .plain _ => inferInstanceAs (Decidable (_ ∧ _))
  | .withArgument _ _ => inferInstanceAs (Decidable (_ ∧ _))
  | .conditional _ _ => inferInstanceAs (Decidable (_ ∧ _))

def Choice.Form.print : Choice.Form → String
  | .plain description => description
  | .withArgument description argument => description ++ ";" ++ argument
  | .conditional condition argument => "?" ++ condition ++ ";" ++ argument

/-- A line with something to tell. -/
structure Manuscript.Told where
  text : String
  full : Text.trimChars text.toList ≠ []
  oneLine : Source.IsOneLine text

namespace Manuscript

structure Code where
  text : String
  oneLine : Source.IsOneLine text

structure Directive extends Command where
  spaceless : ' ' ∉ name.toList
  trimmed : Text.trim body = body
  nameOneLine : Source.IsOneLine name
  bodyOneLine : Source.IsOneLine body

structure Offer extends Choice where
  spaceless : ' ' ∉ target.toList
  canonical : form.IsCanonical
  targetOneLine : Source.IsOneLine target
  formOneLine : Source.IsOneLine form.print

/-- What follows one another before the first node or in a node. Menus stand in nodes only. -/
inductive Item : Level → Type
  | paragraph {level : Level} (lines : List Told) (full : lines ≠ []) : Item level
  | code {level : Level} (line : Code) : Item level
  | command {level : Level} (directive : Directive) : Item level
  | menu (offers : List Offer) (full : offers ≠ []) : Item .inNode

/-- A node with its title and what happens in it. -/
structure Scene where
  id : String
  title : String
  items : List (Item .inNode)
  named : id ≠ ""
  spaceless : ' ' ∉ id.toList
  unmarked : '=' ∉ id.toList
  idOneLine : Source.IsOneLine id
  titleOneLine : Source.IsOneLine title

end Manuscript

/-- A story as its author thinks of it. -/
structure Manuscript where
  preamble : List (Manuscript.Item .topLevel)
  scenes : List Manuscript.Scene

namespace Manuscript

/-- A backslash keeps the first character of a told line from being taken for a marker. -/
def Told.print (line : Told) : String :=
  "\\" ++ line.text

def Code.print (line : Code) : String :=
  "| " ++ line.text

def Directive.print (directive : Directive) : String :=
  "!" ++ directive.name ++ " " ++ directive.body

def Offer.print (offer : Offer) : String :=
  ">" ++ offer.target ++ " " ++ offer.form.print

def Scene.header (scene : Scene) : String :=
  "=" ++ scene.id ++ "=" ++ scene.title

namespace Item

variable {level : Level}

def print : Item level → List String
  | .paragraph lines _ => lines.map Told.print
  | .code line => [line.print]
  | .command directive => [directive.print]
  | .menu offers _ => offers.map Offer.print

/-- Two paragraphs or two menus, which would be read as one without a blank line between them. -/
def adjoins : Item level → Item level → Bool
  | .paragraph _ _, .paragraph _ _ => true
  | .menu _ _, .menu _ _ => true
  | _, _ => false

/-- The blank line between an item and those that follow it, where one is needed. -/
def gap (item : Item level) : List (Item level) → List String
  | [] => []
  | next :: _ => if item.adjoins next then [""] else []

def printAll : List (Item level) → List String
  | [] => []
  | item :: rest => item.print ++ (item.gap rest ++ printAll rest)

def enter (scope : Scope) : Item level → Scope
  | .command directive => if directive.name = "scope" then ⟨directive.body⟩ else scope
  | _ => scope

def render (scope : Scope) : Item level → String
  | .paragraph lines _ => Script.paragraph (lines.map (·.text))
  | .code line => line.text ++ "\n"
  | .command directive => Script.directive directive.toCommand
  | .menu offers _ => Script.menu (offers.map fun offer => Script.element scope offer.toChoice)

def renderAll (scope : Scope) : List (Item level) → String
  | [] => ""
  | item :: rest => item.render scope ++ renderAll (item.enter scope) rest

end Item

namespace Scene

def print (scene : Scene) : List String :=
  scene.header :: Item.printAll scene.items

def render (scope : Scope) (scene : Scene) : String :=
  Script.opener scope scene.header scene.id ++ Item.renderAll scope scene.items ++ Script.closer

def renderAll (scope : Scope) : List Scene → String
  | [] => ""
  | scene :: rest => scene.render scope ++ renderAll (scene.items.foldl Item.enter scope) rest

end Scene

def texts (manuscript : Manuscript) : List String :=
  Item.printAll manuscript.preamble ++ manuscript.scenes.flatMap Scene.print

def print (manuscript : Manuscript) : String :=
  String.join (manuscript.texts.map (· ++ "\n"))

def render (manuscript : Manuscript) : String :=
  Module.imports ++ Item.renderAll .global manuscript.preamble ++
    Scene.renderAll (manuscript.preamble.foldl Item.enter .global) manuscript.scenes ++ Script.ending

end Manuscript

end StoryScript

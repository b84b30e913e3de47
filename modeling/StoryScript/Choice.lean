import StoryScript.Text.Cut
import StoryScript.Text.Padding

namespace StoryScript

/-- How a choice is offered. Arguments and conditions are script expressions and are never
quoted. -/
inductive Choice.Form where
  /-- `>id description` -/
  | plain (description : String)
  /-- `>id description; argument` -/
  | withArgument (description argument : String)
  /-- `>id ? condition; argument` -/
  | conditional (condition argument : String)
deriving DecidableEq, Repr

/-- One choice: the id of the node it leads to and how it is offered. -/
structure Choice where
  target : String
  form : Choice.Form
deriving DecidableEq, Repr

namespace Choice

def defaultDescription : String := "continue"

/-- The form of the trimmed text after the id. A condition needs its `;`; it is the only form
that can be unfinished. -/
def Form.read? : List Char → Option Form
  | [] => some (.plain defaultDescription)
  | '?' :: rest =>
    (Text.cutAt? ';' rest).map fun (condition, argument) =>
      .conditional (Text.trim (String.ofList condition)) (Text.trim (String.ofList argument))
  | text =>
    match Text.cutAt? ';' text with
    | some (description, argument) =>
      some (.withArgument (Text.trim (String.ofList description)) (Text.trim (String.ofList argument)))
    | none => some (.plain (String.ofList text))

/-- Reads a choice line: after the `>`, the id up to the first space, then the form. -/
def read? (content : String) : Option Choice :=
  let (target, rest) := Text.cutAt ' ' (content.toList.drop 1)
  (Form.read? (Text.trimChars rest)).map fun form => { target := String.ofList target, form }

end Choice

end StoryScript

import StoryScript.Text.Cut
import StoryScript.Text.Padding

namespace StoryScript

/-- A `!name body` directive. -/
structure Command where
  name : String
  body : String
deriving DecidableEq, Repr

/-- Reads a command line: after the `!`, the name up to the first space, then the trimmed
body. -/
def Command.read (content : String) : Command :=
  let (name, body) := Text.cutAt ' ' (content.toList.drop 1)
  { name := String.ofList name, body := Text.trim (String.ofList body) }

end StoryScript

import StoryScript.Text.Cut

namespace StoryScript.Header

/-- A header is `=`, at least one character, and `=` again, with no space in between. Any later
`=` may be the closing one, so an id written as `==x=` is still a header. -/
def isHeader : List Char → Bool
  | '=' :: rest => ((rest.takeWhile (· != ' ')).drop 1).contains '='
  | _ => false

/-- The id between the first two `=` of a header. -/
def id? : List Char → Option (List Char)
  | '=' :: rest => (Text.cutAt? '=' rest).map Prod.fst
  | _ => none

end StoryScript.Header

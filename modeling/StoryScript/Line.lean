import StoryScript.Header
import StoryScript.Text.Padding

namespace StoryScript

/-- What a story line is for. -/
inductive Line.Kind where
  /-- `=id= title` begins a node. -/
  | header
  /-- `>id description` offers the player a way on. -/
  | choice
  /-- `| statement` is passed through. -/
  | code
  /-- `!name body` is a one-line directive. -/
  | command
  /-- `# …` is left out of the story. -/
  | comment
  /-- Everything else is told to the player. -/
  | narrative
deriving DecidableEq, Repr

/-- A story line with its kind, its text and its number in the source. -/
structure Line where
  kind : Line.Kind
  content : String
  number : Nat
deriving DecidableEq, Repr

namespace Line

/-- The kind a leading character announces. -/
def Kind.ofMarker : Char → Kind
  | '=' => .header
  | '>' => .choice
  | '|' => .code
  | '!' => .command
  | '#' => .comment
  | _ => .narrative

/-- Kind and content of a line's characters. A backslash makes narrative of whatever follows it,
and an `=` that opens no header is dropped from narrative. -/
def read : List Char → Kind × List Char
  | [] => (.narrative, [])
  | '\\' :: escaped => (.narrative, escaped)
  | marker :: rest =>
    if marker = '=' ∧ !Header.isHeader (marker :: rest) then (.narrative, rest)
    else (Kind.ofMarker marker, marker :: rest)

/-- Classifies one line. Every text is a line of some kind. -/
def classify (text : String) (number : Nat) : Line :=
  let (kind, content) := read text.toList
  { kind, content := String.ofList content, number }

def isBlank (line : Line) : Bool :=
  (Text.trimChars line.content.toList).isEmpty

/-- A narrative line with nothing to tell; it only separates paragraphs. -/
def isGap (line : Line) : Bool :=
  line.kind == .narrative && line.isBlank

def isTold (line : Line) : Bool :=
  line.kind == .narrative && !line.isBlank

def classifyAll (texts : List String) : List Line :=
  (texts.zipIdx 1).map fun (text, number) => classify text number

/-- The lines of a story: comments count in the numbering but are left out. -/
def ofTexts (texts : List String) : List Line :=
  (classifyAll texts).filter (·.kind != .comment)

theorem not_comment_of_mem_ofTexts {texts : List String} {line : Line}
    (member : line ∈ ofTexts texts) : line.kind ≠ .comment := by
  simpa using (List.mem_filter.mp member).2

end Line

end StoryScript

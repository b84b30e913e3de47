import StoryScript.Text.Invisible

namespace StoryScript.Text

/-- A code point by its hexadecimal digits, in braces. -/
def codePoint (c : Char) : List Char :=
  ['\\', 'u', '\x7b'] ++ Nat.toDigits 16 c.toNat ++ ['\x7d']

/-- One character of a quoted text. What would end the quotation or cannot be seen is written as
an escape; an apostrophe is not. -/
def quoteChar : Char → List Char
  | '\x00' => ['\\', '0']
  | '\t' => ['\\', 't']
  | '\n' => ['\\', 'n']
  | '\r' => ['\\', 'r']
  | '"' => ['\\', '"']
  | '\\' => ['\\', '\\']
  | c => if isInvisible c then codePoint c else [c]

/-- A text between quotation marks, on one line and all of it visible. -/
def quote (text : String) : String :=
  String.ofList ('"' :: text.toList.flatMap quoteChar ++ ['"'])

/-- One character of a log message. Those that steer a terminal are written as escapes. -/
def tameChar (c : Char) : List Char :=
  match c with
  | '\x07' => ['\\', 'x', '0', '7']
  | '\x08' => ['\\', 'x', '0', '8']
  | '\x0c' => ['\\', 'x', '0', 'c']
  | '\x1b' => ['\\', 'x', '1', 'b']
  | '\x7f' => ['\\', 'x', '7', 'f']
  | c => if 0x80 ≤ c.toNat && c.toNat ≤ 0x9F then codePoint c else [c]

/-- A text that leaves the terminal it is printed on as it was. -/
def tame (text : String) : String :=
  String.ofList (text.toList.flatMap tameChar)

end StoryScript.Text

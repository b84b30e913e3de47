namespace StoryScript.Source

/-- A stretch of source text by its UTF-8 byte offsets, `stop` excluded. -/
structure Span where
  start : Nat
  stop : Nat
deriving DecidableEq, Repr

def Span.text (source : String) (span : Span) : String :=
  String.Pos.Raw.extract source ⟨span.start⟩ ⟨span.stop⟩

def lineFeed : UInt8 := 10

def carriageReturn : UInt8 := 13

/-- Scans the bytes from `offset` on, inside a line that began at `start`. A line ends at a
line feed, at a carriage return, or at the two together; the end of the source ends a line that
has begun. -/
def spansFrom (start offset : Nat) : List UInt8 → List Span
  | [] => if start < offset then [⟨start, offset⟩] else []
  | byte :: rest =>
    if byte = lineFeed then
      ⟨start, offset⟩ :: spansFrom (offset + 1) (offset + 1) rest
    else if byte = carriageReturn then
      match rest with
      | next :: more =>
        if next = lineFeed then
          ⟨start, offset⟩ :: spansFrom (offset + 2) (offset + 2) more
        else
          ⟨start, offset⟩ :: spansFrom (offset + 1) (offset + 1) (next :: more)
      | [] => [⟨start, offset⟩]
    else
      spansFrom start (offset + 1) rest

def lineSpans (source : String) : List Span :=
  spansFrom 0 0 source.toUTF8.data.toList

/-- The lines of a source text. A terminator at the very end begins no further line. -/
def lines (source : String) : List String :=
  (lineSpans source).map (Span.text source)

end StoryScript.Source

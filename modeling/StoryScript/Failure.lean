namespace StoryScript

inductive Fault.Cause where
  | choiceOutsideNode
  | unfinishedCondition
  /-- A comment was handed to the compiler. -/
  | strayComment
  | nestedNode
  /-- A node begins at a line that is no header. -/
  | headerExpected
  /-- A line taken for a header does not begin with `=`. -/
  | unmarkedHeader
  | unreadableHeader
deriving DecidableEq, Repr

/-- A line that cannot be compiled, by its number. -/
structure Fault where
  line : Nat
  cause : Fault.Cause
deriving DecidableEq, Repr

inductive FileError where
  | notFound
  | notFolder
  | isFolder
  | nameTooLong
  | nulInName
  /-- The system does not let the program do it. -/
  | denied
  | notUtf8
  /-- Any other reason, in the words of the system. -/
  | other (text : String)
deriving DecidableEq, Repr

inductive Failure where
  /-- The story is at fault. -/
  | story (line : Nat) (message : String)
  /-- The compiler is at fault. -/
  | defect (line : Nat) (message : String)
  | file (error : FileError)
  | inputMissing (path : String)
  | formatting
deriving DecidableEq, Repr

namespace Fault

def Cause.message : Cause → String
  | choiceOutsideNode => "Choice (>) found before the beginning of a node."
  | unfinishedCondition => "conditional choice is missing ';'."
  | strayComment => "unhandled line type."
  | nestedNode => "Nested nodes are not possible!"
  | headerExpected => "Expected node line."
  | unmarkedHeader => "Encountered node line that does not start with =."
  | unreadableHeader => "failed to parse an id from node line."

/-- Faults that no source text can cause. -/
def Cause.isDefect : Cause → Bool
  | strayComment | nestedNode | headerExpected | unmarkedHeader => true
  | choiceOutsideNode | unfinishedCondition | unreadableHeader => false

def toFailure (fault : Fault) : Failure :=
  if fault.cause.isDefect then .defect fault.line fault.cause.message
  else .story fault.line fault.cause.message

end Fault

def FileError.message : FileError → String
  | notFound => "No such file or directory (os error 2)"
  | notFolder => "Not a directory (os error 20)"
  | isFolder => "Is a directory (os error 21)"
  | nameTooLong => "File name too long (os error 36)"
  | nulInName => "file name contained an unexpected NUL byte"
  | denied => "Permission denied (os error 13)"
  | notUtf8 => "stream did not contain valid UTF-8"
  | other text => text

namespace Failure

/-- What the formatting of a text says when it fails. -/
def formattingReason : String :=
  "an error occurred when formatting an argument"

def message : Failure → String
  | story line message => toString line ++ ": " ++ message
  | defect line message => toString line ++ ": Bug: " ++ message
  | file error => "I/O error: " ++ error.message
  | inputMissing path => "File not found: " ++ path
  | formatting => "Formatting error: " ++ formattingReason

/-- The story line at which compilation stopped, if it got that far. -/
def line? : Failure → Option Nat
  | story line _ | defect line _ => some line
  | file _ | inputMissing _ | formatting => none

def isDefect : Failure → Bool
  | defect _ _ => true
  | story _ _ | file _ | inputMissing _ | formatting => false

/-- The deeper reasons behind a failure, outermost first. The other failures wrap none. -/
def reasons : Failure → List String
  | file error => [error.message]
  | formatting => [formattingReason]
  | story _ _ | defect _ _ | inputMissing _ => []

end Failure

end StoryScript

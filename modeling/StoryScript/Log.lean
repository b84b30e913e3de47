import StoryScript.Line
import StoryScript.Scope
import StoryScript.Text.Quoted

namespace StoryScript

/-- Whether a line is met inside a node. -/
inductive Level where
  | topLevel
  | inNode
deriving DecidableEq, Repr

namespace Log

/-- How much a log entry matters, the gravest first. -/
inductive Severity where
  | error
  | warn
  | info
  | debug
  | trace
deriving DecidableEq, Repr

def Severity.rank : Severity → Nat
  | error => 0
  | warn => 1
  | info => 2
  | debug => 3
  | trace => 4

def Severity.label : Severity → String
  | error => "ERROR"
  | warn => "WARN"
  | info => "INFO"
  | debug => "DEBUG"
  | trace => "TRACE"

/-- The least grave entries that are kept; nothing is kept by a filter that is off. -/
inductive Filter where
  | off
  | upTo (severity : Severity)
deriving DecidableEq, Repr

def Filter.ofName? : String → Option Filter
  | "off" => some .off
  | "error" => some (.upTo .error)
  | "warn" => some (.upTo .warn)
  | "info" => some (.upTo .info)
  | "debug" => some (.upTo .debug)
  | "trace" => some (.upTo .trace)
  | _ => none

def Filter.keeps : Filter → Severity → Bool
  | off, _ => false
  | upTo least, severity => severity.rank ≤ least.rank

inductive Event where
  | compiling (path : String)
  | storyBegun (lines : Nat)
  /-- The line that leads the next block is met. -/
  | dispatching (line : Nat) (kind : Line.Kind) (level : Level)
  | nodeOpened (line : Nat) (key : String)
  | scopeEntered (line : Nat) (scope : Scope)
  /-- The module is complete, with its size in bytes and the last scope entered. -/
  | storyFinished (bytes : Nat) (scope : Scope)
  | generated (bytes : Nat)
  | wrote (path : String)
deriving DecidableEq, Repr

end Log

def Line.Kind.label : Line.Kind → String
  | header => "Node"
  | choice => "Choice"
  | code => "Code"
  | command => "Command"
  | comment => "Comment"
  | narrative => "Text"

def Level.label : Level → String
  | topLevel => "TopLevel"
  | inNode => "InNode"

namespace Log.Event

def severity : Event → Severity
  | compiling _ | generated _ | wrote _ => .info
  | storyBegun _ | nodeOpened _ _ | scopeEntered _ _ | storyFinished _ _ => .debug
  | dispatching _ _ _ => .trace

/-- The part of the compiler that speaks. -/
def target : Event → String
  | compiling _ | generated _ | wrote _ => "ninelives_compiler::driver"
  | storyBegun _ | dispatching _ _ _ | storyFinished _ _ => "ninelives_compiler::codegen"
  | nodeOpened _ _ => "ninelives_compiler::codegen::node"
  | scopeEntered _ _ => "ninelives_compiler::codegen::command"

def message : Event → String
  | compiling path => "Compiling: " ++ Text.tame path
  | storyBegun lines => "transpiling story lines=" ++ toString lines
  | dispatching line kind level =>
    "dispatching line=" ++ toString line ++ " kind=" ++ kind.label ++ " level=" ++ level.label
  | nodeOpened line key => "transpiling node line=" ++ toString line ++ " id=" ++ key
  | scopeEntered line scope =>
    "scope changed line=" ++ toString line ++ " scope=" ++ Text.quote scope.name
  | storyFinished bytes scope =>
    "transpilation finished bytes=" ++ toString bytes ++ " scope=" ++ Text.quote scope.name
  | generated bytes => "Code generation successful: " ++ toString bytes ++ " bytes"
  | wrote path => "Wrote " ++ Text.tame path

/-- An entry is one line of the log. -/
def render (event : Event) : String :=
  event.severity.label ++ " " ++ event.target ++ ": " ++ event.message ++ "\n"

end Log.Event

/-- The text of the entries that a filter keeps, in their order. -/
def Log.render (filter : Log.Filter) (events : List Log.Event) : String :=
  String.join ((events.filter fun event => filter.keeps event.severity).map Log.Event.render)

end StoryScript

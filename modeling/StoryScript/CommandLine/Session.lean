import StoryScript.CommandLine.Options
import StoryScript.Job

namespace StoryScript.CommandLine

/-- What a finished run leaves: its exit code and what it printed. -/
structure Exit where
  code : UInt32
  stdout : String
  stderr : String
deriving DecidableEq, Repr

def versionText : String :=
  "ninelivesc 0.1.0\n"

def helpText : String :=
  "Nine Lives compiler - transpiles story files into JavaScript for the game runtime\n\n" ++
  "Usage: ninelivesc [OPTIONS] --in <FILE>\n\n" ++
  "Options:\n" ++
  "      --in <FILE>   Input story file\n" ++
  "      --out <FILE>  Output JavaScript file (printed to stdout when omitted)\n" ++
  "      --debug       Print the full error chain on failure\n" ++
  "  -v, --verbose     Log progress (same as RUST_LOG=debug)\n" ++
  "  -h, --help        Print help\n" ++
  "  -V, --version     Print version\n"

/-- The filter that is asked for, else progress in a verbose run, else warnings. -/
def Options.filter (options : Options) (asked : Option Log.Filter) : Log.Filter :=
  asked.getD (.upTo (if options.verbose then .debug else .warn))

/-- Sets the lines of a text after the first one in by `margin`. -/
def hang (margin : String) (text : String) : String :=
  String.ofList (text.toList.flatMap fun c => if c = '\n' then '\n' :: margin.toList else [c])

/-- The chain of causes, one below the other; two or more are numbered from 0. -/
def listCauses : List String → String
  | [cause] => "\n    " ++ hang "    " cause
  | causes => String.join (causes.zipIdx.map fun (cause, index) =>
      "\n    " ++ toString index ++ ": " ++ hang "       " cause)

def report (options : Options) (failure : Failure) : String :=
  let headline := "failed to compile " ++ options.input
  let causes := failure.message :: failure.reasons
  if options.debug then
    "Compilation failed: " ++ headline ++ "\n\nCaused by:" ++ listCauses causes ++ "\n"
  else
    "Compilation failed: " ++ ": ".intercalate (headline :: causes) ++ "\n"

variable {m : Type → Type} [Monad m] [Files m]

/-- Runs a job that the command line asks for. The module is printed only if it is not written to
a file. -/
def Options.run (options : Options) (asked : Option Log.Filter) : m Exit := do
  let outcome ← Job.run { input := options.input, output := options.output }
  let log := Log.render (options.filter asked) outcome.log
  match outcome.result with
  | .ok product =>
    let printed := if options.output.isSome then "" else product.text
    return { code := 0, stdout := printed, stderr := log }
  | .error failure =>
    return { code := 1, stdout := "", stderr := log ++ report options failure }

/-- Runs a command line. One that is refused runs no job; the words in which it is refused are left
out. -/
def run (arguments : List String) (asked : Option Log.Filter) : m Exit :=
  match Options.read arguments with
  | .ok options => options.run asked
  | .error .help => return { code := 0, stdout := helpText, stderr := "" }
  | .error .version => return { code := 0, stdout := versionText, stderr := "" }
  | .error .refused => return { code := 2, stdout := "", stderr := "" }

end StoryScript.CommandLine

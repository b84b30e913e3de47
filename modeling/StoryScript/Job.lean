import StoryScript.Files
import StoryScript.Story

namespace StoryScript

/-- A story file to compile, and where the module goes if it is to be written. -/
structure Job where
  input : String
  output : Option String
deriving DecidableEq, Repr

structure Job.Product where
  source : String
  text : String
deriving DecidableEq, Repr

/-- What came of a job: the log, and the product or the failure. -/
structure Job.Outcome where
  log : List Log.Event
  result : Except Failure Job.Product

namespace Job

variable {m : Type → Type} [Monad m] [Files m]

def readStory (path : String) : m (Except Failure String) := do
  if ← Files.isPresent path then
    match ← Files.read path with
    | .error error => return .error (.file error)
    | .ok bytes =>
      match String.fromUTF8? bytes with
      | some text => return .ok text
      | none => return .error (.file .notUtf8)
  else
    return .error (.inputMissing path)

/-- Reads and compiles the input. Nothing is written, and the output plays no part. -/
def compile (job : Job) : m Outcome := do
  match ← readStory job.input with
  | .error failure => return { log := [], result := .error failure }
  | .ok source =>
    let compilation := Story.compileSource source
    let log := .compiling job.input :: compilation.log
    match compilation.result with
    | .error fault => return { log, result := .error fault.toFailure }
    | .ok text =>
      return { log := log ++ [.generated text.utf8ByteSize]
               result := .ok { source := job.input, text } }

/-- Makes `path` a file that holds exactly the module. -/
def Product.writeTo (product : Product) (path : String) : m (Except Failure Unit) := do
  match ← Files.create path with
  | .error error => return .error (.file error)
  | .ok file =>
    match ← Files.write file product.text.toUTF8 with
    | .ok () => return .ok ()
    | .error error => return .error (.file error)

/-- Compiles, and then writes the module to the output if there is one. The output is first
touched when the module is complete. -/
def run (job : Job) : m Outcome := do
  let outcome ← compile job
  match outcome.result, job.output with
  | .ok product, some path =>
    match ← product.writeTo path with
    | .ok () => return { outcome with log := outcome.log ++ [.wrote path] }
    | .error failure => return { outcome with result := .error failure }
  | _, _ => return outcome

end Job

end StoryScript

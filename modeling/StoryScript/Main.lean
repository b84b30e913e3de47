import StoryScript.CommandLine.Session

namespace StoryScript

/-- The cause behind an error code of the system. -/
def FileError.ofCode (code : UInt32) (details : String) : FileError :=
  match code with
  | 2 => .notFound
  | 13 => .denied
  | 20 => .notFolder
  | 21 => .isFolder
  | 36 => .nameTooLong
  | _ => .other (details ++ " (os error " ++ toString code ++ ")")

def FileError.ofSystem : IO.Error → FileError
  | .noFileOrDirectory _ code details => .ofCode code details
  | .inappropriateType _ code details => .ofCode code details
  | .permissionDenied _ code details => .ofCode code details
  | .invalidArgument _ code details => .ofCode code details
  | .resourceExhausted _ code details => .ofCode code details
  | .otherError code details => .ofCode code details
  | error => .other (toString error)

/-- The files of the machine the program runs on. -/
instance : Files IO where
  Handle := IO.FS.Handle
  isPresent path :=
    try
      discard (IO.FS.realPath path)
      return true
    catch _ => return false
  read path :=
    try
      return .ok (← IO.FS.readBinFile path)
    catch error => return .error (.ofSystem error)
  create path :=
    try
      return .ok (← IO.FS.Handle.mk path .write)
    catch error => return .error (.ofSystem error)
  write file bytes :=
    try
      file.write bytes
      return .ok ()
    catch error => return .error (.ofSystem error)

end StoryScript

/-- Runs the command line and leaves with its exit code. -/
def main (arguments : List String) : IO UInt32 := do
  let asked := (← IO.getEnv "RUST_LOG").bind StoryScript.Log.Filter.ofName?
  let exit ← StoryScript.CommandLine.run arguments asked
  IO.print exit.stdout
  IO.eprint exit.stderr
  return exit.code

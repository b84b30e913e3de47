import StoryScript.Text.Cut

namespace StoryScript.CommandLine

structure Options where
  input : String
  output : Option String
  debug : Bool
  verbose : Bool
deriving DecidableEq, Repr

/-- Why the reading of a command line ends before its last argument. -/
inductive Verdict where
  | refused
  | help
  | version
deriving DecidableEq, Repr

inductive FileOption where
  | input
  | output
deriving DecidableEq, Repr

inductive Argument where
  /-- The next argument names the file. -/
  | fileNext (option : FileOption)
  /-- The file is named behind an `=`. -/
  | file (option : FileOption) (path : String)
  | debug
  | verbose
  | help
  | version
  /-- Short flags behind one dash. -/
  | flags (letters : List Char)
  | endOfOptions
  | unknown
deriving DecidableEq, Repr

def FileOption.ofName? (name : List Char) : Option FileOption :=
  if name = ['i', 'n'] then some .input
  else if name = ['o', 'u', 't'] then some .output
  else none

/-- A long option by what stands behind its two dashes. Only a file option takes a value. -/
def Argument.long (text : List Char) : Argument :=
  match Text.cutAt? '=' text with
  | some (name, path) =>
    match FileOption.ofName? name with
    | some option => .file option (String.ofList path)
    | none => .unknown
  | none =>
    match FileOption.ofName? text with
    | some option => .fileNext option
    | none =>
      match String.ofList text with
      | "debug" => .debug
      | "verbose" => .verbose
      | "help" => .help
      | "version" => .version
      | _ => .unknown

/-- What an argument says where an option is expected. -/
def Argument.ofText (text : String) : Argument :=
  match text.toList with
  | ['-', '-'] => .endOfOptions
  | '-' :: '-' :: rest => .long rest
  | '-' :: letter :: letters => .flags (letter :: letters)
  | _ => .unknown

structure Draft where
  input : Option String
  output : Option String
  debug : Bool
  verbose : Bool
deriving DecidableEq, Repr

namespace Draft

def empty : Draft :=
  { input := none, output := none, debug := false, verbose := false }

/-- Each file option is given at most once, and its file has a name. -/
def setFile (draft : Draft) (option : FileOption) (path : String) : Except Verdict Draft :=
  if path.isEmpty then .error .refused
  else
    match option with
    | .input => if draft.input.isSome then .error .refused else .ok { draft with input := some path }
    | .output =>
      if draft.output.isSome then .error .refused else .ok { draft with output := some path }

def setDebug (draft : Draft) : Except Verdict Draft :=
  if draft.debug then .error .refused else .ok { draft with debug := true }

def setVerbose (draft : Draft) : Except Verdict Draft :=
  if draft.verbose then .error .refused else .ok { draft with verbose := true }

def readFlags (draft : Draft) : List Char → Except Verdict Draft
  | [] => .ok draft
  | 'v' :: rest => do (← draft.setVerbose).readFlags rest
  | 'h' :: _ => .error .help
  | 'V' :: _ => .error .version
  | _ :: _ => .error .refused

/-- A file named by an argument of its own must not look like an option; a single dash does
not. -/
def isFileArgument (text : String) : Bool :=
  text == "-" || text.toList.head? != some '-'

/-- Reads arguments from left to right; the first that is refused or asks for help or the version
decides. -/
def readArguments (draft : Draft) : List String → Except Verdict Draft
  | [] => .ok draft
  | text :: rest =>
    match Argument.ofText text with
    | .fileNext option =>
      match rest with
      | [] => .error .refused
      | path :: more =>
        if isFileArgument path then do (← draft.setFile option path).readArguments more
        else .error .refused
    | .file option path => do (← draft.setFile option path).readArguments rest
    | .debug => do (← draft.setDebug).readArguments rest
    | .verbose => do (← draft.setVerbose).readArguments rest
    | .flags letters => do (← draft.readFlags letters).readArguments rest
    | .help => .error .help
    | .version => .error .version
    | .endOfOptions => if rest.isEmpty then .ok draft else .error .refused
    | .unknown => .error .refused

/-- The input is required. -/
def finish (draft : Draft) : Except Verdict Options :=
  match draft.input with
  | some input =>
    .ok { input, output := draft.output, debug := draft.debug, verbose := draft.verbose }
  | none => .error .refused

end Draft

def Options.read (arguments : List String) : Except Verdict Options := do
  (← Draft.empty.readArguments arguments).finish

end StoryScript.CommandLine

import StoryScript.Failure

namespace StoryScript

/-- A place in the tree of folders: the names that lead down to it from the root. -/
structure Location where
  names : List String
deriving DecidableEq, Repr

namespace Location

def root : Location := ⟨[]⟩

def child (place : Location) (name : String) : Location :=
  ⟨place.names ++ [name]⟩

/-- The folder around a place. The root is its own. -/
def parent (place : Location) : Location :=
  ⟨place.names.dropLast⟩

end Location

/-- What the system lets the program do with a file or a folder. -/
structure Mode where
  read : Bool
  write : Bool
  /-- Paths may lead through the folder. -/
  search : Bool
deriving DecidableEq, Repr

def Mode.full : Mode := ⟨true, true, true⟩

inductive Entry where
  | folder (mode : Mode)
  | file (mode : Mode) (bytes : ByteArray)

def Entry.mode : Entry → Mode
  | folder mode | file mode _ => mode

/-- Files and folders without links, and the folder at which relative paths begin. -/
structure Directory where
  working : Location
  entries : List (Location × Entry)

namespace Directory

/-- An empty working folder right under the root. -/
def empty : Directory := ⟨⟨["work"]⟩, [(⟨["work"]⟩, .folder .full)]⟩

/-- What stands at a place. The root is always there. -/
def entryAt (directory : Directory) (place : Location) : Option Entry :=
  match directory.entries.find? (·.1 = place) with
  | some (_, entry) => some entry
  | none => if place = .root then some (.folder .full) else none

/-- Puts an entry at a place, in the stead of what stood there. -/
def put (directory : Directory) (place : Location) (entry : Entry) : Directory :=
  { directory with entries := (place, entry) :: directory.entries.filter (·.1 ≠ place) }

def allows (directory : Directory) (place : Location) (right : Mode → Bool) : Bool :=
  (directory.entryAt place).any fun entry => right entry.mode

/-- The steps of a path are the names between its slashes. -/
def steps : List Char → List (List Char)
  | [] => [[]]
  | c :: rest =>
    match steps rest with
    | [] => [[c]]
    | name :: names => if c = '/' then [] :: name :: names else (c :: name) :: names

/-- Bytes of a whole path that the system takes, its end mark included. -/
def pathLimit : Nat := 4096

def nameLimit : Nat := 255

/-- The steps of a path that the system takes. -/
def vet (path : String) : Except FileError (List String) :=
  if path.toList.contains '\x00' then .error .nulInName
  else if path.isEmpty then .error .notFound
  else if pathLimit ≤ path.utf8ByteSize then .error .nameTooLong
  else .ok ((steps path.toList).map String.ofList)

/-- A path begins at the root if a slash stands first, and else in the working folder. -/
def start (directory : Directory) (path : String) : Location :=
  if path.toList.head? = some '/' then .root else directory.working

/-- One step from a place, which must be a folder. An empty step stays; any other one must be let
through the folder: `.` stays as well, `..` goes up, and a name leads down, whether or not anything
stands there. -/
def step (directory : Directory) (place : Location) (name : String) : Except FileError Location :=
  match directory.entryAt place with
  | none => .error .notFound
  | some (.file _ _) => .error .notFolder
  | some (.folder mode) =>
    if name = "" then .ok place
    else if !mode.search then .error .denied
    else if name = "." then .ok place
    else if name = ".." then .ok place.parent
    else if nameLimit < name.utf8ByteSize then .error .nameTooLong
    else .ok (place.child name)

def walk (directory : Directory) (path : String) (names : List String) : Except FileError Location :=
  names.foldlM directory.step (directory.start path)

/-- The place a path leads to. Something must stand there. -/
def find (directory : Directory) (path : String) : Except FileError Location := do
  let place ← directory.walk path (← vet path)
  match directory.entryAt place with
  | some _ => .ok place
  | none => .error .notFound

def read (directory : Directory) (path : String) : Except FileError ByteArray := do
  let place ← directory.find path
  match directory.entryAt place with
  | some (.file mode bytes) => if mode.read then .ok bytes else .error .denied
  | some (.folder mode) => .error (if mode.read then .isFolder else .denied)
  | none => .error .notFound

/-- The place at which a path lets a file be made or replaced. A file there must let itself be
written, and else the folder around it. A path that can only name a folder is refused. -/
def writable (directory : Directory) (path : String) : Except FileError Location := do
  let names ← vet path
  let named := (names.reverse.dropWhile (· = "")).reverse
  match named.getLast? with
  | none => .error .isFolder
  | some name =>
    let folder ← directory.step (← directory.walk path named.dropLast) "."
    if named.length < names.length ∨ name = "." ∨ name = ".." then
      .error .isFolder
    else
      let place ← directory.step folder name
      match directory.entryAt place with
      | some (.folder _) => .error .isFolder
      | some (.file mode _) => if mode.write then .ok place else .error .denied
      | none => if directory.allows folder Mode.write then .ok place else .error .denied

/-- Lets the file at a place hold `bytes`, in the mode that it has. -/
def fill (directory : Directory) (place : Location) (bytes : ByteArray) : Directory :=
  directory.put place (.file (((directory.entryAt place).map Entry.mode).getD .full) bytes)

def replace (directory : Directory) (path : String) (bytes : ByteArray) :
    Except FileError Directory := do
  return directory.fill (← directory.writable path) bytes

/-- One step from a place, with a folder made where nothing stands yet. -/
def stepInto (directory : Directory) (place : Location) (name : String) :
    Except FileError (Directory × Location) := do
  let next ← directory.step place name
  match directory.entryAt next with
  | some _ => .ok (directory, next)
  | none =>
    if directory.allows place Mode.write then .ok (directory.put next (.folder .full), next)
    else .error .denied

def makeFolder (directory : Directory) (path : String) : Except FileError Directory := do
  let (after, _) ← (← vet path).foldlM (fun (d, place) name => d.stepInto place name)
    (directory, directory.start path)
  return after

@[simp] theorem entryAt_put_self (directory : Directory) (place : Location) (entry : Entry) :
    (directory.put place entry).entryAt place = some entry := by
  simp [entryAt, put]

/-- Putting an entry changes no other place. -/
theorem entryAt_put_of_ne (directory : Directory) {place other : Location} (entry : Entry)
    (apart : other ≠ place) : (directory.put place entry).entryAt other = directory.entryAt other := by
  have kept : (directory.put place entry).entries.find? (·.1 = other) =
      directory.entries.find? (·.1 = other) := by
    unfold put
    rw [List.find?_cons_of_neg (by simpa using Ne.symm apart), List.find?_filter]
    congr 1
    funext found
    by_cases same : found.1 = other
    · simp [same, apart]
    · simp [same]
  rw [entryAt, entryAt, kept]

end Directory

end StoryScript

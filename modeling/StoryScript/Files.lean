import StoryScript.Directory

namespace StoryScript

/-- What a job asks of the system that keeps its files. -/
class Files (m : Type → Type) where
  /-- A file that is open to be written. -/
  Handle : Type
  isPresent : String → m Bool
  read : String → m (Except FileError ByteArray)
  /-- Opens the file a path names, made if it was not there and emptied if it was. -/
  create : String → m (Except FileError Handle)
  write : Handle → ByteArray → m (Except FileError Unit)

namespace Directory

/-- A directory held in memory. -/
instance : Files (StateM Directory) where
  Handle := Location
  isPresent path := do
    return ((← get).find path).toBool
  read path := do
    return (← get).read path
  create path := do
    let directory ← get
    match directory.writable path with
    | .ok place =>
      set (directory.fill place .empty)
      return .ok place
    | .error error => return .error error
  write place bytes := do
    modify (·.fill place bytes)
    return .ok ()

end Directory

end StoryScript

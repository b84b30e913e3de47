import StoryScript.Files

namespace StoryScript

/-- A second action begins with what the first one gave and left. -/
theorem run_bind_of_run {σ α β : Type} {first : StateM σ α} {next : α → StateM σ β} {s t : σ} {a : α}
    (ran : first.run s = (a, t)) : (first >>= next).run s = (next a).run t := by
  rw [StateT.run_bind, ran]
  rfl

namespace Files

variable {σ : Type} [Files (StateM σ)]

/-- What a reader of a path gets. -/
def contents (s : σ) (path : String) : Except FileError ByteArray :=
  ((read (m := StateM σ) path).run s).1

/-- What opening a path for writing gives. -/
def opened (s : σ) (path : String) : Except FileError (Handle (StateM σ)) :=
  ((create (m := StateM σ) path).run s).1

end Files

/-- What there is to see of the files in a state of the system: where a path leads, and what stands at
each place. -/
class FileView (σ : Type) where
  Place : Type
  find? : σ → String → Option Place
  entryAt : σ → Place → Option Entry

namespace FileView

variable {σ : Type} [FileView σ]

/-- A path names a file that holds `bytes`. -/
def Stores (s : σ) (path : String) (bytes : ByteArray) : Prop :=
  ∃ place mode, find? s path = some place ∧ entryAt s place = some (.file mode bytes)

theorem Stores.unique {s : σ} {path : String} {bytes other : ByteArray} (stores : Stores s path bytes)
    (again : Stores s path other) : bytes = other := by
  obtain ⟨place, mode, found, stands⟩ := stores
  obtain ⟨place', mode', found', stands'⟩ := again
  cases found.symm.trans found'
  cases stands.symm.trans stands'
  rfl

/-- One file is made or gets other bytes, and nothing else changes, its mode included. -/
structure Fills (before after : σ) (place : Place σ) (bytes : ByteArray) : Prop where
  holds : ∃ mode, entryAt after place = some (.file mode bytes) ∧
    (entryAt before place = none ∨ ∃ old, entryAt before place = some (.file mode old))
  others : ∀ other, other ≠ place → entryAt after other = entryAt before other

/-- What is written last stays. -/
theorem Fills.trans {s t u : σ} {place : Place σ} {early late : ByteArray} (first : Fills s t place early)
    (second : Fills t u place late) : Fills s u place late := by
  obtain ⟨mode, made, free⟩ := first.holds
  obtain ⟨mode', filled, taken⟩ := second.holds
  have same : mode' = mode := by
    rcases taken with absent | ⟨old, stands⟩
    · cases absent.symm.trans made
    · cases stands.symm.trans made
      rfl
  subst same
  refine ⟨⟨mode', filled, free⟩, fun other apart => ?_⟩
  rw [second.others other apart, first.others other apart]

/-- The file that a path names afterwards is the one that it named before, if it named any, and this
file alone has changed. -/
def Replaces (before after : σ) (path : String) (bytes : ByteArray) : Prop :=
  ∃ place, (find? before path = none ∨ find? before path = some place) ∧ find? after path = some place ∧
    Fills before after place bytes

theorem Replaces.stores {before after : σ} {path : String} {bytes : ByteArray}
    (replaces : Replaces before after path bytes) : Stores after path bytes := by
  obtain ⟨place, _, found, fills⟩ := replaces
  obtain ⟨mode, stands, _⟩ := fills.holds
  exact ⟨place, mode, found, stands⟩

end FileView

open FileView

/-- What a job relies on. Looking and reading change nothing, and what is read is what the file holds.
A refused opening changes nothing. A file just opened for writing is empty, takes what is written to
it, and is the only one that changes. -/
class LawfulFiles (σ : Type) [Files (StateM σ)] [FileView σ] : Prop where
  run_isPresent (s : σ) (path : String) :
    (Files.isPresent (m := StateM σ) path).run s = ((find? s path).isSome, s)
  run_read (s : σ) (path : String) :
    (Files.read (m := StateM σ) path).run s = (Files.contents s path, s)
  stores_of_contents {s : σ} {path : String} {bytes : ByteArray} :
    Files.contents s path = .ok bytes → Stores s path bytes
  run_create_error {s : σ} {path : String} {error : FileError} : Files.opened s path = .error error →
    (Files.create (m := StateM σ) path).run s = (.error error, s)
  run_create {s : σ} {path : String} {file : Files.Handle (StateM σ)} : Files.opened s path = .ok file →
    ∃ created place,
      (Files.create (m := StateM σ) path).run s = (.ok file, created) ∧
      (find? s path = none ∨ find? s path = some place) ∧ Fills s created place .empty ∧
      ∀ bytes, ∃ after, (Files.write (m := StateM σ) file bytes).run created = (.ok (), after) ∧
        find? after path = some place ∧ Fills created after place bytes

namespace Files

variable {σ : Type} [Files (StateM σ)] [FileView σ] [LawfulFiles σ]

/-- A path that can be opened for writing can be made to hold anything. -/
theorem run_create_write {s : σ} {path : String} {file : Handle (StateM σ)} (opens : opened s path = .ok file)
    (bytes : ByteArray) :
    ∃ created after,
      (create (m := StateM σ) path).run s = (.ok file, created) ∧
      (write (m := StateM σ) file bytes).run created = (.ok (), after) ∧
      Replaces s after path bytes := by
  obtain ⟨created, place, ran, led, emptied, writes⟩ := LawfulFiles.run_create opens
  obtain ⟨after, wrote, found, filled⟩ := writes bytes
  exact ⟨created, after, ran, wrote, place, led, found, emptied.trans filled⟩

/-- What a reader gets of a file is what it holds. -/
theorem contents_of_stores {s : σ} {path : String} {bytes read : ByteArray} (stores : Stores s path bytes)
    (got : contents s path = .ok read) : read = bytes :=
  (LawfulFiles.stores_of_contents got).unique stores

theorem find?_of_contents {s : σ} {path : String} {bytes : ByteArray} (read : contents s path = .ok bytes) :
    ∃ place, find? s path = some place := by
  obtain ⟨place, _, found, _⟩ := LawfulFiles.stores_of_contents read
  exact ⟨place, found⟩

end Files

end StoryScript

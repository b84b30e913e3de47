import Mathlib.Data.List.DropRight
import StoryScript.Proofs.LawfulFiles

namespace StoryScript

theorem exists_ok_of_bind {ε α β : Type} {first : Except ε α} {next : α → Except ε β} {b : β}
    (ran : first >>= next = .ok b) : ∃ a, first = .ok a ∧ next a = .ok b := by
  cases first with
  | error e => cases ran
  | ok a => exact ⟨a, rfl, ran⟩

namespace Directory

instance : FileView Directory where
  Place := Location
  find? directory path := (directory.find path).toOption
  entryAt := entryAt

variable {directory : Directory} {path : String} {place : Location}

theorem step_dot {folder : Location} (stepped : directory.step place "." = .ok folder) : folder = place := by
  unfold step at stepped
  split at stepped
  · cases stepped
  · cases stepped
  · rw [if_neg (by decide)] at stepped
    split at stepped
    · cases stepped
    · rw [if_pos rfl] at stepped
      cases stepped
      rfl

/-- Only a folder can be stepped through. -/
theorem entryAt_of_step {next : Location} {name : String} (stepped : directory.step place name = .ok next) :
    ∃ mode, directory.entryAt place = some (.folder mode) := by
  unfold step at stepped
  split at stepped
  · cases stepped
  · cases stepped
  · exact ⟨_, by assumption⟩

theorem walk_concat {names : List String} {name : String} {folder : Location}
    (walked : directory.walk path names = .ok folder) (stepped : directory.step folder name = .ok place) :
    directory.walk path (names ++ [name]) = .ok place := by
  rw [walk] at walked
  rw [walk, List.foldlM_append, walked]
  change [name].foldlM directory.step folder = .ok place
  rw [List.foldlM_cons, stepped]
  rfl

/-- A place at which a file can be made or get other bytes. -/
def IsFree (directory : Directory) (place : Location) : Prop :=
  directory.entryAt place = none ∨ ∃ mode old, directory.entryAt place = some (.file mode old)

theorem IsFree.no_folder (free : directory.IsFree place) (mode : Mode) :
    directory.entryAt place ≠ some (.folder mode) := by
  rintro stands
  rcases free with absent | ⟨_, _, file⟩
  · cases absent.symm.trans stands
  · cases file.symm.trans stands

/-- A path that lets a file be written leads to the place of the file, and no folder stands there. -/
theorem walk_of_writable (allowed : directory.writable path = .ok place) :
    ∃ names, vet path = .ok names ∧ directory.walk path names = .ok place ∧ directory.IsFree place := by
  unfold writable at allowed
  obtain ⟨names, vetted, onward⟩ := exists_ok_of_bind allowed
  have front : names.rdropWhile (· = "") <+: names := List.rdropWhile_prefix _ names
  rw [List.rdropWhile] at front
  generalize (names.reverse.dropWhile (· = "")).reverse = named at onward front
  dsimp only at onward
  cases last : named.getLast? with
  | none => rw [last] at onward; cases onward
  | some name =>
    rw [last] at onward
    obtain ⟨around, walked, upward⟩ := exists_ok_of_bind onward
    obtain ⟨folder, stayed, ending⟩ := exists_ok_of_bind upward
    cases step_dot stayed
    split at ending
    · cases ending
    · rename_i writes
      rw [not_or, Nat.not_lt] at writes
      obtain ⟨next, stepped, chosen⟩ := exists_ok_of_bind ending
      have parts : named.dropLast ++ [name] = named := List.dropLast_append_getLast? name last
      have reached : directory.walk path names = .ok next := by
        rw [← front.eq_of_length_le writes.1, ← parts]
        exact walk_concat walked stepped
      have solid : next = place ∧ directory.IsFree next := by
        split at chosen
        · cases chosen
        · rename_i mode old stands
          split at chosen <;> cases chosen
          exact ⟨rfl, Or.inr ⟨mode, old, stands⟩⟩
        · rename_i stands
          split at chosen <;> cases chosen
          exact ⟨rfl, Or.inl stands⟩
      rw [← solid.1]
      exact ⟨names, vetted, reached, solid.2⟩

/-- A walk goes through folders only, so it ends as before when something else is put where no
folder stands. -/
theorem foldlM_step_put {entry : Entry} (free : directory.IsFree place) (names : List String)
    {start last : Location} (walked : names.foldlM directory.step start = .ok last) :
    names.foldlM (directory.put place entry).step start = .ok last := by
  induction names generalizing start with
  | nil => exact walked
  | cons name rest ih =>
    rw [List.foldlM_cons] at walked ⊢
    obtain ⟨next, stepped, walked⟩ := exists_ok_of_bind walked
    have apart : start ≠ place := by
      rintro rfl
      obtain ⟨mode, stands⟩ := entryAt_of_step stepped
      exact free.no_folder mode stands
    have same : (directory.put place entry).step start name = .ok next := by
      rw [← stepped, step, step, entryAt_put_of_ne directory entry apart]
    rw [same]
    exact ih walked

theorem find_of_walk {names : List String} (vetted : vet path = .ok names)
    (walked : directory.walk path names = .ok place) :
    directory.find path = if (directory.entryAt place).isSome then .ok place else .error .notFound := by
  rw [find, vetted]
  simp only [bind, Except.bind, walked]
  cases directory.entryAt place <;> rfl

section

variable (allowed : directory.writable path = .ok place)

include allowed

/-- If the path of a file to be written leads anywhere, it leads to the place of the file. -/
theorem find?_of_writable : FileView.find? directory path = none ∨ FileView.find? directory path = some place := by
  obtain ⟨names, vetted, walked, _⟩ := walk_of_writable allowed
  have found := find_of_walk vetted walked
  change (directory.find path).toOption = none ∨ (directory.find path).toOption = some place
  rw [found]
  split
  · exact Or.inr rfl
  · exact Or.inl rfl

theorem find?_fill (bytes : ByteArray) : FileView.find? (directory.fill place bytes) path = some place := by
  obtain ⟨names, vetted, walked, free⟩ := walk_of_writable allowed
  have again : (directory.fill place bytes).walk path names = .ok place := foldlM_step_put free names walked
  change ((directory.fill place bytes).find path).toOption = some place
  rw [find_of_walk vetted again, fill, entryAt_put_self]
  rfl

end

theorem fills_fill (free : directory.IsFree place) (bytes : ByteArray) :
    FileView.Fills directory (directory.fill place bytes) place bytes := by
  refine ⟨⟨_, entryAt_put_self directory place _, ?_⟩, fun other apart => entryAt_put_of_ne directory _ apart⟩
  rcases free with absent | ⟨mode, old, stands⟩
  · exact Or.inl absent
  · refine Or.inr ⟨old, ?_⟩
    change directory.entryAt place = _
    rw [stands]
    rfl

theorem put_put (first second : Entry) : (directory.put place first).put place second = directory.put place second := by
  simp [put, List.filter_filter]

theorem fill_fill (first second : ByteArray) :
    (directory.fill place first).fill place second = directory.fill place second := by
  rw [fill, fill, entryAt_put_self, put_put]
  rfl

/-- A file opens for writing where one can be made or replaced, and it is then empty. -/
theorem run_create (directory : Directory) (path : String) :
    (Files.create (m := StateM Directory) path).run directory =
      match directory.writable path with
      | .ok place => (.ok place, directory.fill place .empty)
      | .error error => (.error error, directory) := by
  have got : (get : StateM Directory Directory).run directory = (directory, directory) := rfl
  refine (run_bind_of_run got).trans ?_
  cases directory.writable path <;> rfl

theorem opened_eq (directory : Directory) (path : String) : Files.opened directory path = directory.writable path := by
  refine (congrArg Prod.fst (run_create directory path)).trans ?_
  cases directory.writable path <;> rfl

/-- What is read is what stands where the path leads, in a file that may be read. -/
theorem read_eq_ok_iff {bytes : ByteArray} :
    directory.read path = .ok bytes ↔
      ∃ place mode, FileView.find? directory path = some place ∧
        directory.entryAt place = some (.file mode bytes) ∧ mode.read = true := by
  constructor
  · intro read
    obtain ⟨place, found, contents⟩ := exists_ok_of_bind read
    have leads : FileView.find? directory path = some place := congrArg Except.toOption found
    split at contents
    · rename_i mode held stands
      split at contents
      · rename_i readable
        cases contents
        exact ⟨place, mode, leads, stands, readable⟩
      · cases contents
    · cases contents
    · cases contents
  · rintro ⟨place, mode, leads, stands, readable⟩
    change (directory.find path).toOption = some place at leads
    cases found : directory.find path with
    | error error => rw [found] at leads; cases leads
    | ok other =>
      rw [found] at leads
      cases leads
      rw [Directory.read, found]
      simp only [bind, Except.bind, stands, if_pos readable]

/-- A file that could be read gives what has been written to it. -/
theorem read_of_replaces {after : Directory} {old bytes : ByteArray} (read : directory.read path = .ok old)
    (replaces : FileView.Replaces directory after path bytes) : after.read path = .ok bytes := by
  obtain ⟨place, mode, leads, stands, readable⟩ := read_eq_ok_iff.mp read
  obtain ⟨place', led, leads', fills⟩ := replaces
  obtain ⟨mode', filled, free⟩ := fills.holds
  rcases led with lost | led
  · cases lost.symm.trans leads
  · cases led.symm.trans leads
    rcases free with absent | ⟨held, before⟩
    · cases absent.symm.trans stands
    · cases before.symm.trans stands
      exact read_eq_ok_iff.mpr ⟨place, mode, leads', filled, readable⟩

/-- A directory in memory keeps the laws. -/
instance : LawfulFiles Directory where
  run_isPresent directory path := by
    change ((directory.find path).toBool, directory) = ((directory.find path).toOption.isSome, directory)
    cases directory.find path <;> rfl
  run_read _ _ := rfl
  stores_of_contents read := by
    obtain ⟨place, mode, leads, stands, _⟩ := read_eq_ok_iff.mp read
    exact ⟨place, mode, leads, stands⟩
  run_create_error {directory path error} refused := by
    rw [opened_eq] at refused
    exact (run_create directory path).trans (by rw [refused])
  run_create {directory path place} allowed := by
    rw [opened_eq] at allowed
    obtain ⟨_, _, _, free⟩ := walk_of_writable allowed
    refine ⟨directory.fill place .empty, place, (run_create directory path).trans (by rw [allowed]),
      find?_of_writable allowed, fills_fill free .empty, fun bytes => ?_⟩
    refine ⟨directory.fill place bytes, ?_, find?_fill allowed bytes, ?_⟩
    · rw [← fill_fill .empty bytes]
      rfl
    · rw [← fill_fill .empty bytes]
      exact fills_fill (Or.inr ⟨_, _, entryAt_put_self directory place _⟩) bytes

end Directory

end StoryScript

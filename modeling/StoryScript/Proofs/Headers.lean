import Mathlib.Computability.Language
import StoryScript.Proofs.Classified

namespace StoryScript

namespace Header

open scoped Computability

/-- The mark before and behind the id of a node. -/
def mark : Language Char :=
  {['=']}

/-- Any one character but the space. A line feed or a carriage return inside a line is no exception. -/
def solid : Language Char :=
  {word | ∃ c, c ≠ ' ' ∧ word = [c]}

/-- What a header begins with: a mark, one or more characters other than the space, and a mark. -/
def opening : Language Char :=
  mark * (solid * solid∗) * mark

theorem mem_solid_kstar {word : List Char} : word ∈ solid∗ ↔ ' ' ∉ word := by
  rw [Language.mem_kstar]
  constructor
  · rintro ⟨letters, rfl, each⟩ member
    obtain ⟨letter, among, inside⟩ := List.mem_flatten.mp member
    obtain ⟨c, other, rfl⟩ := each letter among
    exact other (List.mem_singleton.mp inside).symm
  · intro spaceless
    refine ⟨word.map fun c => [c], (List.flatMap_singleton' word).symm, fun letter member => ?_⟩
    obtain ⟨c, among, rfl⟩ := List.mem_map.mp member
    exact ⟨c, fun same => spaceless (same ▸ among), rfl⟩

theorem mem_opening {front : List Char} :
    front ∈ opening ↔ ∃ word, word ≠ [] ∧ ' ' ∉ word ∧ front = '=' :: (word ++ ['=']) := by
  unfold opening mark
  constructor
  · rintro ⟨_, ⟨_, rfl, _, ⟨_, ⟨c, other, rfl⟩, more, starred, rfl⟩, rfl⟩, _, rfl, rfl⟩
    have spaceless := mem_solid_kstar.mp starred
    exact ⟨c :: more, by simp, by simp [spaceless, other.symm], rfl⟩
  · rintro ⟨word, named, spaceless, rfl⟩
    cases word with
    | nil => exact absurd rfl named
    | cons c more =>
      obtain ⟨other, rest⟩ := not_or.mp (mt List.mem_cons.mpr spaceless)
      have first : [c] ∈ solid := ⟨c, Ne.symm other, rfl⟩
      have inner : [c] ++ more ∈ solid * solid∗ := Language.append_mem_mul first (mem_solid_kstar.mpr rest)
      have marked : ['='] ∈ ({['=']} : Language Char) := Set.mem_singleton ['=']
      exact Language.append_mem_mul (Language.append_mem_mul marked inner) marked

/-- A header is closed by any later mark that no space keeps from it. -/
theorem isHeader_iff {chars : List Char} :
    isHeader chars = true ↔ ∃ word title, word ≠ [] ∧ ' ' ∉ word ∧ chars = '=' :: (word ++ '=' :: title) := by
  constructor
  · intro header
    cases chars with
    | nil => cases header
    | cons marker rest =>
      obtain rfl : marker = '=' := by
        by_contra other
        rw [isHeader] at header
        · cases header
        · simpa using other
      have closed : '=' ∈ (rest.takeWhile (· != ' ')).drop 1 := by simpa [isHeader] using header
      have clear : ' ' ∉ rest.takeWhile (· != ' ') := fun member => by
        simpa using List.all_eq_true.mp List.all_takeWhile ' ' member
      have whole := List.takeWhile_append_dropWhile (p := (· != ' ')) (l := rest)
      generalize rest.takeWhile (· != ' ') = run, rest.dropWhile (· != ' ') = after at closed clear whole
      cases run with
      | nil => cases closed
      | cons c more =>
        -- Whichever mark is found, what stands before it can be the word.
        obtain ⟨front, back, rfl⟩ := List.append_of_mem closed
        have early : c :: front ⊆ c :: (front ++ '=' :: back) := List.subset_append_left (c :: front) _
        exact ⟨c :: front, back ++ after, by simp, fun space => clear (early space), by simp [← whole]⟩
  · rintro ⟨word, title, named, spaceless, rfl⟩
    exact isHeader_of_word title named spaceless

/-- What is taken for a header is exactly what begins as the pattern says. -/
theorem isHeader_iff_opening {chars : List Char} : isHeader chars = true ↔ ∃ front ∈ opening, front <+: chars := by
  rw [isHeader_iff]
  constructor
  · rintro ⟨word, title, named, spaceless, rfl⟩
    exact ⟨_, mem_opening.mpr ⟨word, named, spaceless, rfl⟩, title, by simp⟩
  · rintro ⟨front, opens, title, rfl⟩
    obtain ⟨word, named, spaceless, rfl⟩ := mem_opening.mp opens
    exact ⟨word, title, named, spaceless, by simp⟩

/-- The id that a text gives a node: it stands between the first two marks, and no space is in it. -/
structure Names (text id : String) : Prop where
  unmarked : '=' ∉ id.toList
  spaceless : ' ' ∉ id.toList
  closed : ∃ title, text = "=" ++ id ++ "=" ++ title

namespace Names

variable {text id : String}

theorem id?_eq (names : Names text id) : id? text.toList = some id.toList := by
  obtain ⟨title, rfl⟩ := names.closed
  have letters : ("=" ++ id ++ "=" ++ title).toList = '=' :: (id.toList ++ '=' :: title.toList) := by simp
  rw [letters, id?, Text.cutAt?_eq_some_iff.mpr ⟨rfl, names.unmarked⟩]
  rfl

/-- A text names one node at most, since its second mark is in one place. -/
theorem unique {other : String} (names : Names text id) (also : Names text other) : other = id := by
  have same := also.id?_eq.symm.trans names.id?_eq
  exact String.toList_inj.mp (Option.some.inj same)

theorem eq_empty_iff (names : Names text id) : id = "" ↔ ∃ rest, text = "==" ++ rest := by
  constructor
  · rintro rfl
    obtain ⟨title, rfl⟩ := names.closed
    exact ⟨title, rfl⟩
  · rintro ⟨rest, rfl⟩
    have nameless : Names ("==" ++ rest) "" := ⟨by simp, by simp, rest, rfl⟩
    exact (names.unique nameless).symm

end Names

/-- The mark that closes the pattern need not be the one behind the id. If it is not, then that one
stands earlier, and no space before it either. -/
theorem exists_names {text : String} (header : isHeader text.toList = true) : ∃ id, Names text id := by
  obtain ⟨word, title, _, spaceless, shape⟩ := isHeader_iff.mp header
  cases cut : Text.cutAt? '=' word with
  | none =>
    have unmarked := Text.cutAt?_eq_none_iff.mp cut
    refine ⟨String.ofList word, by simpa using unmarked, by simpa using spaceless, String.ofList title, ?_⟩
    simp [← String.toList_inj, shape]
  | some parts =>
    obtain ⟨id, more⟩ := parts
    obtain ⟨rfl, unmarked⟩ := Text.cutAt?_eq_some_iff.mp cut
    have clear : ' ' ∉ id := fun space => spaceless (List.mem_append_left _ space)
    refine ⟨String.ofList id, by simpa using unmarked, by simpa using clear, String.ofList (more ++ '=' :: title), ?_⟩
    simp [← String.toList_inj, shape]

end Header

namespace Line

theorem read_eq_header_iff {chars : List Char} : (read chars).1 = .header ↔ Header.isHeader chars = true := by
  cases chars with
  | nil => simp [read, Header.isHeader]
  | cons marker rest =>
    by_cases mark : marker = '='
    · subst mark
      rw [read_mark]
      split <;> simp_all
    · have headless : Header.isHeader (marker :: rest) = false := by simp [Header.isHeader, mark]
      by_cases escape : marker = '\\'
      · simp [escape, read, Header.isHeader]
      · rw [read_cons rest ⟨escape, mark⟩, headless]
        simpa using mt Kind.ofMarker_eq_header mark

theorem headerId_of_names {text id : String} {number : Nat} (kind : (classify text number).kind = .header)
    (names : Header.Names text id) : Emitter.headerId (classify text number) = .ok id.toList := by
  obtain ⟨title, marked⟩ := names.closed
  have first : text.toList.head? = some '=' := by simp [marked]
  rw [Emitter.headerId, if_neg (not_not.mpr kind), content_classify kind (by decide), if_neg (not_not.mpr first),
    names.id?_eq]

/-- What is taken for a header and what id is read from it agree. The pattern may close at any later
mark and the id ends at the first, but each header has its one id, and it is empty only where two marks
come first. Any other text that begins with a mark is narrative without it. -/
theorem headers_have_ids (text : String) (number : Nat) :
    (Header.isHeader text.toList = true ↔ ∃ front ∈ Header.opening, front <+: text.toList) ∧
    ((classify text number).kind = .header ↔
      ∃ word title : String, word ≠ "" ∧ ' ' ∉ word.toList ∧ text = "=" ++ word ++ "=" ++ title) ∧
    ((classify text number).kind = .header →
      (classify text number).content = text ∧
      ∃ id : String, Emitter.headerId (classify text number) = .ok id.toList ∧ Header.Names text id ∧
        (∀ other, Header.Names text other → other = id) ∧ (id = "" ↔ ∃ rest, text = "==" ++ rest)) ∧
    ∀ rest, text = "=" ++ rest → (classify text number).kind ≠ .header →
      (classify text number).kind = .narrative ∧ (classify text number).content = rest := by
  refine ⟨Header.isHeader_iff_opening, ?_, fun kind => ?_, fun rest marked other => ?_⟩
  · rw [classify_kind, read_eq_header_iff, Header.isHeader_iff]
    constructor
    · rintro ⟨word, title, named, spaceless, shape⟩
      refine ⟨String.ofList word, String.ofList title, by simpa using named, by simpa using spaceless, ?_⟩
      simp [← String.toList_inj, shape]
    · rintro ⟨word, title, named, spaceless, rfl⟩
      exact ⟨word.toList, title.toList, by simpa using named, spaceless, by simp⟩
  · have header := kind
    rw [classify_kind, read_eq_header_iff] at header
    obtain ⟨id, names⟩ := Header.exists_names header
    exact ⟨content_classify kind (by decide), id, headerId_of_names kind names, names,
      fun _ => names.unique, names.eq_empty_iff⟩
  · have letters : text.toList = '=' :: rest.toList := by simp [marked]
    have headless : Header.isHeader ('=' :: rest.toList) = false := by
      rwa [classify_kind, ne_eq, read_eq_header_iff, Bool.not_eq_true, letters] at other
    have read : Line.read text.toList = (.narrative, rest.toList) := by
      rw [letters, read_mark, headless]
      rfl
    exact ⟨by rw [classify_kind, read], by rw [← String.toList_inj, classify_content, read]⟩

/-- The pattern closes at the third mark and the id ends at the second, which leaves it empty. With
a space before every later mark there is no header. -/
theorem headers_have_ids_nameless :
    (classify "==x= y" 3).kind = .header ∧ (classify "==x= y" 3).content = "==x= y" ∧
    Emitter.headerId (classify "==x= y" 3) = .ok [] ∧
    (classify "=a b= c" 4).kind = .narrative ∧ (classify "=a b= c" 4).content = "a b= c" := by
  have kind : (classify "==x= y" 3).kind = .header := by decide
  obtain ⟨content, id, read, _, _, nameless⟩ := (headers_have_ids "==x= y" 3).2.2.1 kind
  obtain ⟨told, rest⟩ := (headers_have_ids "=a b= c" 4).2.2.2 "a b= c" rfl (by decide)
  rw [nameless.mpr ⟨"x= y", rfl⟩] at read
  exact ⟨kind, content, read, told, rest⟩

end Line

end StoryScript

import StoryScript.Emitter
import StoryScript.Proofs.Script

/-- The `=` behind a word closes the header, since the word has a first character and no space. -/
theorem StoryScript.Header.isHeader_of_word {word : List Char} (title : List Char) (named : word ≠ [])
    (spaceless : ' ' ∉ word) : isHeader ('=' :: (word ++ '=' :: title)) = true := by
  cases word with
  | nil => exact absurd rfl named
  | cons c rest =>
    have kept : ∀ d ∈ c :: rest, (d != ' ') = true := fun d member =>
      bne_iff_ne.mpr fun same => spaceless (same ▸ member)
    rw [isHeader, List.takeWhile_append_of_pos kept]
    simp

namespace StoryScript.Line

/-- A line that some text is classified as. -/
def IsClassified (line : Line) : Prop :=
  ∃ text number, line = classify text number

@[simp] theorem classify_kind (text : String) (number : Nat) :
    (classify text number).kind = (read text.toList).1 := rfl

@[simp] theorem classify_content (text : String) (number : Nat) :
    (classify text number).content.toList = (read text.toList).2 := String.toList_ofList

@[simp] theorem classify_number (text : String) (number : Nat) :
    (classify text number).number = number := rfl

theorem isClassified_of_mem_classifyAll {texts : List String} {line : Line}
    (member : line ∈ classifyAll texts) : line.IsClassified := by
  obtain ⟨⟨text, number⟩, _, same⟩ := List.mem_map.mp member
  exact ⟨text, number, same.symm⟩

theorem isClassified_of_mem_ofTexts {texts : List String} {line : Line}
    (member : line ∈ ofTexts texts) : line.IsClassified :=
  isClassified_of_mem_classifyAll (List.mem_filter.mp member).1

def classifyFrom (first : Nat) (texts : List String) : List Line :=
  (texts.zipIdx first).map fun (text, number) => classify text number

@[simp] theorem classifyFrom_nil (first : Nat) : classifyFrom first [] = [] := rfl

@[simp] theorem classifyFrom_cons (first : Nat) (text : String) (texts : List String) :
    classifyFrom first (text :: texts) = classify text first :: classifyFrom (first + 1) texts := rfl

theorem classifyFrom_append (first : Nat) (front back : List String) :
    classifyFrom first (front ++ back) = classifyFrom first front ++ classifyFrom (first + front.length) back := by
  rw [classifyFrom, List.zipIdx_append, List.map_append]
  rfl

theorem exists_of_mem_classifyFrom {first : Nat} {texts : List String} {line : Line}
    (member : line ∈ classifyFrom first texts) : ∃ text ∈ texts, ∃ number, line = classify text number := by
  obtain ⟨⟨text, number⟩, found, same⟩ := List.mem_map.mp member
  exact ⟨text, List.fst_mem_of_mem_zipIdx found, number, same.symm⟩

/-- A marker other than `=` and the backslash announces its kind whatever follows it. -/
theorem read_cons {marker : Char} (rest : List Char) (plain : marker ≠ '\\' ∧ marker ≠ '=') :
    read (marker :: rest) = (Kind.ofMarker marker, marker :: rest) := by
  unfold read
  split
  · rename_i empty
    cases empty
  · rename_i escaped same
    cases same
    exact absurd rfl plain.1
  · rename_i other more _ same
    cases same
    rw [if_neg fun marked => plain.2 marked.1]

/-- An `=` is kept where it opens a header and is dropped everywhere else. -/
theorem read_mark (rest : List Char) :
    read ('=' :: rest) = if Header.isHeader ('=' :: rest) then (.header, '=' :: rest) else (.narrative, rest) := by
  cases header : Header.isHeader ('=' :: rest) <;> simp [read, header, Kind.ofMarker]

theorem read_header {id : List Char} (title : List Char) (named : id ≠ []) (spaceless : ' ' ∉ id) :
    read ('=' :: (id ++ '=' :: title)) = (.header, '=' :: (id ++ '=' :: title)) := by
  rw [read_mark, if_pos (Header.isHeader_of_word title named spaceless)]

/-- Characters that are not read as narrative are read whole, the first one announcing the kind.
An `=` announces a header only where there is one. -/
theorem read_marked (chars : List Char) (other : (read chars).1 ≠ .narrative) :
    ∃ marker rest, (read chars).2 = marker :: rest ∧ (read chars).1 = Kind.ofMarker marker ∧
      (marker = '=' → Header.isHeader (marker :: rest) = true) := by
  unfold read at *
  split at other
  · exact absurd rfl other
  · exact absurd rfl other
  · rename_i marker rest _
    by_cases dropped : marker = '=' ∧ !Header.isHeader (marker :: rest)
    · rw [if_pos dropped] at other
      exact absurd rfl other
    · rw [if_neg dropped]
      exact ⟨marker, rest, rfl, rfl, fun equals => by simpa [equals] using dropped⟩

/-- Only narrative loses a character, its escape or a mark that opens nothing. -/
theorem read_content (chars : List Char) (other : (read chars).1 ≠ .narrative) : (read chars).2 = chars := by
  cases chars with
  | nil => exact absurd rfl other
  | cons marker rest =>
    by_cases mark : marker = '='
    · subst mark
      rw [read_mark] at other ⊢
      split
      · rfl
      · rename_i headless
        rw [if_neg headless] at other
        exact absurd rfl other
    · by_cases escape : marker = '\\'
      · subst escape
        exact absurd rfl other
      · rw [read_cons rest ⟨escape, mark⟩]

theorem content_classify {text : String} {number : Nat} {kind : Kind} (found : (classify text number).kind = kind)
    (other : kind ≠ .narrative) : (classify text number).content = text := by
  rw [classify_kind] at found
  rw [← String.toList_inj, classify_content, read_content _ (found ▸ other)]

theorem Kind.ofMarker_eq_header {marker : Char} (kind : Kind.ofMarker marker = .header) : marker = '=' := by
  unfold ofMarker at kind
  split at kind <;> simp_all

theorem Kind.ofMarker_eq_choice {marker : Char} (kind : Kind.ofMarker marker = .choice) : marker = '>' := by
  unfold ofMarker at kind
  split at kind <;> simp_all

theorem IsClassified.choice_content {line : Line} (classified : line.IsClassified)
    (kind : line.kind = .choice) : ∃ rest, line.content.toList = '>' :: rest := by
  obtain ⟨text, number, rfl⟩ := classified
  obtain ⟨marker, rest, content, announced, _⟩ := read_marked text.toList (by simp_all)
  rw [classify_kind, announced] at kind
  exact ⟨rest, by rw [classify_content, content, Kind.ofMarker_eq_choice kind]⟩

/-- What is taken for a header has an id between its marker and the next `=`. -/
theorem IsClassified.headerId_eq {header : Line} (classified : header.IsClassified)
    (kind : header.kind = .header) :
    ∃ id, Emitter.headerId header = .ok id ∧ String.ofList id = header.nodeId := by
  obtain ⟨text, number, rfl⟩ := classified
  obtain ⟨marker, rest, content, announced, shaped⟩ := read_marked text.toList (by simp_all)
  have kind' := kind
  rw [classify_kind, announced] at kind'
  have equals := Kind.ofMarker_eq_header kind'
  subst equals
  have closed : '=' ∈ rest := by
    have found := shaped rfl
    simp only [Header.isHeader, List.contains_iff_mem] at found
    exact (List.takeWhile_subset _) (List.mem_of_mem_drop found)
  have cut : Text.cutAt? '=' rest ≠ none := by
    rw [ne_eq, Text.cutAt?_eq_none_iff]
    exact fun absent => absent closed
  unfold Text.cutAt? at cut
  refine ⟨rest.takeWhile (· != '='), ?_, ?_⟩
  · simp only [Emitter.headerId, kind, classify_content, content, Header.id?, Text.cutAt?]
    split at cut
    · exact absurd rfl cut
    · simp
  · simp [nodeId, classify_content, content]

end StoryScript.Line

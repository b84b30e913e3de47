import Mathlib.Data.String.Basic
import StoryScript.Source

namespace StoryScript.Source

/-- The lines of some characters, the first of which goes on from the characters in `line`. -/
def splitFrom (line : List Char) : List Char → List (List Char)
  | [] => if line.isEmpty then [] else [line]
  | '\n' :: rest => line :: splitFrom [] rest
  | '\r' :: '\n' :: rest => line :: splitFrom [] rest
  | '\r' :: rest => line :: splitFrom [] rest
  | c :: rest => splitFrom (line ++ [c]) rest

/-- A text without a line terminator. -/
def IsOneLine (text : String) : Prop :=
  ∀ c ∈ text.toList, c ≠ '\n' ∧ c ≠ '\r'

instance : DecidablePred IsOneLine := fun text =>
  List.decidableBAll (fun c => c ≠ '\n' ∧ c ≠ '\r') text.toList

theorem isOneLine_append {front back : String} :
    IsOneLine (front ++ back) ↔ IsOneLine front ∧ IsOneLine back := by
  unfold IsOneLine
  rw [String.toList_append, List.forall_mem_append]

theorem head?_ne_of_alone {first : Char} {rest : List Char} (alone : ∀ more, rest = first :: more → False) :
    rest.head? ≠ some first := by
  intro begins
  obtain ⟨more, shape⟩ := List.head?_eq_some_iff.mp begins
  exact alone more shape

theorem toUTF8_eq_flatMap (text : List Char) :
    (String.ofList text).toUTF8.data.toList = text.flatMap String.utf8EncodeChar := by
  change (String.ofList text).toByteArray.data.toList = _
  rw [String.toByteArray_ofList, List.utf8Encode, List.toList_data_toByteArray]

/-- A character is encoded with a byte below 128 only if it has that code. -/
theorem ascii_mem_utf8EncodeChar {c : Char} {byte : UInt8} (ascii : byte.toNat < 128) :
    byte ∈ String.utf8EncodeChar c ↔ c.val.toNat = byte.toNat := by
  fun_cases String.utf8EncodeChar c <;>
    simp only [List.mem_cons, List.not_mem_nil, or_false, ← UInt8.toNat_inj, UInt8.toNat_ofNat', Nat.reducePow] <;>
    omega

theorem lineFeed_mem_utf8EncodeChar {c : Char} : lineFeed ∈ String.utf8EncodeChar c ↔ c = '\n' := by
  rw [ascii_mem_utf8EncodeChar (by decide), Char.ext_iff, ← UInt32.toNat_inj]
  rfl

theorem carriageReturn_mem_utf8EncodeChar {c : Char} :
    carriageReturn ∈ String.utf8EncodeChar c ↔ c = '\r' := by
  rw [ascii_mem_utf8EncodeChar (by decide), Char.ext_iff, ← UInt32.toNat_inj]
  rfl

theorem spansFrom_append {bytes : List UInt8} (noFeed : lineFeed ∉ bytes) (noReturn : carriageReturn ∉ bytes)
    (start offset : Nat) (rest : List UInt8) :
    spansFrom start offset (bytes ++ rest) = spansFrom start (offset + bytes.length) rest := by
  induction bytes generalizing offset with
  | nil => rfl
  | cons byte bytes ih =>
    rw [List.mem_cons, not_or] at noFeed noReturn
    rw [List.cons_append, spansFrom.eq_def]
    simp only [if_neg (Ne.symm noFeed.1), if_neg (Ne.symm noReturn.1)]
    rw [ih noFeed.2 noReturn.2, List.length_cons, Nat.add_right_comm, Nat.add_assoc]

theorem spansFrom_lineFeed (start offset : Nat) (rest : List UInt8) :
    spansFrom start offset (lineFeed :: rest) = ⟨start, offset⟩ :: spansFrom (offset + 1) (offset + 1) rest := by
  rw [spansFrom.eq_def]
  exact if_pos rfl

/-- A carriage return ends a line on its own, unless a line feed follows that belongs to it. -/
theorem spansFrom_carriageReturn {rest : List UInt8} (start offset : Nat)
    (alone : rest.head? ≠ some lineFeed) :
    spansFrom start offset (carriageReturn :: rest) =
      ⟨start, offset⟩ :: spansFrom (offset + 1) (offset + 1) rest := by
  rw [spansFrom.eq_def]
  cases rest with
  | nil => simp [carriageReturn, lineFeed, spansFrom]
  | cons next more =>
    have other : next ≠ lineFeed := by simpa using alone
    simp [other, show carriageReturn ≠ lineFeed by decide]

theorem spansFrom_both (start offset : Nat) (rest : List UInt8) :
    spansFrom start offset (carriageReturn :: lineFeed :: rest) =
      ⟨start, offset⟩ :: spansFrom (offset + 2) (offset + 2) rest := by
  rw [spansFrom.eq_def]
  simp [show carriageReturn ≠ lineFeed by decide]

theorem spansFrom_encoded_return {rest : List Char} (start offset : Nat) (alone : rest.head? ≠ some '\n') :
    spansFrom start offset (('\r' :: rest).flatMap String.utf8EncodeChar) =
      ⟨start, offset⟩ :: spansFrom (offset + 1) (offset + 1) (rest.flatMap String.utf8EncodeChar) := by
  have bytes : ('\r' :: rest).flatMap String.utf8EncodeChar =
      carriageReturn :: rest.flatMap String.utf8EncodeChar := rfl
  have unfed : (rest.flatMap String.utf8EncodeChar).head? ≠ some lineFeed := by
    intro fed
    cases rest with
    | nil => cases fed
    | cons next more =>
      rw [List.flatMap_cons, List.head?_append_of_ne_nil _ String.utf8EncodeChar_ne_nil] at fed
      have same := lineFeed_mem_utf8EncodeChar.mp (List.mem_of_mem_head? fed)
      exact alone (same ▸ rfl)
  rw [bytes, spansFrom_carriageReturn _ _ unfed]

theorem spansFrom_encoded_other {c : Char} (start offset : Nat) (rest : List Char) (noFeed : c ≠ '\n')
    (noReturn : c ≠ '\r') :
    spansFrom start offset ((c :: rest).flatMap String.utf8EncodeChar) =
      spansFrom start (offset + c.utf8Size) (rest.flatMap String.utf8EncodeChar) := by
  rw [List.flatMap_cons, spansFrom_append (fun fed => noFeed (lineFeed_mem_utf8EncodeChar.mp fed))
    fun returned => noReturn (carriageReturn_mem_utf8EncodeChar.mp returned), String.length_utf8EncodeChar]

theorem Span.text_line (done line rest : List Char) :
    Span.text (String.ofList (done ++ line ++ rest)) ⟨String.utf8Len done, String.utf8Len (done ++ line)⟩ =
      String.ofList line := by
  rw [Span.text, String.utf8Len_append]
  exact String.extract_of_valid done line rest

/-- Behind the terminator of a line the scan begins afresh. -/
theorem map_text_ended {rest : List Char} {size : Nat} {bytes : List UInt8} {lines : List (List Char)}
    (ending done line : List Char) (length : String.utf8Len ending = size)
    (later : ∀ done, (spansFrom (String.utf8Len done) (String.utf8Len (done ++ [])) bytes).map
      (Span.text (String.ofList (done ++ [] ++ rest))) = lines.map String.ofList) :
    (⟨String.utf8Len done, String.utf8Len (done ++ line)⟩ ::
        spansFrom (String.utf8Len (done ++ line) + size) (String.utf8Len (done ++ line) + size) bytes).map
          (Span.text (String.ofList (done ++ line ++ (ending ++ rest)))) =
      (line :: lines).map String.ofList := by
  have next := later (done ++ line ++ ending)
  rw [List.append_nil, String.utf8Len_append (done ++ line), length, List.append_assoc (done ++ line)] at next
  rw [List.map_cons, Span.text_line, next, List.map_cons]

theorem spansFrom_eq_splitFrom (done line rest : List Char) :
    (spansFrom (String.utf8Len done) (String.utf8Len (done ++ line))
        (rest.flatMap String.utf8EncodeChar)).map (Span.text (String.ofList (done ++ line ++ rest))) =
      (splitFrom line rest).map String.ofList := by
  fun_induction splitFrom line rest generalizing done with
  | case1 line empty => simp [List.isEmpty_iff.mp empty, spansFrom]
  | case2 line full =>
    have some : 0 < String.utf8Len line := Nat.pos_of_ne_zero (by simpa using full)
    have begun : String.utf8Len done < String.utf8Len (done ++ line) := by
      rw [String.utf8Len_append]
      omega
    rw [List.flatMap_nil, spansFrom, if_pos begun, List.map_singleton, Span.text_line, List.map_singleton]
  | case3 line rest ih =>
    have bytes : ('\n' :: rest).flatMap String.utf8EncodeChar = lineFeed :: rest.flatMap String.utf8EncodeChar := rfl
    rw [bytes, spansFrom_lineFeed]
    exact map_text_ended ['\n'] done line rfl ih
  | case4 line rest ih =>
    have bytes : ('\r' :: '\n' :: rest).flatMap String.utf8EncodeChar =
        carriageReturn :: lineFeed :: rest.flatMap String.utf8EncodeChar := rfl
    rw [bytes, spansFrom_both]
    exact map_text_ended ['\r', '\n'] done line rfl ih
  | case5 line rest alone ih =>
    rw [spansFrom_encoded_return _ _ (head?_ne_of_alone alone)]
    exact map_text_ended ['\r'] done line rfl ih
  | case6 line c rest noFeed _ noReturn ih =>
    have next := ih done
    rw [← List.append_assoc done line, String.utf8Len_append (done ++ line),
      List.append_assoc (done ++ line)] at next
    rw [spansFrom_encoded_other _ _ _ noFeed noReturn]
    simpa using next

/-- Although the scan goes over bytes, it splits a source between characters. -/
theorem lines_eq_splitFrom (source : String) :
    lines source = (splitFrom [] source.toList).map String.ofList := by
  have scanned := spansFrom_eq_splitFrom [] [] source.toList
  rw [← toUTF8_eq_flatMap] at scanned
  simpa [lines, lineSpans] using scanned

theorem splitFrom_append {text : List Char} (oneLine : ∀ c ∈ text, c ≠ '\n' ∧ c ≠ '\r') (line rest : List Char) :
    splitFrom line (text ++ rest) = splitFrom (line ++ text) rest := by
  induction text generalizing line with
  | nil => simp
  | cons c text ih =>
    obtain ⟨noFeed, noReturn⟩ := oneLine c List.mem_cons_self
    rw [List.cons_append, splitFrom, ih fun other member => oneLine other (List.mem_cons_of_mem c member)]
    · simp
    · exact noFeed
    · exact fun _ same => absurd same noReturn
    · exact noReturn

/-- Lines that are each ended by a line feed are found again. -/
theorem lines_terminated {texts : List String} (oneLine : ∀ text ∈ texts, IsOneLine text) :
    lines (String.join (texts.map (· ++ "\n"))) = texts := by
  rw [lines_eq_splitFrom]
  induction texts with
  | nil => rfl
  | cons text rest ih =>
    have joined : (String.join ((text :: rest).map (· ++ "\n"))).toList =
        text.toList ++ '\n' :: (String.join (rest.map (· ++ "\n"))).toList := by
      simp
    rw [joined, splitFrom_append (oneLine text List.mem_cons_self), List.nil_append, splitFrom, List.map_cons,
      String.ofList_toList, ih fun other member => oneLine other (List.mem_cons_of_mem text member)]

end StoryScript.Source

import Mathlib.Data.List.DropRight
import StoryScript.Text.Padding

namespace StoryScript.Text

/-- Nothing but padding. -/
def IsBlank (text : List Char) : Prop :=
  ∀ c ∈ text, isPadding c = true

theorem IsBlank.append {front back : List Char} (first : IsBlank front) (second : IsBlank back) :
    IsBlank (front ++ back) := fun c member =>
  (List.mem_append.mp member).elim (first c) (second c)

theorem IsBlank.not_mem {text : List Char} {c : Char} (blank : IsBlank text) (solid : isPadding c = false) : c ∉ text :=
  fun member => by simp [blank c member] at solid

theorem IsBlank.dropWhile {text : List Char} (blank : IsBlank text) : text.dropWhile isPadding = [] :=
  List.dropWhile_eq_nil_iff.mpr blank

theorem dropWhile_append {front : List Char} (blank : IsBlank front) (text : List Char) :
    (front ++ text).dropWhile isPadding = text.dropWhile isPadding := by
  rw [List.dropWhile_append, blank.dropWhile]
  rfl

theorem trimChars_append_left {front : List Char} (blank : IsBlank front) (text : List Char) :
    trimChars (front ++ text) = trimChars text := by
  rw [trimChars, dropWhile_append blank, trimChars]

theorem trimChars_append_right {back : List Char} (text : List Char) (blank : IsBlank back) :
    trimChars (text ++ back) = trimChars text := by
  have reversed : back.reverse.dropWhile isPadding = [] :=
    IsBlank.dropWhile fun c member => blank c (List.mem_reverse.mp member)
  rw [trimChars, trimChars, List.dropWhile_append]
  cases text.dropWhile isPadding with
  | nil => simp [blank.dropWhile]
  | cons c rest =>
    simp only [List.isEmpty_cons, Bool.false_eq_true, if_false, List.reverse_append, List.dropWhile_append, reversed,
      List.isEmpty_nil, if_true]

theorem trimChars_padded {front back : List Char} (first : IsBlank front) (text : List Char) (last : IsBlank back) :
    trimChars (front ++ text ++ back) = trimChars text := by
  rw [trimChars_append_right _ last, trimChars_append_left first]

/-- Only padding is dropped. -/
theorem exists_padding (text : List Char) :
    ∃ front back, text = front ++ (trimChars text ++ back) ∧ IsBlank front ∧ IsBlank back := by
  refine ⟨text.takeWhile isPadding, (text.dropWhile isPadding).rtakeWhile isPadding, ?_, ?_, ?_⟩
  · change _ = _ ++ ((text.dropWhile isPadding).rdropWhile isPadding ++ _)
    rw [List.rdropWhile_append_rtakeWhile, List.takeWhile_append_dropWhile]
  · exact fun c member => List.all_eq_true.mp List.all_takeWhile c member
  · exact fun c member => List.mem_rtakeWhile_imp member

theorem trimChars_subset (text : List Char) : trimChars text ⊆ text := by
  obtain ⟨front, back, shape, _, _⟩ := exists_padding text
  intro c member
  rw [shape]
  exact List.mem_append_right _ (List.mem_append_left _ member)

theorem trimChars_eq_nil_iff {text : List Char} : trimChars text = [] ↔ IsBlank text := by
  constructor
  · intro nothing
    obtain ⟨front, back, shape, first, last⟩ := exists_padding text
    rw [shape, nothing]
    exact first.append last
  · exact trimChars_of_all_padding

theorem trimChars_trimChars (text : List Char) : trimChars (trimChars text) = trimChars text := by
  obtain ⟨front, back, shape, first, last⟩ := exists_padding text
  have same := trimChars_padded first (trimChars text) last
  rw [List.append_assoc, ← shape] at same
  exact same.symm

/-- A character that is not padding keeps apart what is dropped before it and behind it. -/
theorem trimChars_around {sep : Char} (solid : isPadding sep = false) (front back : List Char) :
    trimChars (front ++ sep :: back) = front.dropWhile isPadding ++ sep :: back.rdropWhile isPadding := by
  have first : (front ++ sep :: back).dropWhile isPadding = front.dropWhile isPadding ++ sep :: back := by
    rw [List.dropWhile_append]
    split <;> simp_all
  have last (text : List Char) : (text ++ sep :: back).rdropWhile isPadding = text ++ sep :: back.rdropWhile isPadding := by
    rw [List.rdropWhile, List.rdropWhile, List.reverse_append, List.reverse_cons, List.append_assoc,
      List.dropWhile_append]
    split <;> simp_all
  change ((front ++ sep :: back).dropWhile isPadding).rdropWhile isPadding = _
  rw [first, last]

theorem head?_trimChars {text : List Char} {c : Char} (solid : isPadding c = false) (first : text.head? = some c) :
    (trimChars text).head? = some c := by
  cases text with
  | nil => cases first
  | cons d rest =>
    cases first
    have kept := trimChars_around solid [] rest
    rw [List.nil_append] at kept
    rw [kept]
    rfl

theorem trimChars_dropWhile (text : List Char) : trimChars (text.dropWhile isPadding) = trimChars text := by
  have blank : IsBlank (text.takeWhile isPadding) := fun c member => List.all_eq_true.mp List.all_takeWhile c member
  rw [← trimChars_append_left blank, List.takeWhile_append_dropWhile]

theorem trimChars_rdropWhile (text : List Char) : trimChars (text.rdropWhile isPadding) = trimChars text := by
  have blank : IsBlank (text.rtakeWhile isPadding) := fun c member => List.mem_rtakeWhile_imp member
  rw [← trimChars_append_right _ blank, List.rdropWhile_append_rtakeWhile]

/-- What is trimmed already neither begins nor ends with padding. -/
theorem of_trimChars_eq_self {text : List Char} (trimmed : trimChars text = text) :
    text.dropWhile isPadding = text ∧ text.rdropWhile isPadding = text := by
  have shorter := (List.rdropWhile_prefix isPadding (l := text.dropWhile isPadding)).length_le
  change (text.dropWhile isPadding).rdropWhile isPadding = text at trimmed
  rw [trimmed] at shorter
  have kept : text.dropWhile isPadding = text := (List.dropWhile_suffix _).eq_of_length_le shorter
  exact ⟨kept, by rwa [kept] at trimmed⟩

theorem trimChars_joined (sep : Char) {front back : List Char} (solid : isPadding sep = false)
    (first : trimChars front = front) (second : trimChars back = back) :
    trimChars (front ++ sep :: back) = front ++ sep :: back := by
  rw [trimChars_around solid, (of_trimChars_eq_self first).1, (of_trimChars_eq_self second).2]

theorem trim_eq_self_iff {text : String} : trim text = text ↔ trimChars text.toList = text.toList := by
  rw [← String.toList_inj, trim_toList]

/-- A text that may stand around another and is dropped. -/
def IsPadding (text : String) : Prop :=
  IsBlank text.toList

instance : DecidablePred IsPadding := fun text =>
  decidable_of_iff (text.toList.all isPadding = true) List.all_eq_true

theorem IsPadding.append {front back : String} (first : IsPadding front) (last : IsPadding back) :
    IsPadding (front ++ back) := by
  rw [IsPadding, String.toList_append]
  exact IsBlank.append first last

theorem trim_padded {front text back : String} (first : IsPadding front) (last : IsPadding back)
    (trimmed : trim text = text) : trim (front ++ text ++ back) = text := by
  rw [← String.toList_inj, trim_toList, String.toList_append, String.toList_append, trimChars_padded first _ last,
    trim_eq_self_iff.mp trimmed]

theorem trim_trim (text : String) : trim (trim text) = trim text := by
  rw [trim_eq_self_iff, trim_toList, trimChars_trimChars]

theorem not_mem_trim {text : String} {c : Char} (free : c ∉ text.toList) : c ∉ (trim text).toList := by
  rw [trim_toList]
  exact fun member => free (trimChars_subset _ member)

/-- Only padding is dropped from around a text. -/
theorem eq_padded (text : String) : ∃ front back, IsPadding front ∧ IsPadding back ∧ text = front ++ trim text ++ back := by
  obtain ⟨front, back, shape, first, last⟩ := exists_padding text.toList
  refine ⟨String.ofList front, String.ofList back, by simpa [IsPadding] using first, by simpa [IsPadding] using last, ?_⟩
  rw [← String.toList_inj]
  simpa using shape

end StoryScript.Text

namespace StoryScript.Text

/-- Cuts at the first `sep`: what stands before it and what follows it. Without a `sep` there
is no cut. -/
def cutAt? (sep : Char) (text : List Char) : Option (List Char × List Char) :=
  match text.dropWhile (· != sep) with
  | [] => none
  | _ :: after => some (text.takeWhile (· != sep), after)

/-- Cuts at the first `sep`; the whole text comes before a `sep` that is missing. -/
def cutAt (sep : Char) (text : List Char) : List Char × List Char :=
  (cutAt? sep text).getD (text, [])

theorem cutAt?_cons_of_ne {sep c : Char} (other : c ≠ sep) (rest : List Char) :
    cutAt? sep (c :: rest) = (cutAt? sep rest).map fun cut => (c :: cut.1, cut.2) := by
  have kept : (c != sep) = true := by simpa using other
  rw [cutAt?, cutAt?, List.dropWhile_cons, List.takeWhile_cons, if_pos kept, if_pos kept]
  split <;> rfl

@[simp] theorem cutAt?_cons_self (sep : Char) (rest : List Char) :
    cutAt? sep (sep :: rest) = some ([], rest) := by
  simp [cutAt?]

/-- The cut is the one place where the separator follows a part that is free of it. -/
theorem cutAt?_eq_some_iff {sep : Char} {text before after : List Char} :
    cutAt? sep text = some (before, after) ↔ text = before ++ sep :: after ∧ sep ∉ before := by
  induction text generalizing before with
  | nil => simp [cutAt?]
  | cons c rest ih =>
    by_cases same : c = sep
    · subst c
      rw [cutAt?_cons_self]
      cases before with
      | nil => simp
      | cons d more => simp; intro head _ absent; exact absurd head absent
    · rw [cutAt?_cons_of_ne same]
      cases before with
      | nil => simp [same]
      | cons d more =>
        simp only [Option.map_eq_some_iff, Prod.mk.injEq, List.cons.injEq, Prod.exists,
          List.cons_append, List.mem_cons, not_or]
        constructor
        · rintro ⟨_, _, cut, ⟨rfl, rfl⟩, rfl⟩
          obtain ⟨shape, free⟩ := ih.mp cut
          exact ⟨⟨rfl, shape⟩, Ne.symm same, free⟩
        · rintro ⟨⟨rfl, shape⟩, _, free⟩
          exact ⟨more, after, ih.mpr ⟨shape, free⟩, ⟨rfl, rfl⟩, rfl⟩

/-- There is no cut exactly where the separator does not occur. -/
theorem cutAt?_eq_none_iff {sep : Char} {text : List Char} :
    cutAt? sep text = none ↔ sep ∉ text := by
  induction text with
  | nil => simp [cutAt?]
  | cons c rest ih =>
    by_cases same : c = sep
    · subst c; simp
    · simp [cutAt?_cons_of_ne same, ih, Ne.symm same]

theorem cutAt_append {sep : Char} {before : List Char} (free : sep ∉ before) (after : List Char) :
    cutAt sep (before ++ sep :: after) = (before, after) := by
  rw [cutAt, cutAt?_eq_some_iff.mpr ⟨rfl, free⟩, Option.getD_some]

theorem cutAt_of_free {sep : Char} {text : List Char} (free : sep ∉ text) : cutAt sep text = (text, []) := by
  rw [cutAt, cutAt?_eq_none_iff.mpr free, Option.getD_none]

end StoryScript.Text

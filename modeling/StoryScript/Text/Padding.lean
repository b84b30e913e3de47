namespace StoryScript.Text

/-- Padding is the space and every control character below it. Wider spaces such as
U+00A0 are content. -/
def isPadding (c : Char) : Bool :=
  c ≤ ' '

/-- Drops the padding at both ends. -/
def trimChars (text : List Char) : List Char :=
  ((text.dropWhile isPadding).reverse.dropWhile isPadding).reverse

def trim (text : String) : String :=
  String.ofList (trimChars text.toList)

@[simp] theorem trimChars_nil : trimChars [] = [] := rfl

@[simp] theorem trim_toList (text : String) : (trim text).toList = trimChars text.toList :=
  String.toList_ofList

/-- Text of nothing but padding trims to nothing. -/
theorem trimChars_of_all_padding {text : List Char} (padded : ∀ c ∈ text, isPadding c) :
    trimChars text = [] := by
  have front : text.dropWhile isPadding = [] := by
    induction text with
    | nil => rfl
    | cons c rest ih =>
      rw [List.dropWhile_cons_of_pos (padded c List.mem_cons_self)]
      exact ih fun d member => padded d (List.mem_cons_of_mem c member)
  simp [trimChars, front]

end StoryScript.Text

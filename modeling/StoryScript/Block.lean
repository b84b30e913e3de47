import StoryScript.Line

namespace StoryScript

/-- Lines that are compiled together: the one that decides how, and those it claims after
itself. -/
structure Block where
  lead : Line
  more : List Line
deriving DecidableEq, Repr

namespace Block

/-- The lines a leading line claims. A header claims everything up to the next header, choices and
code claim their whole run, narrative skips a gap and then claims one paragraph, and a command
stands alone. -/
def claimed (lead : Line) (rest : List Line) : List Line :=
  match lead.kind with
  | .header => rest.takeWhile (·.kind != .header)
  | .choice => rest.takeWhile (·.kind == .choice)
  | .code => rest.takeWhile (·.kind == .code)
  | .narrative =>
    if lead.isBlank then
      rest.takeWhile Line.isGap ++ (rest.dropWhile Line.isGap).takeWhile Line.isTold
    else rest.takeWhile Line.isTold
  | .command | .comment => []

theorem isPrefix_claimed (lead : Line) (rest : List Line) : claimed lead rest <+: rest := by
  unfold claimed
  split
  · exact List.takeWhile_prefix _
  · exact List.takeWhile_prefix _
  · exact List.takeWhile_prefix _
  · split
    · have paragraph := List.takeWhile_prefix (l := rest.dropWhile Line.isGap) Line.isTold
      simpa only [List.takeWhile_append_dropWhile] using
        (List.prefix_append_right_inj (rest.takeWhile Line.isGap)).mpr paragraph
    · exact List.takeWhile_prefix _
  · exact List.nil_prefix
  · exact List.nil_prefix

def cut (lead : Line) (rest : List Line) : Block × List Line :=
  let more := claimed lead rest
  ({ lead, more }, rest.drop more.length)

def lines (block : Block) : List Line :=
  block.lead :: block.more

/-- Cutting loses and reorders nothing. -/
theorem cut_lines (lead : Line) (rest : List Line) :
    (cut lead rest).1.lines ++ (cut lead rest).2 = lead :: rest := by
  obtain ⟨left, split⟩ := isPrefix_claimed lead rest
  have after : rest.drop (claimed lead rest).length = left := by
    conv => lhs; arg 2; rw [← split]
    exact List.drop_left
  simp only [cut, lines, List.cons_append, after, split]

theorem cut_rest_length (lead : Line) (rest : List Line) :
    (cut lead rest).2.length < (lead :: rest).length := by
  simp only [cut, List.length_drop, List.length_cons]
  omega

/-- The blocks of a list of lines, cut from the front. -/
def ofLines : List Line → List Block
  | [] => []
  | lead :: rest => (cut lead rest).1 :: ofLines (cut lead rest).2
termination_by lines => lines.length
decreasing_by exact cut_rest_length lead rest

@[simp] theorem ofLines_nil : ofLines [] = [] := by
  rw [ofLines]

theorem ofLines_cons (lead : Line) (rest : List Line) :
    ofLines (lead :: rest) = (cut lead rest).1 :: ofLines (cut lead rest).2 := by
  rw [ofLines]

end Block

end StoryScript

import Mathlib.Data.List.SplitBy
import StoryScript.Log
import StoryScript.Proofs.BlockCuts

namespace StoryScript

/-- Whether a line begins something new right behind `previous`. -/
def Line.leadsAfter (line previous : Line) : Bool :=
  line.kind == .header || line.kind == .command || line.kind != previous.kind ||
    (previous.isTold && line.isGap)

/-- Whether a line begins something new behind all of `before`. The first line always does. -/
def Line.leads (before : List Line) (line : Line) : Bool :=
  before.getLast?.all line.leadsAfter

/-- Where a line is met: inside a node, once there was a header, unless it is a header itself. -/
def Level.behind (before : List Line) (line : Line) : Level :=
  if line.kind = .header ∨ ∀ earlier ∈ before, earlier.kind ≠ .header then .topLevel else .inNode

namespace Story

/-- The announcement of the line at a place, if it leads there. -/
def announcement? (lines : List Line) (place : Nat) : Option Log.Event := do
  let line ← lines[place]?
  if line.leads (lines.take place) then
    some (.dispatching line.number line.kind (.behind (lines.take place) line))
  else none

/-- What is announced of a story, place by place. -/
def announcements (lines : List Line) : List Log.Event :=
  (List.range lines.length).filterMap (announcement? lines)

/-- The stretches of a story from each line that leads up to the next. -/
def segments (lines : List Line) : List (List Line) :=
  lines.splitBy fun previous line => !line.leadsAfter previous

end Story

/-- A stretch of lines of which only the first can lead. -/
def Coherent (lines : List Line) : Prop :=
  lines.IsChain fun previous line => line.leadsAfter previous = false

namespace Line

variable {previous line : Line}

theorem leadsAfter_of_kind_ne (other : line.kind ≠ previous.kind) : line.leadsAfter previous = true := by
  simp [leadsAfter, other]

theorem leadsAfter_eq_false (same : line.kind = previous.kind) (headless : line.kind ≠ .header)
    (uncommanded : line.kind ≠ .command) (unbroken : previous.isTold = false ∨ line.isGap = false) :
    line.leadsAfter previous = false := by
  simp only [leadsAfter, Bool.or_eq_false_iff, Bool.and_eq_false_iff, beq_eq_false_iff_ne, bne_eq_false_iff_eq]
  exact ⟨⟨⟨headless, uncommanded⟩, same⟩, unbroken⟩

theorem leadsAfter_header (kind : previous.kind = .header) : line.leadsAfter previous = true := by
  by_cases same : line.kind = .header
  · simp [leadsAfter, same]
  · exact leadsAfter_of_kind_ne (by rwa [kind])

theorem isGap_eq_not_isTold (kind : line.kind = .narrative) : line.isGap = !line.isTold := by
  simp [isGap, isTold, kind]

theorem leads_append {front back : List Line} {last : Line} (atLast : back.getLast? = some last)
    (leads : line.leadsAfter last = true) : line.leads (front ++ back) = true := by
  rw [Line.leads, List.getLast?_append, atLast]
  exact leads

end Line

namespace Block

theorem coherent_of_kind {lines : List Line} {kind : Line.Kind} (same : ∀ line ∈ lines, line.kind = kind)
    (headless : kind ≠ .header) (uncommanded : kind ≠ .command)
    (unbroken : lines.Pairwise fun previous line => previous.isTold = false ∨ line.isGap = false) :
    Coherent lines := by
  refine List.Pairwise.isChain (unbroken.imp_of_mem fun {previous line} first second steady => ?_)
  exact Line.leadsAfter_eq_false ((same line second).trans (same previous first).symm)
    (same line second ▸ headless) (same line second ▸ uncommanded) steady

/-- Behind the lead of a block that is no node nothing leads before the block ends. -/
theorem coherent_cut {lead : Line} (rest : List Line) (plain : lead.kind ≠ .header) :
    Coherent (cut lead rest).1.lines := by
  have same : ∀ line ∈ (cut lead rest).1.lines, line.kind = lead.kind := fun _ => kind_of_mem_cut plain
  have untold (unnarrated : lead.kind ≠ .narrative) :
      (cut lead rest).1.lines.Pairwise fun previous line => previous.isTold = false ∨ line.isGap = false := by
    refine List.pairwise_of_forall_mem_list fun previous first _ _ => Or.inl ?_
    simp [Line.isTold, same previous first, unnarrated]
  cases kind : lead.kind with
  | header => exact absurd kind plain
  | choice | code =>
    exact coherent_of_kind same (by simp [kind]) (by simp [kind]) (untold (by simp [kind]))
  | narrative =>
    obtain ⟨gaps, told, shape, empty, full, _⟩ := cut_narrative rest kind
    refine coherent_of_kind same (by simp [kind]) (by simp [kind]) ?_
    have narrative : ∀ line ∈ gaps ++ told, line.kind = .narrative := fun line member =>
      (same line (shape ▸ member)).trans kind
    have early : ∀ previous ∈ gaps, previous.isTold = false := fun previous member => by
      have gap := empty previous member
      rw [Line.isGap_eq_not_isTold (narrative previous (List.mem_append_left _ member))] at gap
      simpa using gap
    have late : ∀ line ∈ told, line.isGap = false := fun line member => by
      rw [Line.isGap_eq_not_isTold (narrative line (List.mem_append_right _ member)), full line member]
      rfl
    rw [shape, List.pairwise_append]
    refine ⟨?_, ?_, fun previous first _ _ => Or.inl (early previous first)⟩
    · exact List.pairwise_of_forall_mem_list fun previous first _ _ => Or.inl (early previous first)
    · exact List.pairwise_of_forall_mem_list fun _ _ line second => Or.inr (late line second)
  | command | comment =>
    have alone : (cut lead rest).1.lines = [lead] := by simp [cut, lines, claimed, kind]
    rw [alone]
    exact List.isChain_singleton lead

/-- Where a block ends, the next line leads. -/
theorem leadsAfter_cut {lead : Line} (rest : List Line) (plain : lead.kind ≠ .header) (proper : lead.kind ≠ .comment) :
    ∀ last ∈ (cut lead rest).1.lines.getLast?, ∀ next ∈ (cut lead rest).2.head?, next.leadsAfter last = true := by
  intro last atLast next atNext
  have kindOfLast := kind_of_mem_cut plain (List.mem_of_getLast? atLast)
  cases kind : lead.kind with
  | header => exact absurd kind plain
  | choice =>
    rw [cut_choice rest kind] at atNext
    have stopped := not_of_mem_head?_dropWhile atNext
    exact Line.leadsAfter_of_kind_ne (by simpa [kindOfLast, kind] using stopped)
  | code =>
    rw [cut_code rest kind] at atNext
    have stopped := not_of_mem_head?_dropWhile atNext
    exact Line.leadsAfter_of_kind_ne (by simpa [kindOfLast, kind] using stopped)
  | narrative =>
    obtain ⟨gaps, told, shape, empty, full, stopped⟩ := cut_narrative rest kind
    by_cases same : next.kind = last.kind
    · obtain ⟨untold, gapless⟩ := stopped next atNext
      have gap : next.isGap = true := by
        rw [Line.isGap_eq_not_isTold (same.trans (kindOfLast.trans kind)), untold]
        rfl
      -- The next line is a gap, so the block ends with a paragraph.
      have ended : told ≠ [] := fun none => by
        rw [gapless none] at gap
        cases gap
      have paragraph : last ∈ told := by
        rw [shape, List.getLast?_append_of_ne_nil _ ended] at atLast
        exact List.mem_of_getLast? atLast
      simp [Line.leadsAfter, full last paragraph, gap]
    · exact Line.leadsAfter_of_kind_ne same
  | command =>
    by_cases same : next.kind = .command
    · simp [Line.leadsAfter, same]
    · exact Line.leadsAfter_of_kind_ne (by rwa [kindOfLast, kind])
  | comment => exact absurd kind proper

end Block

namespace Story

theorem announcement?_append {front : List Line} (back : List Line) {place : Nat} (inside : place < front.length) :
    announcement? (front ++ back) place = announcement? front place := by
  rw [announcement?, announcement?, List.getElem?_append_left inside, List.take_append_of_le_length inside.le]

theorem announcements_concat (lines : List Line) (line : Line) :
    announcements (lines ++ [line]) = announcements lines ++ (announcement? (lines ++ [line]) lines.length).toList := by
  have early : (List.range lines.length).filterMap (announcement? (lines ++ [line])) = announcements lines :=
    List.filterMap_congr fun place member => announcement?_append [line] (List.mem_range.mp member)
  rw [announcements, List.length_append, List.length_singleton, List.range_succ, List.filterMap_append, early]
  cases announced : announcement? (lines ++ [line]) lines.length <;> simp [announced]

theorem announcement?_concat (lines : List Line) (line : Line) :
    announcement? (lines ++ [line]) lines.length =
      if line.leads lines then some (.dispatching line.number line.kind (.behind lines line)) else none := by
  simp [announcement?]

/-- Of coherent lines that follow on, none is announced. -/
theorem announcements_coherent {front more : List Line} {last : Line} (atLast : front.getLast? = some last)
    (coherent : Coherent (last :: more)) : announcements (front ++ more) = announcements front := by
  induction more generalizing front last with
  | nil => rw [List.append_nil]
  | cons next more ih =>
    obtain ⟨silent, later⟩ := List.isChain_cons_cons.mp coherent
    have unled : next.leads front = false := by
      rw [Line.leads, atLast]
      exact silent
    rw [List.append_cons, ih List.getLast?_concat later, announcements_concat, announcement?_concat, unled]
    simp

/-- Of a segment its lead alone is announced. -/
theorem announcements_segment {done more : List Line} {lead : Line} (leads : lead.leads done = true)
    (coherent : Coherent (lead :: more)) :
    announcements (done ++ lead :: more) =
      announcements done ++ [.dispatching lead.number lead.kind (.behind done lead)] := by
  rw [List.append_cons, announcements_coherent List.getLast?_concat coherent, announcements_concat,
    announcement?_concat, if_pos leads]
  rfl

theorem flatten_segments (lines : List Line) : (segments lines).flatten = lines :=
  List.flatten_splitBy _ lines

theorem segments_append {done segment : List Line} (coherent : Coherent segment) (full : segment ≠ [])
    (leads : ∀ lead ∈ segment.head?, lead.leads done = true) :
    segments (done ++ segment) = segments done ++ [segment] := by
  have whole : segments segment = [segment] := by
    refine List.splitBy_of_isChain full (coherent.imp fun previous line silent => ?_)
    rw [silent]
    rfl
  rw [← whole]
  refine List.splitBy_append fun last atLast lead begins => ?_
  have behind := leads lead begins
  rw [Line.leads, Option.mem_def.mp atLast] at behind
  simpa using behind

end Story

end StoryScript

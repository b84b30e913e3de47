import Mathlib.Data.List.TakeWhile
import StoryScript.Block
import StoryScript.Proofs.Transcript

namespace StoryScript

theorem drop_takeWhile_length {α : Type} (p : α → Bool) (items : List α) :
    items.drop (items.takeWhile p).length = items.dropWhile p := by
  have cut : (items.takeWhile p ++ items.dropWhile p).drop (items.takeWhile p).length = items.dropWhile p :=
    List.drop_left
  rwa [List.takeWhile_append_dropWhile] at cut

/-- A run ends where the next item is not of its kind. -/
theorem not_of_mem_head?_dropWhile {α : Type} {p : α → Bool} {items : List α} {next : α}
    (member : next ∈ (items.dropWhile p).head?) : p next = false := by
  have stopped := List.head?_dropWhile_not p items
  rw [Option.mem_def.mp member] at stopped
  exact stopped

/-- A run that stops where more items are put behind does not notice them. -/
theorem takeWhile_append_of_stop {α : Type} {p : α → Bool} {back : List α} (front : List α)
    (stop : ∀ next ∈ back.head?, p next = false) : (front ++ back).takeWhile p = front.takeWhile p := by
  induction front with
  | nil =>
    cases back with
    | nil => rfl
    | cons next rest => simp [stop next rfl]
  | cons item front ih => rw [List.cons_append, List.takeWhile_cons, List.takeWhile_cons, ih]

theorem dropWhile_append_of_stop {α : Type} {p : α → Bool} {back : List α} (front : List α)
    (stop : ∀ next ∈ back.head?, p next = false) : (front ++ back).dropWhile p = front.dropWhile p ++ back := by
  induction front with
  | nil =>
    cases back with
    | nil => rfl
    | cons next rest => simp [stop next rfl]
  | cons item front ih =>
    rw [List.cons_append, List.dropWhile_cons, List.dropWhile_cons, ih]
    split <;> rfl

section AtHeader

variable {inner outer : List Line} (plain : ∀ line ∈ inner, line.kind ≠ .header)
  (headed : ∀ line ∈ outer.head?, line.kind = .header)

include plain headed

theorem takeWhile_to_header : (inner ++ outer).takeWhile (·.kind != .header) = inner := by
  have kept : ∀ line ∈ inner, (line.kind != .header) = true := fun line member => bne_iff_ne.mpr (plain line member)
  have stop : ∀ line ∈ outer.head?, (line.kind != .header) = false := fun line begins => by simp [headed line begins]
  rw [takeWhile_append_of_stop inner stop, List.takeWhile_eq_self_iff.mpr kept]

theorem dropWhile_to_header : (inner ++ outer).dropWhile (·.kind != .header) = outer := by
  have whole := List.takeWhile_append_dropWhile (p := (·.kind != Line.Kind.header)) (l := inner ++ outer)
  rw [takeWhile_to_header plain headed] at whole
  exact List.append_cancel_left whole

end AtHeader

/-- Lines fall apart at the first header among them. -/
theorem exists_append_at_header (lines : List Line) : ∃ inner outer, lines = inner ++ outer ∧
    (∀ line ∈ inner, line.kind ≠ .header) ∧ ∀ line ∈ outer.head?, line.kind = .header := by
  refine ⟨lines.takeWhile (·.kind != .header), lines.dropWhile (·.kind != .header),
    List.takeWhile_append_dropWhile.symm, fun line member => ?_, fun line begins => ?_⟩
  · simpa using List.all_eq_true.mp List.all_takeWhile line member
  · simpa using not_of_mem_head?_dropWhile begins

namespace Block

theorem cut_of_run {lead : Line} {rest : List Line} {p : Line → Bool}
    (run : claimed lead rest = rest.takeWhile p) :
    cut lead rest = (⟨lead, rest.takeWhile p⟩, rest.dropWhile p) := by
  simp only [cut, run, drop_takeWhile_length]

theorem cut_header {lead : Line} (rest : List Line) (kind : lead.kind = .header) :
    cut lead rest = (⟨lead, rest.takeWhile (·.kind != .header)⟩, rest.dropWhile (·.kind != .header)) :=
  cut_of_run (by simp only [claimed, kind])

/-- Behind the block of a header the next header follows, or nothing. -/
theorem cut_headed {lead : Line} (rest : List Line) (kind : lead.kind = .header) :
    ∀ line ∈ (cut lead rest).2.head?, line.kind = .header := by
  intro line begins
  rw [cut_header rest kind] at begins
  simpa using not_of_mem_head?_dropWhile begins

theorem cut_choice {lead : Line} (rest : List Line) (kind : lead.kind = .choice) :
    cut lead rest = (⟨lead, rest.takeWhile (·.kind == .choice)⟩, rest.dropWhile (·.kind == .choice)) :=
  cut_of_run (by simp only [claimed, kind])

theorem cut_code {lead : Line} (rest : List Line) (kind : lead.kind = .code) :
    cut lead rest = (⟨lead, rest.takeWhile (·.kind == .code)⟩, rest.dropWhile (·.kind == .code)) :=
  cut_of_run (by simp only [claimed, kind])

theorem kind_of_mem_run {lead line : Line} {rest : List Line} {kind : Line.Kind} (leads : lead.kind = kind)
    (member : line ∈ lines ⟨lead, rest.takeWhile (·.kind == kind)⟩) : line.kind = kind := by
  rcases List.mem_cons.mp member with rfl | later
  · exact leads
  · simpa using List.all_eq_true.mp List.all_takeWhile line later

/-- A block of narrative is a gap, which may be empty, and one paragraph, which may be missing. -/
theorem cut_narrative {lead : Line} (rest : List Line) (kind : lead.kind = .narrative) :
    ∃ gaps told, (cut lead rest).1.lines = gaps ++ told ∧ (∀ line ∈ gaps, line.isGap = true) ∧
      (∀ line ∈ told, line.isTold = true) ∧
      ∀ next ∈ (cut lead rest).2.head?, next.isTold = false ∧ (told = [] → next.isGap = false) := by
  by_cases empty : lead.isBlank = true
  · have claims : claimed lead rest =
        rest.takeWhile Line.isGap ++ (rest.dropWhile Line.isGap).takeWhile Line.isTold := by
      simp only [claimed, kind, empty, if_true]
    have left : rest.drop (claimed lead rest).length =
        (rest.dropWhile Line.isGap).dropWhile Line.isTold := by
      rw [claims, List.length_append, ← List.drop_drop, drop_takeWhile_length, drop_takeWhile_length]
    refine ⟨lead :: rest.takeWhile Line.isGap, (rest.dropWhile Line.isGap).takeWhile Line.isTold,
      ?_, ?_, ?_, ?_⟩
    · simp only [cut, lines, claims, List.cons_append]
    · intro line member
      rcases List.mem_cons.mp member with rfl | later
      · simp [Line.isGap, kind, empty]
      · exact List.all_eq_true.mp List.all_takeWhile line later
    · exact fun line member => List.all_eq_true.mp List.all_takeWhile line member
    · intro next member
      simp only [cut, left] at member
      refine ⟨not_of_mem_head?_dropWhile member, fun untold => ?_⟩
      have whole := List.takeWhile_append_dropWhile (p := Line.isTold) (l := rest.dropWhile Line.isGap)
      rw [untold, List.nil_append] at whole
      rw [whole] at member
      exact not_of_mem_head?_dropWhile member
  · have run : claimed lead rest = rest.takeWhile Line.isTold := by
      simp only [claimed, kind, empty, if_false, Bool.false_eq_true]
    rw [cut_of_run run]
    refine ⟨[], lead :: rest.takeWhile Line.isTold, rfl, by simp, ?_, ?_⟩
    · intro line member
      rcases List.mem_cons.mp member with rfl | later
      · simp [Line.isTold, kind, empty]
      · exact List.all_eq_true.mp List.all_takeWhile line later
    · exact fun next member => ⟨not_of_mem_head?_dropWhile member, fun none => absurd none (by simp)⟩

/-- A block that no header leads holds lines of one kind. -/
theorem kind_of_mem_cut {lead line : Line} {rest : List Line} (plain : lead.kind ≠ .header)
    (member : line ∈ (cut lead rest).1.lines) : line.kind = lead.kind := by
  cases kind : lead.kind with
  | header => exact absurd kind plain
  | choice =>
    rw [cut_choice rest kind] at member
    exact kind_of_mem_run kind member
  | code =>
    rw [cut_code rest kind] at member
    exact kind_of_mem_run kind member
  | narrative =>
    obtain ⟨gaps, told, shape, empty, full, _⟩ := cut_narrative rest kind
    rw [shape] at member
    rcases List.mem_append.mp member with gap | paragraph
    · exact (Line.isGap_iff.mp (empty line gap)).1
    · exact (Line.isTold_iff.mp (full line paragraph)).1
  | command | comment =>
    have alone : line = lead := by simpa [cut, lines, claimed, kind] using member
    rw [alone, kind]

theorem cut_plain {lead : Line} (rest : List Line) (plain : lead.kind ≠ .header) :
    ∀ line ∈ (cut lead rest).1.lines, line.kind ≠ .header := by
  intro line member
  rw [kind_of_mem_cut plain member]
  exact plain

/-- No paragraph and no menu runs on from a block into the line after it. -/
theorem cut_apart (lead : Line) (rest : List Line) :
    ∀ last ∈ (cut lead rest).1.lines.getLast?, ∀ next ∈ (cut lead rest).2.head?,
      last.joins next = false := by
  intro last atLast next atNext
  have member : last ∈ (cut lead rest).1.lines := List.mem_of_getLast? atLast
  rw [Line.joins_eq_false_iff]
  cases kind : lead.kind with
  | header =>
    rw [cut_header rest kind] at atNext
    have stopped := not_of_mem_head?_dropWhile atNext
    have headed : Pending.of next = .nothing := by
      simp only [bne_eq_false_iff_eq] at stopped
      simp [Pending.of, Line.isTold, stopped]
    rw [headed]
    exact Classical.em _
  | choice =>
    rw [cut_choice rest kind] at atNext member
    have stopped := not_of_mem_head?_dropWhile atNext
    rw [Pending.of_eq_menu_iff.mpr (kind_of_mem_run kind member)]
    refine Or.inr fun same => ?_
    simp [Pending.of_eq_menu_iff.mp same.symm] at stopped
  | code =>
    rw [cut_code rest kind] at member
    exact Or.inl (by simp [Pending.of, Line.isTold, kind_of_mem_run kind member])
  | narrative =>
    obtain ⟨gaps, told, shape, empty, full, stopped⟩ := cut_narrative rest kind
    rw [shape] at member
    rcases List.mem_append.mp member with gap | paragraph
    · exact Or.inl (Pending.of_gap (empty last gap))
    · rw [Pending.of_eq_paragraph_iff.mpr (full last paragraph)]
      refine Or.inr fun same => ?_
      have ended := (stopped next atNext).1
      rw [Pending.of_eq_paragraph_iff.mp same.symm] at ended
      exact Bool.noConfusion ended
  | command | comment =>
    have alone : last = lead := by simpa [cut, lines, claimed, kind] using member
    exact Or.inl (by simp [Pending.of, Line.isTold, alone, kind])

/-- A header ends every block, so nothing behind it changes what is claimed before it. -/
theorem claimed_append (lead : Line) (front : List Line) {back : List Line}
    (headed : ∀ next ∈ back.head?, next.kind = .header) : claimed lead (front ++ back) = claimed lead front := by
  unfold claimed
  cases lead.kind with
  | header => exact takeWhile_append_of_stop front fun next begins => by simp [headed next begins]
  | choice => exact takeWhile_append_of_stop front fun next begins => by simp [headed next begins]
  | code => exact takeWhile_append_of_stop front fun next begins => by simp [headed next begins]
  | narrative =>
    have gap : ∀ next ∈ back.head?, next.isGap = false := fun next begins => by
      simp [Line.isGap, headed next begins]
    have told : ∀ next ∈ back.head?, next.isTold = false := fun next begins => by
      simp [Line.isTold, headed next begins]
    simp only [takeWhile_append_of_stop _ gap, dropWhile_append_of_stop _ gap, takeWhile_append_of_stop _ told]
  | command => rfl
  | comment => rfl

/-- Lines that begin with a header are left untouched by the block before them. -/
theorem cut_append (lead : Line) (front : List Line) {back : List Line}
    (headed : ∀ next ∈ back.head?, next.kind = .header) :
    cut lead (front ++ back) = ((cut lead front).1, (cut lead front).2 ++ back) := by
  simp only [cut, claimed_append lead front headed,
    List.drop_append_of_le_length (isPrefix_claimed lead front).length_le]

/-- The lines that a line claims are all of what it claims of themselves. -/
theorem claimed_claimed (lead : Line) (rest : List Line) : claimed lead (claimed lead rest) = claimed lead rest := by
  unfold claimed
  cases lead.kind with
  | header | choice | code => exact List.takeWhile_idem
  | narrative =>
    dsimp only
    split
    · have told : ∀ line ∈ (rest.dropWhile Line.isGap).takeWhile Line.isTold, line.isTold = true :=
        List.all_eq_true.mp List.all_takeWhile
      have stop : ∀ next ∈ ((rest.dropWhile Line.isGap).takeWhile Line.isTold).head?, next.isGap = false :=
        fun next begins => by
          have full := (Line.isTold_iff.mp (told next (List.mem_of_head? begins))).2
          simp [Line.isGap, full]
      have emptied : (rest.takeWhile Line.isGap).dropWhile Line.isGap = [] :=
        List.dropWhile_eq_nil_iff.mpr (List.all_eq_true.mp List.all_takeWhile)
      rw [takeWhile_append_of_stop _ stop, dropWhile_append_of_stop _ stop, List.takeWhile_idem, emptied,
        List.nil_append, List.takeWhile_idem]
    · exact List.takeWhile_idem
  | command | comment => rfl

/-- In front of a header or of the end a block is cut out as it was among other lines. -/
theorem cut_before_header (lead : Line) (rest : List Line) {back : List Line}
    (headed : ∀ next ∈ back.head?, next.kind = .header) :
    cut lead ((cut lead rest).1.more ++ back) = ((cut lead rest).1, back) := by
  rw [cut_append lead _ headed]
  simp only [cut, claimed_claimed, List.drop_length, List.nil_append]

end Block

end StoryScript

import StoryScript.Proofs.Transcript

namespace StoryScript

/-- What comes of a passage of lines: its text and the scope it leaves, or the fault in it. -/
abbrev Passage := Except Fault (String × Scope)

/-- The passage that follows goes on in the scope that the first one left. -/
def Passage.andThen (first : Passage) (next : Scope → Passage) : Passage :=
  first.bind fun (text, scope) => (next scope).map fun (more, last) => (text ++ more, last)

@[simp] theorem Passage.andThen_error (fault : Fault) (next : Scope → Passage) :
    andThen (.error fault) next = .error fault := rfl

theorem Passage.andThen_ok (text : String) (scope : Scope) (next : Scope → Passage) :
    andThen (.ok (text, scope)) next = (next scope).map fun (more, last) => (text ++ more, last) := rfl

/-- Nothing comes before what follows no text. -/
theorem Passage.andThen_empty (scope : Scope) (next : Scope → Passage) :
    andThen (.ok ("", scope)) next = next scope := by
  rw [andThen_ok]
  cases next scope <;> simp [Except.map]

theorem Passage.of_andThen_eq_ok {first : Passage} {next : Scope → Passage} {text : String} {last : Scope}
    (both : first.andThen next = .ok (text, last)) :
    ∃ front scope back, first = .ok (front, scope) ∧ next scope = .ok (back, last) ∧ text = front ++ back := by
  cases first with
  | error fault => cases both
  | ok pair =>
    obtain ⟨front, scope⟩ := pair
    rw [andThen_ok] at both
    cases rest : next scope with
    | error fault => rw [rest] at both; cases both
    | ok pair =>
      obtain ⟨back, final⟩ := pair
      rw [rest] at both
      cases both
      exact ⟨front, scope, back, rfl, rest, rfl⟩

theorem Passage.enclosed (opening closing : String) (scope : Scope) (inner : Scope → Passage) :
    (andThen (.ok (opening, scope)) fun last => (inner last).andThen fun last => .ok (closing, last)) =
      (inner scope).map fun (text, last) => (opening ++ text ++ closing, last) := by
  rw [andThen_ok]
  cases inner scope with
  | error fault => rfl
  | ok pair => simp [andThen, Except.bind, Except.map, String.append_assoc]

namespace Transcript

/-- What was written, with `ending` after it, and the scope in force. -/
def close (ending : Transcript → String) (t : Transcript) : String × Scope :=
  (t.text ++ ending t, t.scope)

/-- The text of lines that stand in one node or before every node, closed at its end. -/
def passage (inNode : Bool) (scope : Scope) (lines : List Line) : Passage :=
  ((blank inNode scope).run lines).map (close (·.pending.closing))

/-- The text of the lines of a story, with its last node closed. -/
def body (scope : Scope) (lines : List Line) : Passage :=
  ((blank false scope).run lines).map (close closing)

/-- However a transcript is closed, it leaves the last scope that its lines declare. -/
theorem close_after {inNode : Bool} {scope last : Scope} {lines : List Line} {ending : Transcript → String}
    {text : String} (ran : ((blank inNode scope).run lines).map (close ending) = .ok (text, last)) :
    last = scope.after lines := by
  cases final : (blank inNode scope).run lines with
  | error fault => rw [final] at ran; cases ran
  | ok t =>
    rw [final] at ran
    cases ran
    exact (run_state final).2.2

theorem compile_eq_body (lines : List Line) :
    compile lines =
      (body .global lines).map fun (text, _) => Module.imports ++ text ++ Script.ending := by
  have start : { blank false .global with text := Module.imports } =
      (blank false .global).below Module.imports := by
    simp [below, blank]
  rw [compile, start, run_below, body]
  cases (blank false .global).run lines with
  | error fault => rfl
  | ok final => simp [Except.map, below, close, closing, String.append_assoc]

theorem inNode_of_plain {t after : Transcript} {lines : List Line} (ran : t.run lines = .ok after)
    (plain : ∀ line ∈ lines, line.kind ≠ .header) : after.inNode = t.inNode := by
  have none : lines.any (·.kind == .header) = false := by simpa using plain
  rw [(run_state ran).2.1, none, Bool.or_false]

/-- If it makes no difference to the lines that follow whether a paragraph, a menu or a node is
closed before them, they are compiled as if nothing stood before them. -/
theorem run_resumed {t settled : Transcript} {ending : Transcript → String} {lines : List Line}
    (textless : ∀ before u, ending (below before u) = ending u) (nothing : settled.pending = .nothing)
    (same : (t.run lines).map (close ending) = (settled.run lines).map (close ending)) :
    (t.run lines).map (close ending) =
      Passage.andThen (.ok (settled.text, settled.scope)) fun scope =>
        ((blank settled.inNode scope).run lines).map (close ending) := by
  rw [same, run_of_nothing_pending nothing, Passage.andThen_ok]
  cases (blank settled.inNode settled.scope).run lines with
  | error fault => rfl
  | ok u =>
    change Except.ok (settled.text ++ u.text ++ ending (below settled.text u), u.scope) = _
    rw [textless, String.append_assoc]
    rfl

theorem run_settle {t : Transcript} {lines : List Line} (ending : Transcript → String)
    (split : ending t = t.pending.closing ++ ending t.settle)
    (apart : ∀ next ∈ lines.head?, t.pending = .nothing ∨ t.pending ≠ Pending.of next) :
    (t.run lines).map (close ending) = (t.settle.run lines).map (close ending) := by
  cases lines with
  | nil => simp [Except.map, close, split, settle, String.append_assoc]
  | cons next rest => rw [run_cons, run_cons, step_settle (apart next rfl)]

theorem pending_apart {before t : Transcript} {front back : List Line} (settled : before.pending = .nothing)
    (ran : before.run front = .ok t)
    (apart : ∀ last ∈ front.getLast?, ∀ next ∈ back.head?, last.joins next = false) :
    ∀ next ∈ back.head?, t.pending = .nothing ∨ t.pending ≠ Pending.of next := by
  intro next member
  rw [(run_state ran).1]
  cases last : front.getLast? with
  | none => exact Or.inl settled
  | some line => exact Line.joins_eq_false_iff.mp (apart line last next member)

/-- Nothing is looked at beyond a passage, so passages are compiled one by one wherever no
paragraph and no menu runs on from one into the next. -/
theorem passage_append {inNode : Bool} {front back : List Line} (scope : Scope)
    (plain : ∀ line ∈ front, line.kind ≠ .header)
    (apart : ∀ last ∈ front.getLast?, ∀ next ∈ back.head?, last.joins next = false) :
    passage inNode scope (front ++ back) =
      (passage inNode scope front).andThen (passage inNode · back) := by
  unfold passage
  rw [run_append]
  cases ran : (blank inNode scope).run front with
  | error fault => rfl
  | ok t =>
    have level : t.settle.inNode = inNode := inNode_of_plain ran plain
    have same := run_settle (·.pending.closing) (by simp [settle]) (pending_apart rfl ran apart)
    have resumed := run_resumed (fun _ _ => rfl) rfl same
    rw [level] at resumed
    exact resumed

theorem body_append_of_plain {front back : List Line} (scope : Scope)
    (plain : ∀ line ∈ front, line.kind ≠ .header)
    (apart : ∀ last ∈ front.getLast?, ∀ next ∈ back.head?, last.joins next = false) :
    body scope (front ++ back) = (passage false scope front).andThen (body · back) := by
  unfold body passage
  rw [run_append]
  cases ran : (blank false scope).run front with
  | error fault => rfl
  | ok t =>
    have level : t.settle.inNode = false := inNode_of_plain ran plain
    have same := run_settle closing (closing_eq t) (pending_apart rfl ran apart)
    have resumed := run_resumed (fun _ _ => rfl) rfl same
    rw [level] at resumed
    exact resumed

/-- A header closes all that was open before it, so stories are compiled node by node. -/
theorem body_append (scope : Scope) (front : List Line) {back : List Line}
    (headed : ∀ next ∈ back.head?, next.kind = .header) :
    body scope (front ++ back) = (body scope front).andThen (body · back) := by
  unfold body
  rw [run_append]
  cases (blank false scope).run front with
  | error fault => rfl
  | ok t =>
    have same : (t.run back).map (close closing) = (t.leave.run back).map (close closing) := by
      cases back with
      | nil => simp [Except.map, close, leave, closing]
      | cons next rest => rw [run_cons, run_cons, step_leave t (headed next rfl)]
    exact run_resumed (fun _ _ => rfl) rfl same

theorem body_of_plain {lines : List Line} (scope : Scope)
    (plain : ∀ line ∈ lines, line.kind ≠ .header) : body scope lines = passage false scope lines := by
  have whole : body scope (lines ++ []) = _ := body_append_of_plain scope plain (by simp)
  have empty (last : Scope) : body last [] = .ok ("", last) := by
    simp [body, Except.map, close, blank, closing]
  rw [List.append_nil] at whole
  rw [whole]
  cases passage false scope lines with
  | error fault => rfl
  | ok result =>
    obtain ⟨text, last⟩ := result
    simp [Passage.andThen_ok, empty, Except.map]

theorem body_node {header : Line} {lines : List Line} (scope : Scope) (kind : header.kind = .header)
    (plain : ∀ line ∈ lines, line.kind ≠ .header) :
    body scope (header :: lines) = (passage true scope lines).map fun (text, last) =>
      (Script.opener scope header.content header.nodeId ++ text ++ Script.closer, last) := by
  have undeclared : header.declaredScope? = none := by simp [Line.declaredScope?, kind]
  have opened : (blank false scope).step header =
      .ok ((blank true scope).below (Script.opener scope header.content header.nodeId)) := by
    simp [step, addition, kind, undeclared, blank, closing, below, Pending.of, Line.isTold, Except.map]
  unfold body passage
  rw [run_cons, opened]
  change (run _ lines).map _ = _
  rw [run_below]
  cases ran : (blank true scope).run lines with
  | error fault => rfl
  | ok t =>
    have inside : t.inNode = true := inNode_of_plain ran plain
    simp [Except.map, close, below, closing, inside, String.append_assoc]

end Transcript

end StoryScript

import StoryScript.Failure
import StoryScript.Proofs.Script

namespace StoryScript

theorem Line.isGap_iff {line : Line} : line.isGap = true ↔ line.kind = .narrative ∧ line.isBlank = true := by
  simp [isGap]

theorem Line.isTold_iff {line : Line} : line.isTold = true ↔ line.kind = .narrative ∧ line.isBlank = false := by
  simp [isTold]

/-- What the last line left open, to be continued or closed by the next. -/
inductive Pending where
  | nothing
  | paragraph
  | menu
deriving DecidableEq, Repr

namespace Pending

def closing : Pending → String
  | nothing => ""
  | paragraph => "`);\n"
  | menu => ");\n"

@[simp] theorem closing_nothing : nothing.closing = "" := rfl

/-- What a line leaves open. -/
def of (line : Line) : Pending :=
  if line.isTold then .paragraph
  else if line.kind = .choice then .menu
  else .nothing

theorem of_gap {line : Line} (gap : line.isGap = true) : of line = .nothing := by
  simp [of, Line.isTold, Line.isGap_iff.mp gap]

theorem of_eq_paragraph_iff {line : Line} : of line = .paragraph ↔ line.isTold = true := by
  unfold of
  split <;> simp_all
  split <;> simp

theorem of_eq_menu_iff {line : Line} : of line = .menu ↔ line.kind = .choice := by
  unfold of Line.isTold
  split <;> simp_all

end Pending

/-- Whether two adjacent lines belong to one paragraph or one menu. -/
def Line.joins (line next : Line) : Bool :=
  line.isTold && next.isTold || line.kind == .choice && next.kind == .choice

theorem Line.joins_eq_false_iff {line next : Line} :
    line.joins next = false ↔ Pending.of line = .nothing ∨ Pending.of line ≠ Pending.of next := by
  rw [← Bool.not_eq_true, joins, Bool.or_eq_true, Bool.and_eq_true, Bool.and_eq_true, beq_iff_eq, beq_iff_eq]
  simp only [← Pending.of_eq_paragraph_iff, ← Pending.of_eq_menu_iff]
  cases Pending.of line <;> simp [eq_comm]

/-- A module that is written line by line, without a look at the lines to come. -/
structure Transcript where
  scope : Scope
  inNode : Bool
  pending : Pending
  text : String
deriving DecidableEq, Repr

namespace Transcript

def blank (inNode : Bool) (scope : Scope) : Transcript :=
  { scope, inNode, pending := .nothing, text := "" }

/-- What closes the paragraph or menu that is open, and then the node. -/
def closing (t : Transcript) : String :=
  t.pending.closing ++ if t.inNode then Script.closer else ""

/-- What a line adds to the text. It continues or closes what is open; only a header closes the
node as well. -/
def addition (t : Transcript) (line : Line) : Except Fault String :=
  match line.kind with
  | .narrative =>
    if line.isBlank then .ok t.pending.closing
    else if t.pending = .paragraph then .ok ("\n" ++ line.content)
    else .ok (t.pending.closing ++ "game.say(`" ++ line.content)
  | .choice =>
    if t.inNode then
      match Choice.read? line.content with
      | none => .error ⟨line.number, .unfinishedCondition⟩
      | some choice =>
        if t.pending = .menu then .ok (",\n" ++ Script.element t.scope choice)
        else .ok (t.pending.closing ++ "game.choose(\n" ++ Script.element t.scope choice)
    else .error ⟨line.number, .choiceOutsideNode⟩
  | .code => .ok (t.pending.closing ++ Script.codeLine line)
  | .command => .ok (t.pending.closing ++ Script.directive (Command.read line.content))
  | .header => .ok (t.closing ++ Script.opener t.scope line.content line.nodeId)
  | .comment => .error ⟨line.number, .strayComment⟩

def step (t : Transcript) (line : Line) : Except Fault Transcript :=
  (t.addition line).map fun added =>
    { scope := line.declaredScope?.getD t.scope
      inNode := t.inNode || line.kind == .header
      pending := .of line
      text := t.text ++ added }

def run (t : Transcript) (lines : List Line) : Except Fault Transcript :=
  lines.foldlM step t

def compile (lines : List Line) : Except Fault String :=
  (run { blank false .global with text := Module.imports } lines).map fun final =>
    final.text ++ final.closing ++ Script.ending

@[simp] theorem run_nil (t : Transcript) : t.run [] = .ok t := rfl

theorem run_cons (t : Transcript) (line : Line) (rest : List Line) :
    t.run (line :: rest) = (t.step line).bind (·.run rest) := by
  rw [run, List.foldlM_cons]
  rfl

theorem run_append (t : Transcript) (front back : List Line) :
    t.run (front ++ back) = (t.run front).bind (·.run back) := by
  rw [run, List.foldlM_append]
  rfl

def below (before : String) (t : Transcript) : Transcript :=
  { t with text := before ++ t.text }

/-- The text so far has no influence on what is added. -/
theorem step_below (before : String) (t : Transcript) (line : Line) :
    (t.below before).step line = (t.step line).map (below before) := by
  have same : (t.below before).addition line = t.addition line := rfl
  rw [step, step, same]
  cases t.addition line with
  | error fault => rfl
  | ok added => simp [below, Except.map, String.append_assoc]

theorem run_below (before : String) (t : Transcript) (lines : List Line) :
    (t.below before).run lines = (t.run lines).map (below before) := by
  induction lines generalizing t with
  | nil => rfl
  | cons line rest ih =>
    rw [run_cons, run_cons, step_below]
    cases t.step line with
    | error fault => rfl
    | ok after => exact ih after

/-- With nothing open, a transcript goes on as a blank one would. -/
theorem run_of_nothing_pending {t : Transcript} (settled : t.pending = .nothing) (lines : List Line) :
    t.run lines = ((blank t.inNode t.scope).run lines).map (below t.text) := by
  have same : t = (blank t.inNode t.scope).below t.text := by
    cases t
    simp_all [below, blank]
  conv => lhs; rw [same]
  exact run_below t.text _ lines

/-- What a run leaves open is decided by its last line, the scope by the last one declared. -/
theorem run_state {t after : Transcript} {lines : List Line} (ran : t.run lines = .ok after) :
    after.pending = (lines.getLast?.map Pending.of).getD t.pending ∧
      after.inNode = (t.inNode || lines.any (·.kind == .header)) ∧
      after.scope = (lines.filterMap Line.declaredScope?).getLast?.getD t.scope := by
  induction lines generalizing t with
  | nil => cases ran; simp
  | cons line rest ih =>
    rw [run_cons, step] at ran
    cases added : t.addition line with
    | error fault => rw [added] at ran; cases ran
    | ok text =>
      rw [added] at ran
      obtain ⟨pending, inNode, scope⟩ := ih ran
      refine ⟨?_, by rw [inNode, List.any_cons, Bool.or_assoc], ?_⟩
      · rw [pending, List.getLast?_cons]
        cases rest.getLast? <;> rfl
      · rw [scope, List.filterMap_cons]
        cases line.declaredScope? with
        | none => rfl
        | some declared =>
          rw [List.getLast?_cons]
          cases (rest.filterMap Line.declaredScope?).getLast? <;> rfl

/-- The transcript with its paragraph or menu closed. -/
def settle (t : Transcript) : Transcript :=
  { t with pending := .nothing, text := t.text ++ t.pending.closing }

theorem closing_eq (t : Transcript) : t.closing = t.pending.closing ++ t.settle.closing := by
  change _ = t.pending.closing ++ ("" ++ if t.inNode then Script.closer else "")
  rw [String.empty_append, closing]

/-- A line that does not continue what is open closes it first. -/
theorem step_settle {t : Transcript} {line : Line}
    (apart : t.pending = .nothing ∨ t.pending ≠ Pending.of line) :
    t.settle.step line = t.step line := by
  have split : t.addition line = (t.settle.addition line).map (t.pending.closing ++ ·) := by
    unfold addition
    split
    · rename_i kind
      by_cases empty : line.isBlank = true
      · simp [empty, settle, Except.map]
      · have other : t.pending ≠ .paragraph := by
          rw [Pending.of_eq_paragraph_iff.mpr (by simp [Line.isTold, kind, empty])] at apart
          rcases apart with settled | apart
          · simp [settled]
          · exact apart
        simp [empty, other, settle, Except.map, String.append_assoc]
    · rename_i kind
      have other : t.pending ≠ .menu := by
        rw [Pending.of_eq_menu_iff.mpr kind] at apart
        rcases apart with settled | apart
        · simp [settled]
        · exact apart
      cases inside : t.inNode with
      | false => simp [settle, inside, Except.map]
      | true =>
        cases Choice.read? line.content <;>
          simp [settle, inside, other, Except.map, String.append_assoc]
    · simp [settle, Except.map]
    · simp [settle, Except.map]
    · change _ = Except.ok (t.pending.closing ++ (t.settle.closing ++ Script.opener t.scope line.content line.nodeId))
      rw [closing_eq, String.append_assoc]
    · rfl
  rw [step, step, split]
  cases t.settle.addition line with
  | error fault => rfl
  | ok added => simp [settle, Except.map, String.append_assoc]

def leave (t : Transcript) : Transcript :=
  { t with inNode := false, pending := .nothing, text := t.text ++ t.closing }

/-- A header closes the node before it. -/
theorem step_leave (t : Transcript) {header : Line} (kind : header.kind = .header) :
    t.leave.step header = t.step header := by
  simp [step, addition, kind, leave, closing, Except.map, String.append_assoc]

end Transcript

end StoryScript

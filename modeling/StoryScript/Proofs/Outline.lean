import Mathlib.Logic.ExistsUnique
import StoryScript.Line

namespace StoryScript

/-- A node of a story: its header and the lines that belong to it. -/
@[ext]
structure Node where
  header : Line
  body : List Line
  headed : header.kind = .header
  plain : ∀ line ∈ body, line.kind ≠ .header

/-- A story cut at its headers. -/
@[ext]
structure Outline where
  preamble : List Line
  nodes : List Node
  plain : ∀ line ∈ preamble, line.kind ≠ .header

def Node.lines (node : Node) : List Line :=
  node.header :: node.body

theorem Node.kind_of_head? {nodes : List Node} {next : Line}
    (begins : next ∈ (nodes.flatMap Node.lines).head?) : next.kind = .header := by
  cases nodes with
  | nil => simp at begins
  | cons node rest =>
    have same : node.header = next := by simpa [lines] using begins
    exact same ▸ node.headed

namespace Outline

def lines (outline : Outline) : List Line :=
  outline.preamble ++ outline.nodes.flatMap Node.lines

/-- Puts a line in front. A header takes what was the preamble for its node. -/
def cons (line : Line) (outline : Outline) : Outline :=
  if headed : line.kind = .header then
    { preamble := []
      nodes := ⟨line, outline.preamble, headed, outline.plain⟩ :: outline.nodes
      plain := by simp }
  else
    { preamble := line :: outline.preamble
      nodes := outline.nodes
      plain := by simpa [headed] using outline.plain }

def cut : List Line → Outline
  | [] => ⟨[], [], by simp⟩
  | line :: rest => (cut rest).cons line

theorem lines_cons (line : Line) (outline : Outline) : (outline.cons line).lines = line :: outline.lines := by
  unfold cons
  split <;> simp [lines, Node.lines]

theorem lines_cut (lines : List Line) : (cut lines).lines = lines := by
  induction lines with
  | nil => rfl
  | cons line rest ih => rw [cut, lines_cons, ih]

theorem cut_append {front : List Line} (plain : ∀ line ∈ front, line.kind ≠ .header) (rest : List Line) :
    (cut (front ++ rest)).preamble = front ++ (cut rest).preamble ∧
      (cut (front ++ rest)).nodes = (cut rest).nodes := by
  induction front with
  | nil => exact ⟨rfl, rfl⟩
  | cons line front ih =>
    obtain ⟨preamble, nodes⟩ := ih fun other member => plain other (List.mem_cons_of_mem line member)
    have other : line.kind ≠ .header := plain line List.mem_cons_self
    simp [cut, cons, other, preamble, nodes]

theorem cut_nodes (nodes : List Node) : cut (nodes.flatMap Node.lines) = ⟨[], nodes, List.forall_mem_nil _⟩ := by
  induction nodes with
  | nil => rfl
  | cons node rest ih =>
    obtain ⟨preamble, nodes⟩ := cut_append node.plain (rest.flatMap Node.lines)
    rw [ih, List.append_nil] at preamble
    rw [ih] at nodes
    simp [Node.lines, cut, cons, node.headed, preamble, nodes]

theorem cut_lines (outline : Outline) : cut outline.lines = outline := by
  obtain ⟨preamble, nodes⟩ := cut_append outline.plain (outline.nodes.flatMap Node.lines)
  rw [cut_nodes, List.append_nil] at preamble
  rw [cut_nodes] at nodes
  exact Outline.ext preamble nodes

/-- There is one way to cut a story at its headers. -/
theorem existsUnique_lines_eq (lines : List Line) : ∃! outline : Outline, outline.lines = lines := by
  refine ⟨cut lines, lines_cut lines, ?_⟩
  rintro outline rfl
  exact (cut_lines outline).symm

end Outline

end StoryScript

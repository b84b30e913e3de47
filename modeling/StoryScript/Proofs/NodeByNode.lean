import StoryScript.Proofs.Outline
import StoryScript.Proofs.Streaming

namespace StoryScript.Story

/-- What some lines come to where `scope` is in force: the text that is emitted for them, without
the imports and the ending of a module, and the scope that they leave, or the fault in them. -/
def body (scope : Scope) (lines : List Line) : Passage :=
  Emitter.outcome ((Emitter.emitStory lines).run (.inScope scope))

theorem body_eq {lines : List Line} (classified : ∀ line ∈ lines, line.IsClassified) (scope : Scope) :
    body scope lines = Transcript.body scope lines := by
  have ran := Emitter.emitStory_writes classified scope (.inScope scope) rfl
  exact ran.trans (Passage.andThen_empty scope fun _ => Transcript.body scope lines)

/-- Whatever was emitted before stands unchanged in front of the text of a body. -/
theorem outcome_emitStory {lines : List Line} (classified : ∀ line ∈ lines, line.IsClassified) (e : Emitter) :
    Emitter.outcome ((Emitter.emitStory lines).run e) =
      (body e.scope lines).map fun (text, last) => (e.text ++ text, last) := by
  rw [Emitter.emitStory_writes classified e.scope e rfl, body_eq classified]
  rfl

theorem scope_of_body {scope last : Scope} {lines : List Line} {text : String}
    (classified : ∀ line ∈ lines, line.IsClassified) (ran : body scope lines = .ok (text, last)) :
    last = scope.after lines := by
  rw [body_eq classified] at ran
  exact Transcript.close_after ran

theorem body_append {front back : List Line} (scope : Scope)
    (classified : ∀ line ∈ front ++ back, line.IsClassified)
    (headed : ∀ next ∈ back.head?, next.kind = .header) :
    body scope (front ++ back) = (body scope front).andThen (body · back) := by
  obtain ⟨early, late⟩ := List.forall_mem_append.mp classified
  have same : (body · back) = (Transcript.body · back) := funext (body_eq late)
  rw [body_eq classified, body_eq early, same, Transcript.body_append scope front headed]

/-- Whole nodes that compile behind other lines compile on their own, in the scope left to them. -/
theorem body_append_eq_ok_iff {front back : List Line} {scope last : Scope} {text : String}
    (classified : ∀ line ∈ front ++ back, line.IsClassified)
    (headed : ∀ next ∈ back.head?, next.kind = .header) :
    body scope (front ++ back) = .ok (text, last) ↔
      ∃ early late, text = early ++ late ∧ body scope front = .ok (early, scope.after front) ∧
        body (scope.after front) back = .ok (late, last) := by
  rw [body_append scope classified headed]
  constructor
  · intro both
    obtain ⟨early, left, late, first, second, rfl⟩ := Passage.of_andThen_eq_ok both
    cases scope_of_body (List.forall_mem_append.mp classified).1 first
    exact ⟨early, late, rfl, first, second⟩
  · rintro ⟨early, late, rfl, first, second⟩
    rw [first, Passage.andThen_ok, second]
    rfl

theorem headed_append {front back : List Line} (first : ∀ next ∈ front.head?, next.kind = .header)
    (second : ∀ next ∈ back.head?, next.kind = .header) :
    ∀ next ∈ (front ++ back).head?, next.kind = .header := by
  cases front with
  | nil => exact second
  | cons line rest => exact first

theorem headed_lines (node : Node) : ∀ next ∈ node.lines.head?, next.kind = .header := by
  intro next begins
  cases begins
  exact node.headed

/-- A node that compiles among other lines has the text it has on its own, in the scope left to it. -/
theorem body_around_node_eq_ok_iff {before after : List Line} {node : Node} {scope last : Scope} {text : String}
    (classified : ∀ line ∈ before ++ (node.lines ++ after), line.IsClassified)
    (headed : ∀ next ∈ after.head?, next.kind = .header) :
    body scope (before ++ (node.lines ++ after)) = .ok (text, last) ↔
      ∃ front middle back, text = front ++ (middle ++ back) ∧ body scope before = .ok (front, scope.after before) ∧
        body (scope.after before) node.lines = .ok (middle, (scope.after before).after node.lines) ∧
        body ((scope.after before).after node.lines) after = .ok (back, last) := by
  have later := (List.forall_mem_append.mp classified).2
  rw [body_append_eq_ok_iff classified (headed_append (headed_lines node) headed)]
  constructor
  · rintro ⟨front, rest, rfl, first, others⟩
    obtain ⟨middle, back, rfl, second, third⟩ := (body_append_eq_ok_iff later headed).mp others
    exact ⟨front, middle, back, rfl, first, second, third⟩
  · rintro ⟨front, middle, back, rfl, first, second, third⟩
    have others := (body_append_eq_ok_iff later headed).mpr ⟨middle, back, rfl, second, third⟩
    exact ⟨front, middle ++ back, rfl, first, others⟩

/-- Two adjacent nodes without a scope of their own can change places. -/
theorem body_swap {before after : List Line} {first second : Node} {scope last : Scope} {text : String}
    (classified : ∀ line ∈ before ++ (first.lines ++ (second.lines ++ after)), line.IsClassified)
    (headed : ∀ next ∈ after.head?, next.kind = .header)
    (silent : ∀ line ∈ first.lines ++ second.lines, line.declaredScope? = none)
    (ran : body scope (before ++ (first.lines ++ (second.lines ++ after))) = .ok (text, last)) :
    ∃ front one two back, text = front ++ one ++ two ++ back ∧
      body scope before = .ok (front, scope.after before) ∧
      body (scope.after before) first.lines = .ok (one, scope.after before) ∧
      body (scope.after before) second.lines = .ok (two, scope.after before) ∧
      body (scope.after before) after = .ok (back, last) ∧
      body scope (before ++ (second.lines ++ (first.lines ++ after))) = .ok (front ++ two ++ one ++ back, last) := by
  obtain ⟨silentFirst, silentSecond⟩ := List.forall_mem_append.mp silent
  have keptFirst : (scope.after before).after first.lines = scope.after before := Scope.after_eq_self silentFirst
  have keptSecond : (scope.after before).after second.lines = scope.after before := Scope.after_eq_self silentSecond
  have behindFirst : ∀ next ∈ (first.lines ++ after).head?, next.kind = .header :=
    headed_append (headed_lines first) headed
  have behindSecond : ∀ next ∈ (second.lines ++ after).head?, next.kind = .header :=
    headed_append (headed_lines second) headed
  have swapped : ∀ line ∈ before ++ (second.lines ++ (first.lines ++ after)), line.IsClassified := by
    intro line member
    refine classified line ?_
    simp only [List.mem_append] at member ⊢
    grind
  have tail : ∀ line ∈ second.lines ++ after, line.IsClassified := fun line member =>
    classified line (List.mem_append_right _ (List.mem_append_right _ member))
  have swappedTail : ∀ line ∈ first.lines ++ after, line.IsClassified := fun line member =>
    swapped line (List.mem_append_right _ (List.mem_append_right _ member))
  obtain ⟨front, one, rest, rfl, early, inFirst, others⟩ :=
    (body_around_node_eq_ok_iff classified behindSecond).mp ran
  rw [keptFirst] at inFirst others
  obtain ⟨two, back, rfl, inSecond, late⟩ := (body_append_eq_ok_iff tail headed).mp others
  rw [keptSecond] at inSecond late
  refine ⟨front, one, two, back, by simp only [String.append_assoc], early, inFirst, inSecond, late, ?_⟩
  refine (body_around_node_eq_ok_iff swapped behindFirst).mpr
    ⟨front, two, one ++ back, by simp only [String.append_assoc], early, by rw [keptSecond, inSecond], ?_⟩
  rw [keptSecond]
  exact (body_append_eq_ok_iff swappedTail headed).mpr
    ⟨one, back, rfl, by rw [keptFirst, inFirst], by rw [keptFirst, late]⟩

/-- A story is compiled node by node. What stands before a header is compiled as if nothing followed
it, and what begins with a header as if only the scope in force came before it. So the text of a node
depends on the last scope declared before it and on nothing else there, and two adjacent nodes that
declare none can change places. -/
theorem body_composes :
    (∀ (e : Emitter) (lines : List Line), (∀ line ∈ lines, line.IsClassified) →
      Emitter.outcome ((Emitter.emitStory lines).run e) =
        (body e.scope lines).map fun (text, last) => (e.text ++ text, last)) ∧
    (∀ (scope : Scope) (front back : List Line), (∀ line ∈ front ++ back, line.IsClassified) →
      (∀ next ∈ back.head?, next.kind = .header) →
      (∀ fault, body scope front = .error fault → body scope (front ++ back) = .error fault) ∧
      ∀ text left, body scope front = .ok (text, left) →
        body scope (front ++ back) = (body left back).map fun (more, last) => (text ++ more, last)) ∧
    (∀ (scope last : Scope) (before after : List Line) (node : Node) (text : String),
      (∀ line ∈ before ++ (node.lines ++ after), line.IsClassified) →
      (∀ next ∈ after.head?, next.kind = .header) →
      body scope (before ++ (node.lines ++ after)) = .ok (text, last) →
      ∃ front middle back left, text = front ++ (middle ++ back) ∧
        body scope before = .ok (front, scope.after before) ∧
        body (scope.after before) node.lines = .ok (middle, left) ∧ body left after = .ok (back, last)) ∧
    ∀ (scope last : Scope) (before after : List Line) (first second : Node) (text : String),
      (∀ line ∈ before ++ (first.lines ++ (second.lines ++ after)), line.IsClassified) →
      (∀ next ∈ after.head?, next.kind = .header) →
      (∀ line ∈ first.lines ++ second.lines, line.declaredScope? = none) →
      body scope (before ++ (first.lines ++ (second.lines ++ after))) = .ok (text, last) →
      ∃ front one two back, text = front ++ one ++ two ++ back ∧
        body scope before = .ok (front, scope.after before) ∧
        body (scope.after before) first.lines = .ok (one, scope.after before) ∧
        body (scope.after before) second.lines = .ok (two, scope.after before) ∧
        body (scope.after before) after = .ok (back, last) ∧
        body scope (before ++ (second.lines ++ (first.lines ++ after))) =
          .ok (front ++ two ++ one ++ back, last) := by
  refine ⟨fun e lines classified => outcome_emitStory classified e, ?_, ?_, ?_⟩
  · intro scope front back classified headed
    have both := body_append scope classified headed
    refine ⟨fun fault failed => ?_, fun text left ran => ?_⟩
    · rw [both, failed, Passage.andThen_error]
    · rw [both, ran, Passage.andThen_ok]
  · intro scope last before after node text classified headed ran
    obtain ⟨front, middle, back, shape, early, here, late⟩ :=
      (body_around_node_eq_ok_iff classified headed).mp ran
    exact ⟨front, middle, back, _, shape, early, here, late⟩
  · intro scope last before after first second text classified headed silent ran
    exact body_swap classified headed silent ran

/-- In a cave, a node with a menu and a node with a paragraph change places. -/
theorem body_composes_caves :
    let before := [Line.classify "!scope cave" 1]
    let first : Node := ⟨.classify "=a= A" 2, [.classify ">b go" 3], by decide, by decide⟩
    let second : Node := ⟨.classify "=b= B" 4, [.classify "Dark." 5], by decide, by decide⟩
    (∀ line ∈ before ++ (first.lines ++ (second.lines ++ [])), line.IsClassified) ∧
    (∀ line ∈ first.lines ++ second.lines, line.declaredScope? = none) ∧
    ∃ one two, body ⟨"cave"⟩ first.lines = .ok (one, ⟨"cave"⟩) ∧ body ⟨"cave"⟩ second.lines = .ok (two, ⟨"cave"⟩) ∧
      body .global (before ++ (first.lines ++ (second.lines ++ []))) =
        .ok ("game.scope = \"cave\";\n" ++ one ++ two, ⟨"cave"⟩) ∧
      body .global (before ++ (second.lines ++ (first.lines ++ []))) =
        .ok ("game.scope = \"cave\";\n" ++ two ++ one, ⟨"cave"⟩) := by
  intro before first second
  have classified : ∀ line ∈ before ++ (first.lines ++ (second.lines ++ [])), line.IsClassified := by
    intro line member
    have among : line ∈ Line.classifyAll ["!scope cave", "=a= A", ">b go", "=b= B", "Dark."] := member
    exact Line.isClassified_of_mem_classifyAll among
  have silent : ∀ line ∈ first.lines ++ second.lines, line.declaredScope? = none := by decide
  have ran : ∃ text, body .global (before ++ (first.lines ++ (second.lines ++ []))) = .ok (text, ⟨"cave"⟩) :=
    ⟨_, (body_eq classified .global).trans rfl⟩
  obtain ⟨text, ran⟩ := ran
  obtain ⟨front, one, two, back, rfl, early, inFirst, inSecond, late, swapped⟩ :=
    body_composes.2.2.2 .global ⟨"cave"⟩ before [] first second text classified (by simp) silent ran
  have entered : body .global before = .ok ("game.scope = \"cave\";\n", ⟨"cave"⟩) :=
    (body_eq (List.forall_mem_append.mp classified).1 .global).trans rfl
  have ended : body (Scope.global.after before) [] = .ok ("", ⟨"cave"⟩) := (body_eq (by simp) _).trans rfl
  cases entered.symm.trans early
  cases ended.symm.trans late
  rw [String.append_empty] at ran swapped
  exact ⟨classified, silent, one, two, inFirst, inSecond, ran, swapped⟩

end StoryScript.Story

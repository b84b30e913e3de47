import Mathlib.Data.List.SplitBy
import StoryScript.Proofs.FirstOffence
import StoryScript.Proofs.Outline

namespace StoryScript

/-- The element of a choice line that can be read. -/
def Line.element (scope : Scope) (line : Line) : String :=
  ((Choice.read? line.content).map (Script.element scope)).getD ""

namespace Script

/-- The text of a run: lines told or offered together, or one line of another kind. -/
def stretch (scope : Scope) : List Line → String
  | [] => ""
  | line :: more =>
    match line.kind with
    | .narrative => if line.isBlank then "" else paragraph ((line :: more).map (·.content))
    | .choice => menu ((line :: more).map (Line.element scope))
    | .code => codeLine line
    | .command => directive (Command.read line.content)
    | .header | .comment => ""

/-- The texts of parts in their order, each one rendered behind all the lines before it. -/
def inOrder {α : Type} (lines : α → List Line) (render : List Line → α → String) :
    List Line → List α → String
  | _, [] => ""
  | before, part :: rest => render before part ++ inOrder lines render (before ++ lines part) rest

/-- The text of lines without a header: that of their maximal runs. -/
def segment (before lines : List Line) : String :=
  inOrder id (fun before run => stretch (Scope.global.after before) run) before (lines.splitBy Line.joins)

end Script

def Node.render (before : List Line) (node : Node) : String :=
  Script.opener (Scope.global.after before) node.header.content node.header.nodeId ++
    Script.segment (before ++ [node.header]) node.body ++ Script.closer

def Outline.render (outline : Outline) : String :=
  Module.imports ++ Script.segment [] outline.preamble ++
    Script.inOrder Node.lines Node.render outline.preamble outline.nodes ++ Script.ending

/-- A run of joined lines leaves the same open after each of them. -/
theorem Line.pending_of_joined {first : Line} {more : List Line}
    (joined : (first :: more).IsChain fun line next => line.joins next = true) :
    (∀ line ∈ first :: more, Pending.of line = Pending.of first) ∧
      (more ≠ [] → Pending.of first ≠ .nothing) := by
  induction more generalizing first with
  | nil => simp
  | cons second rest ih =>
    rw [List.isChain_cons_cons] at joined
    have both : ¬ (Pending.of first = .nothing ∨ Pending.of first ≠ Pending.of second) := by
      rw [← Line.joins_eq_false_iff]
      simp [joined.1]
    obtain ⟨full, same⟩ := not_or.mp both
    refine ⟨fun line member => ?_, fun _ => full⟩
    rcases List.mem_cons.mp member with rfl | later
    · rfl
    · exact ((ih joined.2).1 line later).trans (not_not.mp same).symm

theorem Line.elements_of_mapM {lines : List Line} {read : List Choice} (scope : Scope)
    (all : lines.mapM Line.readChoice = .ok read) :
    read.map (Script.element scope) = lines.map (Line.element scope) := by
  induction lines generalizing read with
  | nil => cases all; rfl
  | cons line rest ih =>
    obtain ⟨choice, more, found, others, rfl⟩ := Line.read_of_mapM_cons all
    simp [ih others, Line.element, found]

namespace Transcript

theorem close_after_append {inNode : Bool} {before lines : List Line} {ending : Transcript → String}
    {text : String} {last : Scope}
    (ran : ((blank inNode (Scope.global.after before)).run lines).map (close ending) = .ok (text, last)) :
    last = Scope.global.after (before ++ lines) := by
  rw [Scope.after_append]
  exact close_after ran

theorem passage_stretch {inNode : Bool} {scope last : Scope} {first : Line} {more : List Line} {text : String}
    (plain : first.kind ≠ .header)
    (joined : (first :: more).IsChain fun line next => line.joins next = true)
    (ran : passage inNode scope (first :: more) = .ok (text, last)) :
    text = Script.stretch scope (first :: more) := by
  obtain ⟨same, full⟩ := Line.pending_of_joined joined
  have alone (settled : Pending.of first = .nothing) : more = [] := by
    by_contra others
    exact full others settled
  cases kind : first.kind with
  | header => exact absurd kind plain
  | comment =>
    have faulty : (blank inNode scope).addition first = .error ⟨first.number, .strayComment⟩ := by
      simp [addition, kind]
    rw [passage_of_fault more faulty] at ran
    cases ran
  | code =>
    rw [alone (by simp [Pending.of, Line.isTold, kind]), passage_code inNode scope kind] at ran
    cases ran
    simp only [Script.stretch, kind]
  | command =>
    rw [alone (by simp [Pending.of, Line.isTold, kind]), passage_command inNode scope kind] at ran
    cases ran
    simp only [Script.stretch, kind]
  | narrative =>
    by_cases empty : first.isBlank = true
    · have gap : first.isGap = true := by simp [Line.isGap, kind, empty]
      rw [alone (Pending.of_gap gap), passage_gap inNode scope gap] at ran
      cases ran
      simp only [Script.stretch, kind, if_pos empty]
    · have told : Pending.of first = .paragraph :=
        Pending.of_eq_paragraph_iff.mpr (by simp [Line.isTold, kind, empty])
      have all : ∀ line ∈ first :: more, line.isTold = true := fun line member =>
        Pending.of_eq_paragraph_iff.mp ((same line member).trans told)
      rw [passage_paragraph inNode scope all] at ran
      cases ran
      simp only [Script.stretch, kind, if_neg empty]
  | choice =>
    have all : ∀ line ∈ first :: more, line.kind = .choice := fun line member =>
      Pending.of_eq_menu_iff.mp ((same line member).trans (Pending.of_eq_menu_iff.mpr kind))
    cases inNode with
    | false =>
      have faulty : (blank false scope).addition first = .error ⟨first.number, .choiceOutsideNode⟩ := by
        simp [addition, blank, kind]
      rw [passage_of_fault more faulty] at ran
      cases ran
    | true =>
      rw [passage_menu scope all] at ran
      cases read : (first :: more).mapM Line.readChoice with
      | error fault => rw [read] at ran; cases ran
      | ok choices =>
        rw [read] at ran
        cases ran
        simp only [Script.stretch, kind, Line.elements_of_mapM scope read]

/-- Maximal runs are compiled one by one. -/
theorem passage_runs {inNode : Bool} {before : List Line} {runs : List (List Line)} {text : String}
    {last : Scope} (plain : ∀ line ∈ runs.flatten, line.kind ≠ .header) (full : [] ∉ runs)
    (joined : ∀ run ∈ runs, run.IsChain fun line next => line.joins next = true)
    (maximal : runs.IsChain fun run next => ∃ some other, (run.getLast some).joins (next.head other) = false)
    (ran : passage inNode (Scope.global.after before) runs.flatten = .ok (text, last)) :
    text = Script.inOrder id (fun before run => Script.stretch (Scope.global.after before) run) before runs := by
  induction runs generalizing before text with
  | nil =>
    rw [List.flatten_nil, passage_nil] at ran
    cases ran
    rfl
  | cons run rest ih =>
    rw [List.flatten_cons] at ran plain
    have front : ∀ line ∈ run, line.kind ≠ .header := fun line member =>
      plain line (List.mem_append_left _ member)
    have apart : ∀ last ∈ run.getLast?, ∀ next ∈ rest.flatten.head?, last.joins next = false := by
      intro last isLast next isNext
      cases rest with
      | nil => simp at isNext
      | cons second rest =>
        obtain ⟨some, other, cut⟩ := (List.isChain_cons_cons.mp maximal).1
        rw [List.flatten_cons, List.head?_append_of_ne_nil _ other, List.head?_eq_some_head other] at isNext
        rw [List.getLast?_eq_some_getLast some] at isLast
        cases isNext
        cases isLast
        exact cut
    rw [passage_append _ front apart] at ran
    obtain ⟨here, scope, there, first, others, rfl⟩ := Passage.of_andThen_eq_ok ran
    cases close_after_append first
    have later := ih (fun line member => plain line (List.mem_append_right _ member))
      (fun absent => full (List.mem_cons_of_mem run absent))
      (fun other member => joined other (List.mem_cons_of_mem run member)) maximal.tail others
    cases run with
    | nil => exact absurd List.mem_cons_self full
    | cons line more =>
      rw [passage_stretch (front line List.mem_cons_self) (joined _ List.mem_cons_self) first, later]
      rfl

theorem passage_segment {inNode : Bool} {before lines : List Line} {text : String} {last : Scope}
    (plain : ∀ line ∈ lines, line.kind ≠ .header)
    (ran : passage inNode (Scope.global.after before) lines = .ok (text, last)) : text = Script.segment before lines := by
  obtain ⟨whole, full, joined, maximal⟩ := List.splitBy_eq_iff.mp (rfl : lines.splitBy Line.joins = _)
  rw [whole] at ran plain
  exact passage_runs plain full joined maximal ran

theorem body_nodes {before : List Line} {nodes : List Node} {text : String} {last : Scope}
    (ran : body (Scope.global.after before) (nodes.flatMap Node.lines) = .ok (text, last)) :
    text = Script.inOrder Node.lines Node.render before nodes := by
  induction nodes generalizing before text with
  | nil =>
    rw [List.flatMap_nil, body_of_plain _ (by simp), passage_nil] at ran
    cases ran
    rfl
  | cons node rest ih =>
    rw [List.flatMap_cons, body_append _ _ fun _ => Node.kind_of_head?] at ran
    obtain ⟨here, scope, there, first, others, rfl⟩ := Passage.of_andThen_eq_ok ran
    cases close_after_append first
    have same : Scope.global.after before = Scope.global.after (before ++ [node.header]) := by
      have silent : node.header.declaredScope? = none := Line.declaredScope?_eq_none (by simp [node.headed])
      rw [Scope.after_append, Scope.after_singleton _ silent]
    rw [Node.lines, body_node _ node.headed node.plain] at first
    cases inner : passage true (Scope.global.after before) node.body with
    | error fault => rw [inner] at first; cases first
    | ok pair =>
      obtain ⟨text, final⟩ := pair
      simp only [inner, Except.map, Except.ok.injEq, Prod.mk.injEq] at first
      rw [same] at inner
      rw [← first.1, passage_segment node.plain inner, ih others, Script.inOrder, Node.render]

/-- A story that compiles has the text of its layout between the imports and the ending. -/
theorem body_outline {outline : Outline} {text : String} {last : Scope}
    (ran : body .global outline.lines = .ok (text, last)) :
    Module.imports ++ text ++ Script.ending = outline.render := by
  rw [Outline.lines, body_append _ _ fun _ => Node.kind_of_head?] at ran
  obtain ⟨here, scope, there, first, others, rfl⟩ := Passage.of_andThen_eq_ok ran
  have start : Scope.global = Scope.global.after [] := rfl
  rw [start] at first
  cases close_after_append first
  rw [body_of_plain _ outline.plain] at first
  rw [passage_segment outline.plain first, body_nodes others, Outline.render]
  simp [String.append_assoc]

end Transcript

namespace Story

theorem choice_readable {lines : List Line} {line : Line} (classified : ∀ line ∈ lines, line.IsClassified)
    (clean : Clean lines) (member : line ∈ lines) (kind : line.kind = .choice) :
    Choice.read? line.content ≠ none := by
  intro unread
  obtain ⟨rest, marked⟩ := (classified line member).choice_content kind
  have unfinished := (Choice.read?_eq_none_iff marked).mp unread
  obtain ⟨before, after, shape⟩ := List.append_of_mem member
  by_cases headed : ∃ earlier ∈ before, earlier.kind = .header
  · exact clean before line after _ shape (.unfinished kind headed unfinished)
  · have headless : ∀ earlier ∈ before, earlier.kind ≠ .header := fun earlier among header =>
      headed ⟨earlier, among, header⟩
    exact clean before line after _ shape (.outside kind headless)

/-- A story can be cut at its headers in one way, and if it compiles, its module is laid out along
this cut: the preamble, then every node between its opener and its closer, each of them the texts
of its maximal runs, and every id qualified by the last scope declared before it. -/
theorem result_eq_layout {lines : List Line} {text : String}
    (classified : ∀ line ∈ lines, line.IsClassified) (compiled : (compile lines).result = .ok text) :
    (∃! outline : Outline, outline.lines = lines) ∧
      (∀ outline : Outline, outline.lines = lines → text = outline.render) ∧
      ∀ line ∈ lines, line.kind = .choice → Choice.read? line.content ≠ none := by
  refine ⟨Outline.existsUnique_lines_eq lines, ?_, fun line =>
    choice_readable classified (clean_of_compiled classified compiled)⟩
  rintro outline rfl
  have ran := result_eq_body classified
  rw [compiled] at ran
  cases body : Transcript.body .global outline.lines with
  | error fault => rw [body] at ran; cases ran
  | ok pair =>
    obtain ⟨inner, last⟩ := pair
    simp only [body, Except.map, Except.ok.injEq] at ran
    rw [ran, Transcript.body_outline body]

/-- Paragraphs, menus and a scope that outlasts its node. One choice names its scope itself. -/
theorem result_eq_layout_scoped :
    let lines := Line.classifyAll ["Once", "upon", "", "!scope cave", "=in= In", "Dark.", "| x = 1;",
      ">out leave", ">in ?lamp; `look`", "", ">home:bed sleep; 1", "=out= Out", "Light."]
    let text := Module.imports ++
      "game.say(`Once\nupon`);\n" ++
      "game.scope = \"cave\";\n" ++
      "\n/* =in= In */\n" ++
      "game.gameNodes['=cave:in='] =\n" ++
      "new GameNode('=cave:in=').setExecFn(function(game, choice) \x7b\n" ++
      "game.player.location = '=cave:in=';\n" ++
      "game.scope = 'cave';\n" ++
      "game.say(`Dark.`);\n" ++
      "x = 1;\n" ++
      "game.choose(\ngame.choice(\"=cave:out=\", `leave`),\n" ++
      "(lamp) ? game.choice(\"=cave:in=\", `look`) : false);\n" ++
      "game.choose(\ngame.choice(\"=home:bed=\", `sleep`, 1));\n" ++
      "game.scope = 'g';\n\x7d);\n" ++
      "\n/* =out= Out */\n" ++
      "game.gameNodes['=cave:out='] =\n" ++
      "new GameNode('=cave:out=').setExecFn(function(game, choice) \x7b\n" ++
      "game.player.location = '=cave:out=';\n" ++
      "game.scope = 'cave';\n" ++
      "game.say(`Light.`);\n" ++
      "game.scope = 'g';\n\x7d);\n" ++
      "game.scope = \"g\";"
    (compile lines).result = .ok text ∧ (Outline.cut lines).render = text := by
  intro lines text
  have classified : ∀ line ∈ lines, line.IsClassified := fun _ => Line.isClassified_of_mem_classifyAll
  have compiled : (compile lines).result = .ok text := (result_eq_body classified).trans (by decide +kernel)
  exact ⟨compiled, ((result_eq_layout classified compiled).2.1 _ (Outline.lines_cut lines)).symm⟩

end Story

end StoryScript

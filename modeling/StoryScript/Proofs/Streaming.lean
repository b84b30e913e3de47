import StoryScript.Proofs.BlockCuts
import StoryScript.Proofs.Classified
import StoryScript.Proofs.Writes
import StoryScript.Story

namespace StoryScript.Emitter

/-- What is noted leaves no trace in the text. -/
theorem Writes.after_note {action : EmitM Unit} {scope : Scope} (passage : Scope → Passage)
    (event : Log.Event) (written : ∀ scope, Writes action scope (passage scope)) :
    Writes (Emitter.note event >>= fun _ => action) scope (passage scope) := by
  have both := (Writes.note scope event).bind written
  rwa [Passage.andThen_empty] at both

theorem emitBlock_writes {level : Level} {node : Block → EmitM Unit} {lead : Line} (rest : List Line)
    (plain : lead.kind ≠ .header) (scope : Scope) :
    Writes (emitBlock level node (Block.cut lead rest).1) scope
      (Transcript.passage (level = .inNode) scope (Block.cut lead rest).1.lines) := by
  unfold emitBlock
  refine Writes.after_note (fun scope => Transcript.passage _ scope _) _ fun scope => ?_
  have leads : (Block.cut lead rest).1.lead = lead := rfl
  rw [leads]
  cases kind : lead.kind with
  | header => exact absurd kind plain
  | narrative =>
    obtain ⟨gaps, told, shape, empty, full, _⟩ := Block.cut_narrative rest kind
    rw [shape]
    exact emitParagraph_writes _ scope empty full
  | code =>
    rw [Block.cut_code rest kind]
    exact emitScript_writes _ scope fun line member => Block.kind_of_mem_run kind member
  | command =>
    have alone : (Block.cut lead rest).1.lines = [lead] := by simp [Block.cut, Block.lines, Block.claimed, kind]
    rw [alone]
    exact emitCommand_writes _ scope kind
  | choice =>
    rw [Block.cut_choice rest kind]
    cases level with
    | inNode =>
      exact emitMenu_writes scope fun line member => Block.kind_of_mem_run kind member
    | topLevel =>
      have faulty : (Transcript.blank false scope).addition lead =
          .error ⟨lead.number, .choiceOutsideNode⟩ := by
        simp [Transcript.addition, Transcript.blank, kind]
      have refused := Transcript.passage_of_fault (rest.takeWhile (·.kind == .choice)) faulty
      exact refused ▸ Writes.fail scope lead .choiceOutsideNode
  | comment =>
    have faulty : (Transcript.blank (level = .inNode) scope).addition lead =
        .error ⟨lead.number, .strayComment⟩ := by
      simp [Transcript.addition, kind]
    have refused := Transcript.passage_of_fault (Block.cut lead rest).1.more faulty
    exact refused ▸ Writes.fail scope lead .strayComment

/-- Blocks are cut where nothing runs on, so compiling them in turn compiles their lines in turn. -/
theorem emitBlocks_writes (level : Level) (node : Block → EmitM Unit) {lines : List Line}
    (plain : ∀ line ∈ lines, line.kind ≠ .header) (scope : Scope) :
    Writes ((Block.ofLines lines).forM (emitBlock level node)) scope
      (Transcript.passage (level = .inNode) scope lines) := by
  fun_induction Block.ofLines lines generalizing scope with
  | case1 => rw [Transcript.passage_nil]; exact .pure scope
  | case2 lead rest ih =>
    have parts := Block.cut_lines lead rest
    have front : ∀ line ∈ (Block.cut lead rest).1.lines, line.kind ≠ .header := fun line member =>
      plain line (parts ▸ List.mem_append_left _ member)
    have back : ∀ line ∈ (Block.cut lead rest).2, line.kind ≠ .header := fun line member =>
      plain line (parts ▸ List.mem_append_right _ member)
    rw [← parts, Transcript.passage_append scope front (Block.cut_apart lead rest)]
    exact (emitBlock_writes rest (plain lead List.mem_cons_self) scope).bind (ih back)

theorem emitNode_writes {header : Line} {more : List Line} (classified : header.IsClassified)
    (kind : header.kind = .header) (plain : ∀ line ∈ more, line.kind ≠ .header) (scope : Scope) :
    Writes (emitNode ⟨header, more⟩) scope (Transcript.body scope (header :: more)) := by
  obtain ⟨id, found, named⟩ := classified.headerId_eq kind
  rw [Transcript.body_node scope kind plain, ← named]
  have opened := Writes.emit scope (.openNode header.content (scope.key header.nodeId) scope)
  have inner := emitBlocks_writes .inNode (fun nested => fail nested.lead .nestedNode) plain
  have whole := opened.bind fun last => (inner last).bind fun last => Writes.emit last .closeNode
  rw [Script.render_openNode, Script.render_closeNode, ← named] at whole
  rw [Passage.enclosed] at whole
  rintro e rfl
  -- The note of the opening changes the log alone, so the rest runs as it would without it.
  have ran := whole { e with log := e.log.push (.nodeOpened header.number (e.scope.key (String.ofList id))) } rfl
  refine Eq.trans ?_ ran
  unfold emitNode
  dsimp only
  rw [found]
  rfl

theorem emitStory_writes {lines : List Line} (classified : ∀ line ∈ lines, line.IsClassified)
    (scope : Scope) : Writes (emitStory lines) scope (Transcript.body scope lines) := by
  unfold emitStory
  fun_induction Block.ofLines lines generalizing scope with
  | case1 => exact .pure scope
  | case2 lead rest ih =>
    have parts := Block.cut_lines lead rest
    have back : ∀ line ∈ (Block.cut lead rest).2, line.IsClassified := fun line member =>
      classified line (parts ▸ List.mem_append_right _ member)
    rw [← parts]
    by_cases kind : lead.kind = .header
    · have plain : ∀ line ∈ rest.takeWhile (·.kind != .header), line.kind ≠ .header := fun line member => by
        simpa using List.all_eq_true.mp List.all_takeWhile line member
      rw [Transcript.body_append scope _ (Block.cut_headed rest kind)]
      refine Writes.bind ?_ (ih back)
      rw [Block.cut_header rest kind]
      have node := emitNode_writes (classified lead List.mem_cons_self) kind plain
      unfold emitOuter emitBlock
      dsimp only
      rw [kind]
      exact .after_note (fun scope => Transcript.body scope _) _ node
    · rw [Transcript.body_append_of_plain scope (Block.cut_plain rest kind) (Block.cut_apart lead rest)]
      exact (emitBlock_writes rest kind scope).bind (ih back)

end StoryScript.Emitter

namespace StoryScript.Story

/-- The module of a story is the body of its lines between the imports and the ending. -/
theorem result_eq_body {lines : List Line} (classified : ∀ line ∈ lines, line.IsClassified) :
    (compile lines).result = (Transcript.body .global lines).map fun (text, _) =>
      Module.imports ++ text ++ Script.ending := by
  have ran := Emitter.emitStory_writes classified .global (.inScope .global) rfl
  have empty : (Emitter.inScope .global).text = "" := rfl
  rw [empty, Passage.andThen_ok] at ran
  unfold compile
  cases result : (Emitter.emitStory lines).run (.inScope .global) with
  | error fault final =>
    rw [result] at ran
    cases body : Transcript.body .global lines with
    | error same => rw [body] at ran; cases ran; rfl
    | ok pair => rw [body] at ran; cases ran
  | ok _ final =>
    rw [result] at ran
    cases body : Transcript.body .global lines with
    | error fault => rw [body] at ran; cases ran
    | ok pair =>
      rw [body] at ran
      simp only [Emitter.outcome, Except.map, String.empty_append, Except.ok.injEq, Prod.mk.injEq] at ran
      change Except.ok (Module.imports ++ final.text ++ Module.ending) = _
      rw [ran.1, Script.ending_eq]
      rfl

theorem compileTexts_eq_transcript (texts : List String) :
    (compileTexts texts).result = Transcript.compile (Line.ofTexts texts) := by
  rw [compileTexts, result_eq_body fun _ => Line.isClassified_of_mem_ofTexts, Transcript.compile_eq_body]

theorem compileSource_eq_transcript (source : String) :
    (compileSource source).result = Transcript.compile (Line.ofTexts (Source.lines source)) :=
  compileTexts_eq_transcript (Source.lines source)

/-- Compiling whole blocks, with a look ahead to where each one ends, gives the same module or the
same fault as taking in one line after the other. -/
theorem result_eq_transcript {lines : List Line} (classified : ∀ line ∈ lines, line.IsClassified) :
    (compile lines).result = Transcript.compile lines := by
  rw [result_eq_body classified, Transcript.compile_eq_body]

/-- A menu that breaks off at an unfinished condition, after a paragraph and a gap. -/
theorem result_eq_transcript_unfinished :
    (compile (Line.classifyAll ["=a= A", "Hi", "you", "", ">b go", ">c ?x"])).result =
      .error ⟨6, .unfinishedCondition⟩ := by
  rw [result_eq_transcript fun _ => Line.isClassified_of_mem_classifyAll]
  rfl

end StoryScript.Story

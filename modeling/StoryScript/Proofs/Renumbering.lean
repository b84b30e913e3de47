import StoryScript.Proofs.Streaming

namespace StoryScript

def Line.renumber (f : Nat → Nat) (line : Line) : Line :=
  { line with number := f line.number }

def Fault.renumber (f : Nat → Nat) (fault : Fault) : Fault :=
  { fault with line := f fault.line }

/-- The same failure at another line. One that names no line stays as it is. -/
def Failure.renumber (f : Nat → Nat) : Failure → Failure
  | story line message => .story (f line) message
  | defect line message => .defect (f line) message
  | file error => .file error
  | inputMissing path => .inputMissing path
  | formatting => .formatting

theorem Fault.toFailure_renumber (f : Nat → Nat) (fault : Fault) :
    (fault.renumber f).toFailure = fault.toFailure.renumber f := by
  unfold toFailure
  cases defect : fault.cause.isDefect <;> simp [renumber, Failure.renumber, defect]

theorem Fault.mapError_renumber {α : Type} (f : Nat → Nat) (result : Except Fault α) :
    (result.mapError (renumber f)).mapError toFailure =
      (result.mapError toFailure).mapError (Failure.renumber f) := by
  cases result with
  | ok value => rfl
  | error fault => exact congrArg Except.error (toFailure_renumber f fault)

theorem Line.IsClassified.renumber {line : Line} (f : Nat → Nat) (classified : line.IsClassified) :
    (line.renumber f).IsClassified := by
  obtain ⟨text, number, rfl⟩ := classified
  exact ⟨text, f number, rfl⟩

namespace Transcript

/-- The number of a line shows only in the fault that it may cause. -/
theorem addition_renumber (f : Nat → Nat) (t : Transcript) (line : Line) :
    t.addition (line.renumber f) = (t.addition line).mapError (.renumber f) := by
  obtain ⟨kind, content, number⟩ := line
  cases kind with
  | header => rfl
  | code => rfl
  | command => rfl
  | comment => rfl
  | narrative =>
    have same : Line.isBlank ⟨.narrative, content, f number⟩ = Line.isBlank ⟨.narrative, content, number⟩ := rfl
    simp only [addition, Line.renumber, same]
    split
    · rfl
    · split <;> rfl
  | choice =>
    simp only [addition, Line.renumber]
    split
    · split
      · rfl
      · split <;> rfl
    · rfl

theorem step_renumber (f : Nat → Nat) (t : Transcript) (line : Line) :
    t.step (line.renumber f) = (t.step line).mapError (.renumber f) := by
  rw [step, step, addition_renumber]
  cases t.addition line <;> rfl

theorem run_renumber (f : Nat → Nat) (t : Transcript) (lines : List Line) :
    t.run (lines.map (.renumber f)) = (t.run lines).mapError (.renumber f) := by
  induction lines generalizing t with
  | nil => rfl
  | cons line rest ih =>
    rw [List.map_cons, run_cons, run_cons, step_renumber]
    cases t.step line with
    | error fault => rfl
    | ok next => exact ih next

theorem compile_renumber (f : Nat → Nat) (lines : List Line) :
    compile (lines.map (.renumber f)) = (compile lines).mapError (.renumber f) := by
  unfold compile
  rw [run_renumber]
  generalize run _ lines = result
  cases result <;> rfl

end Transcript

namespace Line

/-- The number that a line gets when `count` lines are put in behind the first `place`. -/
def numberBehind (place count number : Nat) : Nat :=
  if number ≤ place then number else number + count

theorem map_renumber_classifyFrom {f : Nat → Nat} (first offset : Nat) {texts : List String}
    (moved : ∀ number, first ≤ number → number < first + texts.length → f number = number + offset) :
    (classifyFrom first texts).map (renumber f) = classifyFrom (first + offset) texts := by
  induction texts generalizing first with
  | nil => rfl
  | cons text rest ih =>
    rw [List.length_cons] at moved
    have here : f first = first + offset := moved first (by omega) (by omega)
    have later := ih (first + 1) fun number lower upper => moved number (by omega) (by omega)
    have next : first + 1 + offset = first + offset + 1 := by omega
    rw [classifyFrom_cons, List.map_cons, later, next, classifyFrom_cons, ← here]
    rfl

theorem kind_classify_of_hash {text : String} (marked : text.toList.head? = some '#') (number : Nat) :
    (classify text number).kind = .comment := by
  cases letters : text.toList with
  | nil => simp [letters] at marked
  | cons marker rest =>
    have hash : marker = '#' := by simpa [letters] using marked
    rw [classify_kind, letters, hash, read_cons rest (by decide)]
    rfl

theorem filter_renumber (f : Nat → Nat) (lines : List Line) :
    (lines.map (renumber f)).filter (·.kind != .comment) = (lines.filter (·.kind != .comment)).map (renumber f) := by
  rw [List.filter_map]
  rfl

theorem ofTexts_append (front back : List String) :
    ofTexts (front ++ back) = ofTexts front ++ (ofTexts back).map (renumber (· + front.length)) := by
  have late : (classifyFrom 1 back).map (renumber (· + front.length)) = classifyFrom (1 + front.length) back :=
    map_renumber_classifyFrom 1 front.length fun _ _ _ => rfl
  change (classifyFrom 1 _).filter _ = (classifyFrom 1 _).filter _ ++ ((classifyFrom 1 _).filter _).map _
  rw [← filter_renumber, late, classifyFrom_append, List.filter_append]

/-- Texts in the middle move only those behind them. -/
theorem ofTexts_between (front middle back : List String) :
    ofTexts (front ++ middle ++ back) =
      (ofTexts front).map (renumber (numberBehind front.length middle.length)) ++
        ((ofTexts middle).map (renumber (· + front.length)) ++
          ((ofTexts back).map (renumber (· + front.length))).map
            (renumber (numberBehind front.length middle.length))) := by
  have early : (classifyFrom 1 front).map (renumber (numberBehind front.length middle.length)) =
      classifyFrom (1 + 0) front :=
    map_renumber_classifyFrom 1 0 fun number _ upper => if_pos (by omega)
  have kept : (ofTexts front).map (renumber (numberBehind front.length middle.length)) = ofTexts front := by
    change ((classifyFrom 1 _).filter _).map _ = (classifyFrom 1 _).filter _
    rw [← filter_renumber, early]
  have moved : (classifyFrom (1 + front.length) back).map (renumber (numberBehind front.length middle.length)) =
      classifyFrom (1 + front.length + middle.length) back :=
    map_renumber_classifyFrom _ _ fun number lower _ => if_neg (by omega)
  have late (offset : Nat) : (classifyFrom 1 back).map (renumber (· + offset)) = classifyFrom (1 + offset) back :=
    map_renumber_classifyFrom 1 offset fun _ _ _ => rfl
  have behind : ((ofTexts back).map (renumber (· + front.length))).map
      (renumber (numberBehind front.length middle.length)) =
      (ofTexts back).map (renumber (· + (front ++ middle).length)) := by
    change (((classifyFrom 1 _).filter _).map _).map _ = ((classifyFrom 1 _).filter _).map _
    rw [← filter_renumber, ← filter_renumber, ← filter_renumber, late, late, moved, List.length_append, Nat.add_assoc]
  rw [ofTexts_append, ofTexts_append, kept, behind, List.append_assoc]

/-- Comments between other texts are left out, but the lines behind them move down. -/
theorem ofTexts_insert {front comments back : List String}
    (marked : ∀ text ∈ comments, text.toList.head? = some '#') :
    ofTexts (front ++ comments ++ back) =
      (ofTexts (front ++ back)).map (renumber (numberBehind front.length comments.length)) := by
  have dropped : ofTexts comments = [] := by
    refine List.filter_eq_nil_iff.mpr fun line member => ?_
    obtain ⟨text, among, number, rfl⟩ := exists_of_mem_classifyFrom member
    rw [kind_classify_of_hash (marked text among)]
    decide
  rw [ofTexts_between, dropped, ofTexts_append, List.map_append]
  rfl

end Line

namespace Story

theorem result_renumber {lines : List Line} (f : Nat → Nat) (classified : ∀ line ∈ lines, line.IsClassified) :
    (compile (lines.map (.renumber f))).result = (compile lines).result.mapError (.renumber f) := by
  have moved : ∀ line ∈ lines.map (Line.renumber f), line.IsClassified := by
    intro line member
    obtain ⟨original, among, rfl⟩ := List.mem_map.mp member
    exact (classified original among).renumber f
  rw [result_eq_body moved, result_eq_body classified, ← Transcript.compile_eq_body, ← Transcript.compile_eq_body,
    Transcript.compile_renumber]

/-- Comments between the texts of a story change neither its module nor what is wrong with it; only
the number of the line at fault counts them. No other use is made of a line's number, so any change
of the numbers shows in the failure alone. -/
theorem comments_transparent :
    (∀ front comments back : List String, (∀ text ∈ comments, text.toList.head? = some '#') →
      (compileTexts (front ++ comments ++ back)).result.mapError Fault.toFailure =
        ((compileTexts (front ++ back)).result.mapError Fault.toFailure).mapError
          (.renumber (Line.numberBehind front.length comments.length))) ∧
    ∀ (lines : List Line) (f : Nat → Nat), (∀ line ∈ lines, line.IsClassified) →
      (compile (lines.map (.renumber f))).result.mapError Fault.toFailure =
        ((compile lines).result.mapError Fault.toFailure).mapError (.renumber f) := by
  refine ⟨fun front comments back marked => ?_, fun lines f classified => ?_⟩
  · rw [compileTexts, Line.ofTexts_insert marked,
      result_renumber _ fun _ => Line.isClassified_of_mem_ofTexts, Fault.mapError_renumber]
    rfl
  · rw [result_renumber f classified, Fault.mapError_renumber]

/-- Two comments inside a menu do not cut it, and its second choice is found two lines further down. -/
theorem comments_transparent_menu :
    (∀ text ∈ ["# aside", "#"], text.toList.head? = some '#') ∧
    (compileTexts (["=a= A", ">b go"] ++ ["# aside", "#"] ++ [">c ?x"])).result.mapError Fault.toFailure =
      .error (.story 5 "conditional choice is missing ';'.") ∧
    (∀ line ∈ Line.classifyAll ["=a= A", "# aside"], line.IsClassified) ∧
    (compile ((Line.classifyAll ["=a= A", "# aside"]).map (.renumber (10 * ·)))).result.mapError Fault.toFailure =
      .error (.defect 20 "unhandled line type.") := by
  have marked : ∀ text ∈ ["# aside", "#"], text.toList.head? = some '#' := by decide
  have classified : ∀ line ∈ Line.classifyAll ["=a= A", "# aside"], line.IsClassified :=
    fun _ => Line.isClassified_of_mem_classifyAll
  refine ⟨marked, ?_, classified, ?_⟩
  · rw [comments_transparent.1 _ _ _ marked, compileTexts_eq_transcript]
    rfl
  · rw [comments_transparent.2 _ _ classified, result_eq_body classified]
    rfl

end Story

end StoryScript

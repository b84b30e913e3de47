import StoryScript.Proofs.Streaming

namespace StoryScript

/-- Behind its first space a line asks for a condition that no `;` closes. -/
def Line.Unfinished (line : Line) : Prop :=
  ∃ front rest asked, line.content.toList = front ++ ' ' :: rest ∧ ' ' ∉ front ∧
    Text.trimChars rest = '?' :: asked ∧ ';' ∉ asked

/-- What is wrong with a line that stands behind the lines `before`. A choice outside every node
is refused as such even if it is unfinished as well. -/
inductive Offence (before : List Line) (line : Line) : Failure → Prop
  | stray : line.kind = .comment →
      Offence before line (.defect line.number "unhandled line type.")
  | outside : line.kind = .choice → (∀ earlier ∈ before, earlier.kind ≠ .header) →
      Offence before line (.story line.number "Choice (>) found before the beginning of a node.")
  | unfinished : line.kind = .choice → (∃ earlier ∈ before, earlier.kind = .header) → line.Unfinished →
      Offence before line (.story line.number "conditional choice is missing ';'.")

/-- No line offends behind the lines before it. -/
def Clean (lines : List Line) : Prop :=
  ∀ before line after failure, lines = before ++ line :: after → ¬ Offence before line failure

/-- The first line that offends does so with `failure`. -/
def FirstOffence (lines : List Line) (failure : Failure) : Prop :=
  ∃ before line after, lines = before ++ line :: after ∧ Clean before ∧ Offence before line failure

/-- Lines that do not offend behind clean ones are clean with them. -/
theorem Clean.append {front back : List Line} (clean : Clean front)
    (later : ∀ line ∈ back, line.kind ≠ .comment ∧
      (line.kind = .choice → (∃ earlier ∈ front, earlier.kind = .header) ∧ ¬ line.Unfinished)) :
    Clean (front ++ back) := by
  have inoffensive (early : List Line) {line : Line} (member : line ∈ back) (failure : Failure) :
      ¬ Offence (front ++ early) line failure := by
    intro offence
    obtain ⟨proper, offers⟩ := later line member
    cases offence with
    | stray kind => exact proper kind
    | outside kind none =>
      obtain ⟨⟨earlier, before, header⟩, _⟩ := offers kind
      exact none earlier (List.mem_append_left early before) header
    | unfinished kind _ unfinished => exact (offers kind).2 unfinished
  intro before line after failure shape offence
  rcases List.append_eq_append_iff.mp shape with ⟨early, rfl, rfl⟩ | ⟨more, rfl, rest⟩
  · exact inoffensive early (by simp) failure offence
  · cases more with
    | nil =>
      obtain rfl : line :: after = back := rest
      refine inoffensive [] List.mem_cons_self failure ?_
      simpa using offence
    | cons head tail =>
      obtain ⟨rfl, _⟩ := List.cons.inj rest
      exact clean before line tail failure rfl offence

theorem Offence.line?_eq {before : List Line} {line : Line} {failure : Failure}
    (offence : Offence before line failure) : failure.line? = some line.number := by
  cases offence <;> rfl

theorem Offence.isDefect_eq {before : List Line} {line : Line} {failure : Failure}
    (offence : Offence before line failure) : failure.isDefect = (line.kind == .comment) := by
  cases offence with
  | stray kind => simp [Failure.isDefect, kind]
  | outside kind _ => simp [Failure.isDefect, kind]
  | unfinished kind _ _ => simp [Failure.isDefect, kind]

theorem Choice.Form.read?_eq_none_iff {text : List Char} :
    Form.read? text = none ↔ ∃ asked, text = '?' :: asked ∧ ';' ∉ asked := by
  unfold Form.read?
  split
  · simp
  · rename_i asked
    simp [Text.cutAt?_eq_none_iff]
  · rename_i asks
    have other : ∀ asked, text ≠ '?' :: asked := fun asked same => asks asked same
    split <;> simp [other]

/-- Only an unfinished condition keeps a choice from being read. -/
theorem Choice.read?_eq_none_iff {line : Line} {rest : List Char} (marked : line.content.toList = '>' :: rest) :
    Choice.read? line.content = none ↔ line.Unfinished := by
  unfold Choice.read? Line.Unfinished Text.cutAt
  rw [marked, List.drop_one, List.tail_cons]
  cases cut : Text.cutAt? ' ' rest with
  | none =>
    have spaceless := Text.cutAt?_eq_none_iff.mp cut
    refine iff_of_false (by simp [Form.read?]) ?_
    rintro ⟨front, tail, _, shape, _⟩
    have member : ' ' ∈ '>' :: rest := shape ▸ by simp
    exact spaceless (by simpa using member)
  | some parts =>
    obtain ⟨target, text⟩ := parts
    obtain ⟨rfl, free⟩ := Text.cutAt?_eq_some_iff.mp cut
    simp only [Option.getD_some, Option.map_eq_none_iff, Form.read?_eq_none_iff]
    constructor
    · rintro ⟨asked, trimmed, absent⟩
      exact ⟨'>' :: target, text, asked, rfl, by simpa using free, trimmed, absent⟩
    · rintro ⟨front, tail, asked, shape, absent, trimmed, unclosed⟩
      have here : Text.cutAt? ' ' ('>' :: target ++ ' ' :: text) = some ('>' :: target, text) :=
        Text.cutAt?_eq_some_iff.mpr ⟨rfl, by simpa using free⟩
      have there : Text.cutAt? ' ' ('>' :: target ++ ' ' :: text) = some (front, tail) :=
        Text.cutAt?_eq_some_iff.mpr ⟨shape, absent⟩
      rw [here] at there
      cases there
      exact ⟨asked, trimmed, unclosed⟩

namespace Transcript

theorem addition_eq_error_iff {t : Transcript} {line : Line} {fault : Fault} :
    t.addition line = .error fault ↔
      line.kind = .comment ∧ ⟨line.number, .strayComment⟩ = fault ∨
      line.kind = .choice ∧ t.inNode = false ∧ ⟨line.number, .choiceOutsideNode⟩ = fault ∨
      line.kind = .choice ∧ t.inNode = true ∧ Choice.read? line.content = none ∧
        ⟨line.number, .unfinishedCondition⟩ = fault := by
  unfold addition
  cases kind : line.kind with
  | comment => simp
  | choice =>
    cases inside : t.inNode with
    | false => simp
    | true =>
      cases Choice.read? line.content with
      | none => simp
      | some choice => by_cases continued : t.pending = .menu <;> simp [continued]
  | narrative =>
    by_cases empty : line.isBlank = true
    · simp [empty]
    · by_cases continued : t.pending = .paragraph <;> simp [empty, continued]
  | code => simp
  | command => simp
  | header => simp

/-- Inside a node exactly behind a header, the machine refuses exactly the lines that offend. -/
theorem addition_fails_iff {t : Transcript} {before : List Line} {line : Line} {failure : Failure}
    (classified : line.IsClassified) (level : t.inNode = before.any (·.kind == .header)) :
    (∃ fault, t.addition line = .error fault ∧ fault.toFailure = failure) ↔ Offence before line failure := by
  have headed : t.inNode = true ↔ ∃ earlier ∈ before, earlier.kind = .header := by simp [level]
  have headless : t.inNode = false ↔ ∀ earlier ∈ before, earlier.kind ≠ .header := by simp [level]
  simp only [addition_eq_error_iff]
  constructor
  · rintro ⟨fault, ⟨kind, rfl⟩ | ⟨kind, outside, rfl⟩ | ⟨kind, inside, unread, rfl⟩, rfl⟩
    · exact .stray kind
    · exact .outside kind (headless.mp outside)
    · obtain ⟨rest, marked⟩ := classified.choice_content kind
      exact .unfinished kind (headed.mp inside) ((Choice.read?_eq_none_iff marked).mp unread)
  · intro offence
    cases offence with
    | stray kind => exact ⟨_, Or.inl ⟨kind, rfl⟩, rfl⟩
    | outside kind none => exact ⟨_, Or.inr (Or.inl ⟨kind, headless.mpr none, rfl⟩), rfl⟩
    | unfinished kind behind unfinished =>
      obtain ⟨rest, marked⟩ := classified.choice_content kind
      have unread := (Choice.read?_eq_none_iff marked).mpr unfinished
      exact ⟨_, Or.inr (Or.inr ⟨kind, headed.mpr behind, unread, rfl⟩), rfl⟩

theorem run_eq_error_iff {t : Transcript} {lines : List Line} {fault : Fault} :
    t.run lines = .error fault ↔
      ∃ before line after u, lines = before ++ line :: after ∧ t.run before = .ok u ∧
        u.addition line = .error fault := by
  constructor
  · intro failed
    induction lines generalizing t with
    | nil => cases failed
    | cons line rest ih =>
      rw [run_cons] at failed
      cases added : t.addition line with
      | error other =>
        rw [step, added] at failed
        cases failed
        exact ⟨[], line, rest, t, rfl, rfl, added⟩
      | ok text =>
        have stepped : ∃ next, t.step line = .ok next := ⟨_, by rw [step, added]; rfl⟩
        obtain ⟨next, stepped⟩ := stepped
        rw [stepped] at failed
        obtain ⟨before, other, after, u, rfl, ran, refused⟩ := ih failed
        exact ⟨line :: before, other, after, u, rfl, by rw [run_cons, stepped]; exact ran, refused⟩
  · rintro ⟨before, line, after, u, rfl, ran, refused⟩
    rw [run_append, ran]
    change u.run (line :: after) = _
    rw [run_cons, step, refused]
    rfl

section Fresh

variable {lines : List Line} (classified : ∀ line ∈ lines, line.IsClassified)

include classified

theorem run_blank_fails_iff {failure : Failure} :
    (∃ fault, (blank false .global).run lines = .error fault ∧ fault.toFailure = failure) ↔
      ∃ before line after, lines = before ++ line :: after ∧
        (∃ u, (blank false .global).run before = .ok u) ∧ Offence before line failure := by
  have level {before : List Line} {u : Transcript} (ran : (blank false .global).run before = .ok u) :
      u.inNode = before.any (·.kind == .header) := (run_state ran).2.1
  simp only [run_eq_error_iff]
  constructor
  · rintro ⟨fault, ⟨before, line, after, u, shape, ran, refused⟩, same⟩
    have member : line ∈ lines := shape ▸ by simp
    exact ⟨before, line, after, shape, ⟨u, ran⟩,
      (addition_fails_iff (classified line member) (level ran)).mp ⟨fault, refused, same⟩⟩
  · rintro ⟨before, line, after, shape, ⟨u, ran⟩, offence⟩
    have member : line ∈ lines := shape ▸ by simp
    obtain ⟨fault, refused, same⟩ := (addition_fails_iff (classified line member) (level ran)).mpr offence
    exact ⟨fault, ⟨before, line, after, u, shape, ran, refused⟩, same⟩

theorem run_blank_succeeds_iff : (∃ u, (blank false .global).run lines = .ok u) ↔ Clean lines := by
  constructor
  · rintro ⟨u, ran⟩ before line after failure shape offence
    have front : ∃ v, (blank false .global).run before = .ok v := by
      rw [shape, run_append] at ran
      cases first : (blank false .global).run before with
      | error fault => rw [first] at ran; cases ran
      | ok v => exact ⟨v, rfl⟩
    obtain ⟨fault, failed, _⟩ := (run_blank_fails_iff classified).mpr ⟨before, line, after, shape, front, offence⟩
    rw [ran] at failed
    cases failed
  · intro clean
    cases ran : (blank false .global).run lines with
    | ok u => exact ⟨u, rfl⟩
    | error fault =>
      obtain ⟨before, line, after, shape, _, offence⟩ := (run_blank_fails_iff classified).mp ⟨fault, ran, rfl⟩
      exact absurd offence (clean before line after _ shape)

end Fresh

end Transcript

/-- Every line of a story comes from one of the texts and carries its place among them. -/
theorem Line.ofTexts_split {texts : List String} {before after : List Line} {line : Line}
    (shape : ofTexts texts = before ++ line :: after) :
    ∃ front text back, texts = front ++ text :: back ∧ before = ofTexts front ∧
      line = classify text (front.length + 1) := by
  obtain ⟨kept, others, split, rfl, rest⟩ := List.filter_eq_append_iff.mp shape
  obtain ⟨skipped, last, rfl, comments, _, _⟩ := List.filter_eq_cons_iff.mp rest
  rw [← List.append_assoc] at split
  obtain ⟨numbered, more, parts, early, late⟩ := List.map_eq_append_iff.mp split
  obtain ⟨⟨text, number⟩, back, rfl, same, _⟩ := List.map_eq_cons_iff.mp late
  obtain ⟨front, tail, rfl, rfl, numbers⟩ := List.zipIdx_eq_append_iff.mp parts
  cases tail with
  | nil => cases numbers
  | cons other tail =>
    rw [List.zipIdx_cons] at numbers
    cases numbers
    refine ⟨front, text, tail, rfl, ?_, by rw [← same, Nat.add_comm]⟩
    have dropped : skipped.filter (·.kind != .comment) = [] := List.filter_eq_nil_iff.mpr comments
    rw [ofTexts, classifyAll, early, List.filter_append, dropped, List.append_nil]

namespace Story

theorem result_eq_error_iff {lines : List Line} (classified : ∀ line ∈ lines, line.IsClassified)
    {fault : Fault} :
    (compile lines).result = .error fault ↔ (Transcript.blank false .global).run lines = .error fault := by
  rw [result_eq_body classified, Transcript.body]
  cases (Transcript.blank false .global).run lines <;> simp [Except.map]

theorem clean_of_compiled {lines : List Line} {text : String}
    (classified : ∀ line ∈ lines, line.IsClassified) (compiled : (compile lines).result = .ok text) :
    Clean lines := by
  rw [← Transcript.run_blank_succeeds_iff classified]
  cases ran : (Transcript.blank false .global).run lines with
  | error fault =>
    rw [(result_eq_error_iff classified).mpr ran] at compiled
    cases compiled
  | ok u => exact ⟨u, rfl⟩

theorem failure_iff {lines : List Line} (classified : ∀ line ∈ lines, line.IsClassified)
    {failure : Failure} :
    (compile lines).result.mapError Fault.toFailure = .error failure ↔ FirstOffence lines failure := by
  have opened : (compile lines).result.mapError Fault.toFailure = .error failure ↔
      ∃ fault, (compile lines).result = .error fault ∧ fault.toFailure = failure := by
    cases (compile lines).result with
    | error fault =>
      change Except.error fault.toFailure = .error failure ↔ _
      simp
    | ok text =>
      change Except.ok text = .error failure ↔ _
      simp
  simp only [opened, result_eq_error_iff classified, Transcript.run_blank_fails_iff classified]
  unfold FirstOffence
  constructor
  · rintro ⟨before, line, after, rfl, ran, offence⟩
    have early : ∀ other ∈ before, other.IsClassified := fun other member =>
      classified other (List.mem_append_left _ member)
    exact ⟨before, line, after, rfl, (Transcript.run_blank_succeeds_iff early).mp ran, offence⟩
  · rintro ⟨before, line, after, rfl, clean, offence⟩
    have early : ∀ other ∈ before, other.IsClassified := fun other member =>
      classified other (List.mem_append_left _ member)
    exact ⟨before, line, after, rfl, (Transcript.run_blank_succeeds_iff early).mpr clean, offence⟩

/-- A story has no module exactly when some line offends. The first such line decides the failure,
and there is no failure of another kind. Comments are left out of raw texts but counted, so no raw
text is refused as a defect and the failure gives the place of its text among all of them. -/
theorem fails_at_first_offence :
    (∀ lines : List Line, (∀ line ∈ lines, line.IsClassified) →
      ((∃ fault, (compile lines).result = .error fault) ↔
        ∃ before line after failure, lines = before ++ line :: after ∧ Offence before line failure) ∧
      ∀ failure, (compile lines).result.mapError Fault.toFailure = .error failure ↔
        FirstOffence lines failure) ∧
    ∀ (texts : List String) (failure : Failure),
      (compileTexts texts).result.mapError Fault.toFailure = .error failure →
        failure.isDefect = false ∧
        ∃ before text after, texts = before ++ text :: after ∧ failure.line? = some (before.length + 1) ∧
          Clean (Line.ofTexts before) ∧
          Offence (Line.ofTexts before) (Line.classify text (before.length + 1)) failure := by
  refine ⟨fun lines classified => ⟨?_, fun failure => failure_iff classified⟩, fun texts failure failed => ?_⟩
  · constructor
    · rintro ⟨fault, failed⟩
      have failed : (compile lines).result.mapError Fault.toFailure = .error fault.toFailure := by
        rw [failed]
        rfl
      obtain ⟨before, line, after, shape, _, offence⟩ := (failure_iff classified).mp failed
      exact ⟨before, line, after, _, shape, offence⟩
    · rintro ⟨before, line, after, failure, shape, offence⟩
      cases result : (compile lines).result with
      | error fault => exact ⟨fault, rfl⟩
      | ok text => exact absurd offence (clean_of_compiled classified result before line after failure shape)
  · have classified : ∀ line ∈ Line.ofTexts texts, line.IsClassified := fun _ =>
      Line.isClassified_of_mem_ofTexts
    obtain ⟨before, line, after, shape, clean, offence⟩ := (failure_iff classified).mp failed
    have kind : line.kind ≠ .comment :=
      Line.not_comment_of_mem_ofTexts (shape ▸ List.mem_append_right before List.mem_cons_self)
    obtain ⟨front, text, back, split, rfl, rfl⟩ := Line.ofTexts_split shape
    refine ⟨?_, front, text, back, split, offence.line?_eq, clean, offence⟩
    rw [offence.isDefect_eq]
    simpa using kind

/-- Handed on, the comment is a defect; left out of the texts, it still counts. -/
theorem fails_at_first_offence_comment :
    (∀ line ∈ Line.classifyAll ["=a= A", "# aside", ">b ?x"], line.IsClassified) ∧
    (compile (Line.classifyAll ["=a= A", "# aside", ">b ?x"])).result.mapError Fault.toFailure =
      .error (.defect 2 "unhandled line type.") ∧
    FirstOffence (Line.classifyAll ["=a= A", "# aside", ">b ?x"]) (.defect 2 "unhandled line type.") ∧
    (compileTexts ["=a= A", "# aside", ">b ?x"]).result.mapError Fault.toFailure =
      .error (.story 3 "conditional choice is missing ';'.") := by
  have classified : ∀ line ∈ Line.classifyAll ["=a= A", "# aside", ">b ?x"], line.IsClassified :=
    fun _ => Line.isClassified_of_mem_classifyAll
  have failed : (compile (Line.classifyAll ["=a= A", "# aside", ">b ?x"])).result.mapError Fault.toFailure =
      .error (.defect 2 "unhandled line type.") := by
    rw [result_eq_body classified]
    rfl
  refine ⟨classified, failed, ((fails_at_first_offence.1 _ classified).2 _).mp failed, ?_⟩
  rw [compileTexts_eq_transcript]
  rfl

end Story

end StoryScript

import StoryScript.Proofs.Appends

namespace StoryScript

/-- Whether the loop of a level goes on with the lines that are left. -/
def Level.goesOn : Level → List Line → Bool
  | _, [] => false
  | .topLevel, _ :: _ => true
  | .inNode, line :: _ => line.kind != .header

theorem Level.ne_nil_of_goesOn {level : Level} {lines : List Line} (goes : level.goesOn lines = true) : lines ≠ [] := by
  rintro rfl
  cases level <;> cases goes

namespace Emitter

/-- Compiles the block that the first line leads and hands back the lines behind it. -/
def dispatch (level : Level) : List Line → EmitM (List Line)
  | [] => return []
  | lead :: rest => do
    emitAt level (Block.cut lead rest).1
    return (Block.cut lead rest).2

/-- What is handed back does not depend on how the block is compiled. -/
theorem dispatch_eq_ok {level : Level} {lead : Line} {rest left : List Line} {e next : Emitter}
    (ran : (dispatch level (lead :: rest)).run e = .ok left next) :
    left = (Block.cut lead rest).2 ∧ (emitAt level (Block.cut lead rest).1).run e = .ok () next := by
  cases compiled : (emitAt level (Block.cut lead rest).1).run e with
  | error fault last => cases (run_bind_of_error compiled).symm.trans ran
  | ok _ last =>
    cases (run_bind_of_ok compiled).symm.trans ran
    exact ⟨rfl, rfl⟩

/-- Something is taken whenever there is something to take. -/
theorem dispatch_progress {level : Level} {lines left : List Line} {e next : Emitter} (full : lines ≠ [])
    (ran : (dispatch level lines).run e = .ok left next) : left.length < lines.length := by
  cases lines with
  | nil => exact absurd rfl full
  | cons lead rest =>
    obtain ⟨rfl, _⟩ := dispatch_eq_ok ran
    exact Block.cut_rest_length lead rest

theorem dispatch_header {header : Line} (rest : List Line) (kind : header.kind = .header) :
    dispatch .topLevel (header :: rest) =
      (do openNode header; let left ← loop .inNode rest; emit .closeNode; return left) := by
  simp only [dispatch, Block.cut_header rest kind, emitAt, emitOuter_header _ kind, loop, bind_assoc, pure_bind]

theorem dispatch_before_header (level : Level) (lead : Line) (rest : List Line) {more : List Line}
    (headed : ∀ line ∈ more.head?, line.kind = .header) :
    dispatch level ((Block.cut lead rest).1.lines ++ more) =
      (do emitAt level (Block.cut lead rest).1; return more) := by
  change dispatch level (lead :: ((Block.cut lead rest).1.more ++ more)) = _
  rw [dispatch, Block.cut_before_header lead rest headed]

theorem Appends.dispatch (level : Level) (lines : List Line) : Appends (dispatch level lines) := by
  cases lines with
  | nil => exact .pure []
  | cons lead rest => exact (emitAt level _).bind fun _ => .pure _

theorem loop_of_goesOn {level : Level} {lines : List Line} (goes : level.goesOn lines = true) :
    loop level lines = (do let left ← dispatch level lines; loop level left) := by
  cases lines with
  | nil => exact absurd rfl (Level.ne_nil_of_goesOn goes)
  | cons lead rest =>
    cases level with
    | topLevel => simp only [loop, dispatch, emitStory_cons, emitAt, bind_assoc, pure_bind]
    | inNode =>
      have plain : lead.kind ≠ .header := bne_iff_ne.mp goes
      rw [loop_inNode_block rest plain, dispatch, bind_assoc]
      rfl

theorem loop_of_stopped {level : Level} {lines : List Line} (stopped : level.goesOn lines = false) :
    loop level lines = pure lines := by
  cases level with
  | topLevel =>
    cases lines with
    | nil => rw [loop, emitStory, Block.ofLines_nil]; rfl
    | cons lead rest => cases stopped
  | inNode =>
    refine loop_inNode_of_headed fun line begins => ?_
    cases lines with
    | nil => cases begins
    | cons lead rest =>
      cases begins
      exact bne_eq_false_iff_eq.mp stopped

/-- The turns of the loop of a level from some lines on, and how many they are: one dispatch after the
other while the loop goes on. A loop that ran forever would have no turns. -/
inductive Turns (level : Level) :
    List Line → Emitter → Nat → EStateM.Result Fault Emitter (List Line) → Prop
  | done {lines e} : level.goesOn lines = false → Turns level lines e 0 (.ok lines e)
  | refused {lines e fault last} : level.goesOn lines = true →
      (dispatch level lines).run e = .error fault last → Turns level lines e 1 (.error fault last)
  | next {lines e left next count result} : level.goesOn lines = true →
      (dispatch level lines).run e = .ok left next → Turns level left next count result →
      Turns level lines e (count + 1) result

namespace Turns

variable {level : Level} {lines : List Line} {e : Emitter} {count : Nat}
  {result : EStateM.Result Fault Emitter (List Line)}

theorem run_eq (turns : Turns level lines e count result) : (loop level lines).run e = result := by
  induction turns with
  | done stopped => rw [loop_of_stopped stopped, EStateM.run_pure]
  | refused goes ran => rw [loop_of_goesOn goes, run_bind_of_error ran]
  | next goes ran _ ih => rw [loop_of_goesOn goes, run_bind_of_ok ran, ih]

theorem count_le (turns : Turns level lines e count result) : count ≤ lines.length := by
  induction turns with
  | done _ => exact Nat.zero_le _
  | refused goes _ => exact List.length_pos_iff.mpr (Level.ne_nil_of_goesOn goes)
  | next goes ran _ ih =>
    have shorter := dispatch_progress (Level.ne_nil_of_goesOn goes) ran
    omega

end Turns

/-- Since every turn takes something, the turns come to an end. -/
theorem exists_turns (level : Level) (lines : List Line) (e : Emitter) :
    ∃ count result, Turns level lines e count result := by
  cases goes : level.goesOn lines with
  | false => exact ⟨0, _, .done goes⟩
  | true =>
    cases ran : (dispatch level lines).run e with
    | error fault last => exact ⟨1, _, .refused goes ran⟩
    | ok left next =>
      have shorter := dispatch_progress (Level.ne_nil_of_goesOn goes) ran
      obtain ⟨count, result, later⟩ := exists_turns level left next
      exact ⟨count + 1, result, .next goes ran later⟩
termination_by lines.length

/-- A dispatch that succeeds takes some of the lines off the front, a whole node where a header leads.
What it adds, the scope it leaves and the lines it hands back, or the fault it stops with, follow from
the scope in force, whatever was emitted before. What it took it takes alike where another header
follows, or nothing. So the loop of a level always comes to an end, also the one that runs while a node
is dispatched, and does what the compiler does with the lines. -/
theorem dispatch_advances :
    (∀ (level : Level) (lines left : List Line) (e next : Emitter), lines ≠ [] →
      (dispatch level lines).run e = .ok left next →
      ∃ (taken : List Line) (own : Emitter), lines = taken ++ left ∧ left.length < lines.length ∧
        (∀ lead ∈ lines.head?, lead.kind = .header → ∀ line ∈ left.head?, line.kind = .header) ∧
        ∀ other : Emitter, other.scope = e.scope →
          (dispatch level lines).run other = .ok left (own.behind other) ∧
          (own.behind other).text = other.text ++ own.text ∧
          ∀ more, (∀ line ∈ more.head?, line.kind = .header) →
            (dispatch level (taken ++ more)).run other = .ok more (own.behind other)) ∧
    (∀ (level : Level) (lines : List Line) (e last : Emitter) (fault : Fault),
      (dispatch level lines).run e = .error fault last →
      ∃ own : Emitter, ∀ other, other.scope = e.scope →
        (dispatch level lines).run other = .error fault (own.behind other)) ∧
    (∀ (header : Line) (rest : List Line), header.kind = .header →
      dispatch .topLevel (header :: rest) =
        (do openNode header; let left ← loop .inNode rest; emit .closeNode; return left)) ∧
    ∀ (level : Level) (lines : List Line) (e : Emitter),
      (∃ count, Turns level lines e count ((loop level lines).run e)) ∧
      ∀ count result, Turns level lines e count result →
        count ≤ lines.length ∧ (loop level lines).run e = result := by
  refine ⟨?_, ?_, fun header rest kind => dispatch_header rest kind, ?_⟩
  · intro level lines left e next full ran
    have shorter := dispatch_progress full ran
    cases lines with
    | nil => exact absurd rfl full
    | cons lead rest =>
      obtain ⟨rfl, compiled⟩ := dispatch_eq_ok ran
      obtain ⟨own, alike⟩ := (Appends.emitAt level _).of_ok compiled
      refine ⟨(Block.cut lead rest).1.lines, own, (Block.cut_lines lead rest).symm, shorter, ?_, fun other same => ?_⟩
      · intro header begins kind
        cases begins
        exact Block.cut_headed rest kind
      · refine ⟨run_bind_of_ok (alike other same), text_behind own other, fun more headed => ?_⟩
        -- The same block is cut out in front of the other lines, so the same is added for it.
        rw [dispatch_before_header level lead rest headed]
        exact run_bind_of_ok (alike other same)
  · intro level lines e last fault failed
    exact (Appends.dispatch level lines).of_error failed
  · intro level lines e
    refine ⟨?_, fun count result turns => ⟨turns.count_le, turns.run_eq⟩⟩
    obtain ⟨count, result, turns⟩ := exists_turns level lines e
    exact ⟨count, turns.run_eq ▸ turns⟩

/-- A node with a choice and a gap is compiled behind a paragraph as at the beginning, and in front of
the end as in front of another node. Its loop has two turns. Outside of a node the choice is refused. -/
theorem dispatch_advances_over_node :
    let header := Line.classify "=a= A" 1
    let body := [Line.classify ">b go" 2, Line.classify "" 3]
    let other := Line.classify "=b= B" 4
    let cave := Emitter.inScope ⟨"cave"⟩
    let later : Emitter := { cave with statements := #[.say ["It is dark."]] }
    ∃ opened closed next own stray : Emitter,
      Turns .inNode (body ++ [other]) opened 2 (.ok [other] closed) ∧
      (dispatch .topLevel (header :: body ++ [other])).run cave = .ok [other] next ∧
      (dispatch .topLevel (header :: body ++ [other])).run later = .ok [other] (own.behind later) ∧
      (dispatch .topLevel (header :: body)).run later = .ok [] (own.behind later) ∧
      (dispatch .topLevel body).run cave = .error ⟨2, .choiceOutsideNode⟩ stray ∧
      ∃ own : Emitter, (dispatch .topLevel body).run later = .error ⟨2, .choiceOutsideNode⟩ (own.behind later) := by
  intro header body other cave later
  obtain ⟨advances, refuses, opens, ends⟩ := dispatch_advances
  obtain ⟨opened, closed, begun, turns⟩ : ∃ opened closed, (openNode header).run cave = .ok () opened ∧
      Turns .inNode (body ++ [other]) opened 2 (.ok [other] closed) := by
    dsimp only [header, body, other, cave, List.cons_append, List.nil_append]
    exact ⟨_, _, rfl, .next rfl rfl (.next rfl rfl (.done rfl))⟩
  obtain ⟨next, ran⟩ : ∃ next, (dispatch .topLevel (header :: body ++ [other])).run cave = .ok [other] next := by
    rw [List.cons_append, opens header _ rfl, run_bind_of_ok begun]
    exact ⟨_, run_bind_of_ok ((ends _ _ _).2 _ _ turns).2⟩
  obtain ⟨taken, own, split, _, _, alike⟩ := advances _ _ _ _ _ (List.cons_ne_nil _ _) ran
  obtain rfl : header :: body = taken := List.append_cancel_right split
  obtain ⟨behind, _, ahead⟩ := alike later rfl
  have alone := ahead [] (by simp)
  rw [List.append_nil] at alone
  obtain ⟨stray, failed⟩ : ∃ stray, (dispatch .topLevel body).run cave = .error ⟨2, .choiceOutsideNode⟩ stray :=
    ⟨_, rfl⟩
  obtain ⟨late, refused⟩ := refuses _ _ _ _ _ failed
  exact ⟨opened, closed, next, own, stray, turns, ran, behind, alone, failed, late, refused later rfl⟩

end Emitter

end StoryScript

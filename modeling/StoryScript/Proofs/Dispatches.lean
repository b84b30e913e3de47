import StoryScript.Proofs.BlockEnds
import StoryScript.Proofs.FirstOffence
import StoryScript.Proofs.Leads

namespace StoryScript

open Emitter Story

/-- A run up to a station, with the lines that each of its steps has taken. What takes lines announces
the first of them, and nothing else; closing a node takes none and announces none. -/
inductive Trail (lines : List Line) : List (List Line) → Station → Prop
  | start : Trail lines [] (.start lines)
  | takes {taken s t lead more} : Trail lines taken s → Step s t → s.rest = lead :: more ++ t.rest →
      t.emitter.dispatches =
        s.emitter.dispatches ++ [.dispatching lead.number lead.kind (.behind taken.flatten lead)] →
      Trail lines (taken ++ [lead :: more]) t
  | leaves {taken s t} : Trail lines taken s → Step s t → s.rest = t.rest →
      t.emitter.dispatches = s.emitter.dispatches → Trail lines taken t

theorem Level.behind_header (before : List Line) {line : Line} (kind : line.kind = .header) :
    Level.behind before line = .topLevel :=
  if_pos (Or.inl kind)

/-- What holds at a station of a run that has taken the lines `done`. -/
structure Station.Behind (done : List Line) (s : Station) : Prop where
  announced : s.emitter.dispatches = announcements done
  leads : ∀ next ∈ s.rest.head?, next.leads done = true
  inside : s.level = .inNode → ∃ earlier ∈ done, earlier.kind = .header
  outside : s.level = .topLevel →
    (∀ earlier ∈ done, earlier.kind ≠ .header) ∨ ∀ next ∈ s.rest.head?, next.kind = .header
  clean : Clean done

namespace Station.Behind

section Block

variable {done : List Line} {level : Level} {lead : Line} {rest : List Line} {e : Emitter}
  (behind : Behind done ⟨level, lead :: rest, e⟩) (plain : lead.kind ≠ .header)

include behind plain

theorem level_eq : Level.behind done lead = level := by
  cases level with
  | inNode =>
    obtain ⟨earlier, member, header⟩ := behind.inside rfl
    refine if_neg fun headless => ?_
    rcases headless with kind | none
    · exact plain kind
    · exact none earlier member header
  | topLevel =>
    rcases behind.outside rfl with none | headed
    · exact if_pos (Or.inr none)
    · exact absurd (headed lead rfl) plain

/-- Any part of a block that begins with its lead is announced by its lead alone. -/
theorem announcements_part {part more : List Line} (split : (Block.cut lead rest).1.lines = lead :: part ++ more) :
    announcements (done ++ lead :: part) = announcements done ++ [.dispatching lead.number lead.kind level] := by
  have coherent := Block.coherent_cut rest plain
  rw [split] at coherent
  rw [announcements_segment (behind.leads lead rfl) coherent.left_of_append, behind.level_eq plain]

theorem block {next : Emitter} (classified : ∀ line ∈ (Block.cut lead rest).1.lines, line.IsClassified)
    (ran : (emitAt level (Block.cut lead rest).1).run e = .ok () next) :
    Behind (done ++ (Block.cut lead rest).1.lines) ⟨level, (Block.cut lead rest).2, next⟩ := by
  obtain ⟨ends, announced⟩ := emitAt_ends level rest e plain
  rw [ran] at ends announced
  have same : ∀ line ∈ (Block.cut lead rest).1.lines, line.kind = lead.kind := fun _ => Block.kind_of_mem_cut plain
  cases ends with
  | done proper offers =>
    refine ⟨?_, ?_, fun inner => ?_, fun outer => ?_, ?_⟩
    · have whole := behind.announcements_part plain (List.append_nil _).symm
      exact (announced.trans (congrArg (· ++ _) behind.announced)).trans whole.symm
    · intro next begins
      obtain ⟨last, atLast⟩ : ∃ last, (Block.cut lead rest).1.lines.getLast? = some last :=
        ⟨_, List.getLast?_eq_some_getLast (List.cons_ne_nil _ _)⟩
      exact Line.leads_append atLast (Block.leadsAfter_cut rest plain proper last atLast next begins)
    · obtain ⟨earlier, member, header⟩ := behind.inside inner
      exact ⟨earlier, List.mem_append_left _ member, header⟩
    · rcases behind.outside outer with none | headed
      · refine Or.inl (List.forall_mem_append.mpr ⟨none, fun line member => ?_⟩)
        rw [same line member]
        exact plain
      · exact absurd (headed lead rfl) plain
    · refine behind.clean.append fun line member => ⟨same line member ▸ proper, fun kind => ?_⟩
      obtain ⟨inner, choices, read⟩ := offers ((same line member).symm.trans kind)
      obtain ⟨_, marked⟩ := (classified line member).choice_content kind
      exact ⟨behind.inside inner, fun unfinished =>
        Line.read_of_mapM read line member ((Choice.read?_eq_none_iff marked).mpr unfinished)⟩

/-- A block is refused at the first of its lines that offends, and is announced if not before. -/
theorem refused {fault : Fault} {last : Emitter}
    (classified : ∀ line ∈ (Block.cut lead rest).1.lines, line.IsClassified)
    (ran : (emitAt level (Block.cut lead rest).1).run e = .error fault last) :
    ∃ early line late, lead :: rest = early ++ line :: late ∧ Clean (done ++ early) ∧
      Offence (done ++ early) line fault.toFailure ∧ last.dispatches = announcements (done ++ early ++ [line]) := by
  obtain ⟨ends, announced⟩ := emitAt_ends level rest e plain
  rw [ran] at ends announced
  have parts := Block.cut_lines lead rest
  have told (part more : List Line) (split : (Block.cut lead rest).1.lines = lead :: part ++ more) :
      last.dispatches = announcements (done ++ lead :: part) := by
    rw [behind.announcements_part plain split, ← behind.announced]
    exact announced
  have first : last.dispatches = announcements (done ++ [] ++ [lead]) := by
    rw [List.append_nil]
    exact told [] _ rfl
  cases ends with
  | stray kind => exact ⟨[], lead, rest, rfl, by simpa using behind.clean, .stray kind, first⟩
  | outside kind outer =>
    refine ⟨[], lead, rest, rfl, by simpa using behind.clean, .outside kind ?_, first⟩
    rcases behind.outside outer with none | headed
    · simpa using none
    · exact absurd (headed lead rfl) plain
  | unread kind inner failed =>
    obtain ⟨early, line, late, split, read, unread, rfl⟩ := Line.unread_of_mapM failed
    have offers : ∀ other ∈ early ++ line :: late, other.kind = .choice := fun other member =>
      (Block.kind_of_mem_cut plain (split ▸ member)).trans kind
    have marked {other : Line} (member : other ∈ early ++ line :: late) :=
      (classified other (split ▸ member)).choice_content (offers other member)
    refine ⟨early, line, late ++ (Block.cut lead rest).2, ?_, ?_, ?_, ?_⟩
    · rw [← parts, split, List.append_assoc, List.cons_append]
    · refine behind.clean.append fun other member => ?_
      have within : other ∈ early ++ line :: late := List.mem_append_left _ member
      obtain ⟨_, content⟩ := marked within
      refine ⟨by simp [offers other within], fun _ => ⟨behind.inside inner, fun unfinished => ?_⟩⟩
      exact read other member ((Choice.read?_eq_none_iff content).mpr unfinished)
    · have here : line ∈ early ++ line :: late := by simp
      obtain ⟨_, content⟩ := marked here
      obtain ⟨earlier, member, header⟩ := behind.inside inner
      exact .unfinished (offers line here) ⟨earlier, List.mem_append_left _ member, header⟩
        ((Choice.read?_eq_none_iff content).mp unread)
    · -- Up to the unread choice the block is a part of it that begins with its lead.
      obtain ⟨part, begins⟩ : ∃ part, early ++ [line] = lead :: part := by
        cases early with
        | nil =>
          have same : lead = line := (List.cons.inj split).1
          exact ⟨[], by rw [same]; rfl⟩
        | cons head tail =>
          have same : lead = head := (List.cons.inj split).1
          exact ⟨tail ++ [line], by rw [same]; rfl⟩
      rw [List.append_assoc, begins]
      refine told part late ?_
      rw [split, ← begins, List.append_assoc]
      rfl

end Block

theorem enter {done rest : List Line} {header : Line} {e next : Emitter}
    (behind : Behind done ⟨.topLevel, header :: rest, e⟩) (kind : header.kind = .header)
    (announced : next.dispatches = e.dispatches ++ [.dispatching header.number header.kind .topLevel]) :
    Behind (done ++ [header]) ⟨.inNode, rest, next⟩ := by
  refine ⟨?_, fun line _ => ?_, fun _ => ⟨header, by simp, kind⟩, nofun, ?_⟩
  · rw [announcements_segment (behind.leads header rfl) (List.isChain_singleton header), Level.behind_header done kind,
      ← behind.announced]
    exact announced
  · exact Line.leads_append rfl (Line.leadsAfter_header kind)
  · exact behind.clean.append (by simp [kind])

theorem leave {done rest : List Line} {e next : Emitter} (behind : Behind done ⟨.inNode, rest, e⟩)
    (headed : ∀ line ∈ rest.head?, line.kind = .header) (ran : (emit .closeNode).run e = .ok () next) :
    Behind done ⟨.topLevel, rest, next⟩ := by
  cases ran
  exact ⟨behind.announced, behind.leads, nofun, fun _ => Or.inr headed, behind.clean⟩

end Station.Behind

section Run

variable {lines : List Line} (classified : ∀ line ∈ lines, line.IsClassified)

include classified

/-- A run takes the segments of its lines one by one, in their order. -/
theorem Reaches.trail {s : Station} (reached : Reaches lines s) :
    ∃ done, lines = done ++ s.rest ∧ s.Behind done ∧ Trail lines (segments done) s := by
  induction reached with
  | refl =>
    refine ⟨[], rfl, ⟨rfl, fun _ _ => rfl, nofun, fun _ => Or.inl (by simp), ?_⟩, .start⟩
    intro before line after failure shape
    simp at shape
  | tail _ step ih =>
    obtain ⟨done, shape, behind, trail⟩ := ih
    cases step with
    | @block level lead rest e next plain ran =>
      have parts := Block.cut_lines lead rest
      have known : ∀ line ∈ (Block.cut lead rest).1.lines, line.IsClassified := fun line member => by
        refine classified line ?_
        rw [shape, ← parts]
        simp [member]
      refine ⟨done ++ (Block.cut lead rest).1.lines, ?_, behind.block plain known ran, ?_⟩
      · rw [shape, List.append_assoc, parts]
      · rw [segments_append (Block.coherent_cut rest plain) (List.cons_ne_nil _ _) behind.leads]
        refine trail.takes (.block plain ran) parts.symm ?_
        obtain ⟨_, announced⟩ := emitAt_ends level rest e plain
        rw [ran, ← behind.level_eq plain, ← flatten_segments done] at announced
        exact announced
    | @enter header rest e next kind ran =>
      have known : header.IsClassified := classified header (by simp [shape])
      obtain ⟨_, opened, announced⟩ := run_openNode known kind e
      cases ran.symm.trans opened
      refine ⟨done ++ [header], by rw [shape, List.append_assoc]; rfl, behind.enter kind announced, ?_⟩
      rw [segments_append (List.isChain_singleton header) (List.cons_ne_nil _ _) behind.leads]
      refine trail.takes (.enter kind ran) rfl ?_
      rw [Level.behind_header _ kind]
      exact announced
    | leave headed ran =>
      refine ⟨done, shape, behind.leave headed ran, trail.leaves (.leave headed ran) rfl ?_⟩
      cases ran
      rfl

theorem Reaches.refused {s : Station} {fault : Fault} {last : Emitter} (reached : Reaches lines s)
    (refuses : Refuses s fault last) :
    ∃ before line after, lines = before ++ line :: after ∧ Clean before ∧ Offence before line fault.toFailure ∧
      last.dispatches = announcements (before ++ [line]) := by
  obtain ⟨done, shape, behind, _⟩ := reached.trail classified
  cases refuses with
  | @block level lead rest e _ _ plain ran =>
    have known : ∀ line ∈ (Block.cut lead rest).1.lines, line.IsClassified := fun line member => by
      refine classified line ?_
      rw [shape, ← Block.cut_lines lead rest]
      simp [member]
    obtain ⟨early, line, late, split, clean, offence, announced⟩ := behind.refused plain known ran
    refine ⟨done ++ early, line, late, ?_, clean, offence, announced⟩
    rw [shape, split, List.append_assoc]
  | @enter header rest e _ _ kind ran =>
    obtain ⟨_, opened, _⟩ := run_openNode (classified header (by simp [shape])) kind e
    cases ran.symm.trans opened

end Run

namespace Story

variable {lines : List Line}

theorem dispatches_log (lines : List Line) :
    Log.dispatches (compile lines).log = (left ((emitStory lines).run (.inScope .global))).dispatches := by
  unfold compile
  cases (emitStory lines).run (.inScope .global) with
  | ok _ e =>
    dsimp only
    rw [Log.dispatches_append]
    exact List.append_nil _
  | error fault e => rfl

/-- Exactly the lines that lead are announced, in their order, up to the end or to the first line that
offends, be it in the middle of a menu. A run that comes to its end has taken the segments of the
story one by one, and they are all of its lines. -/
theorem announces_leads (classified : ∀ line ∈ lines, line.IsClassified) :
    (∀ text, (compile lines).result = .ok text →
      Log.dispatches (compile lines).log = announcements lines ∧
      (∃ e, (emitStory lines).run (.inScope .global) = .ok () e ∧ Trail lines (segments lines) ⟨.topLevel, [], e⟩) ∧
      (segments lines).flatten = lines) ∧
    ∀ fault, (compile lines).result = .error fault →
      ∃ before line after, lines = before ++ line :: after ∧ Clean before ∧ Offence before line fault.toFailure ∧
        Log.dispatches (compile lines).log = announcements (before ++ [line]) := by
  rw [dispatches_log]
  constructor
  · intro text compiled
    obtain ⟨e, _, ran, _⟩ := run_of_compiled compiled
    obtain ⟨done, shape, behind, trail⟩ := (reaches_end ran).trail classified
    obtain rfl : lines = done := shape.trans (List.append_nil done)
    rw [ran]
    exact ⟨behind.announced, ⟨e, rfl, trail⟩, flatten_segments lines⟩
  · intro fault refused
    obtain ⟨last, ran⟩ := run_of_refused refused
    obtain ⟨s, reached, refuses⟩ := reaches_refusal ran
    rw [ran]
    exact reached.refused classified refuses

/-- The second choice of the menu is at fault. Its run is announced once, and so are the gap and the
paragraph behind it. -/
theorem announces_leads_unread :
    let texts := ["=a= A", "", "Hi", ">b go", ">c ?x", "!img i"]
    (∀ line ∈ Line.ofTexts texts, line.IsClassified) ∧
    (compile (Line.ofTexts texts)).result = .error ⟨5, .unfinishedCondition⟩ ∧
    Log.dispatches (compile (Line.ofTexts texts)).log =
      [.dispatching 1 .header .topLevel, .dispatching 2 .narrative .inNode, .dispatching 4 .choice .inNode] := by
  intro texts
  have classified : ∀ line ∈ Line.ofTexts texts, line.IsClassified := fun _ => Line.isClassified_of_mem_ofTexts
  have refused : (compile (Line.ofTexts texts)).result = .error ⟨5, .unfinishedCondition⟩ := by
    rw [result_eq_body classified]
    rfl
  obtain ⟨before, line, after, shape, _, offence, announced⟩ := (announces_leads classified).2 _ refused
  obtain ⟨front, text, back, split, rfl, rfl⟩ := Line.ofTexts_split shape
  have place : 4 = front.length := Nat.succ.inj (Option.some.inj offence.line?_eq)
  obtain ⟨rfl, rest⟩ := List.append_inj (show ["=a= A", "", "Hi", ">b go"] ++ [">c ?x", "!img i"] = _ from split) place
  obtain ⟨rfl, _⟩ := List.cons.inj rest
  refine ⟨classified, refused, announced.trans ?_⟩
  decide

end Story

end StoryScript

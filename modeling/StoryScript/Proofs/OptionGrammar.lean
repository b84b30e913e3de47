import Mathlib.Data.List.Nodup
import StoryScript.Proofs.Sessions

namespace StoryScript.CommandLine

/-- A help or version request, also among other short flags. -/
def isRequest (argument : String) : Bool :=
  argument == "--help" || argument == "--version" ||
    match argument.toList with
    | '-' :: '-' :: _ => false
    | '-' :: letters => letters.contains 'h' || letters.contains 'V'
    | _ => false

/-- What a setting is about, whatever it is set to. -/
inductive Topic where
  | file (option : FileOption)
  | diagnostic (which : Diagnostic)
deriving DecidableEq, Repr

def Setting.topic : Setting → Topic
  | .file option _ => .file option
  | .diagnostic which => .diagnostic which

/-- Settings that make up a command line: the input once, everything else at most once, and no
file without a name. -/
structure IsComplete (settings : List Setting) : Prop where
  named : ∀ option, Setting.file option "" ∉ settings
  input : (settings.map Setting.topic).count (.file .input) = 1
  output : (settings.map Setting.topic).count (.file .output) ≤ 1
  debug : (settings.map Setting.topic).count (.diagnostic .debug) ≤ 1
  verbose : (settings.map Setting.topic).count (.diagnostic .verbose) ≤ 1

theorem IsComplete.nodup {settings : List Setting} (complete : IsComplete settings) :
    (settings.map Setting.topic).Nodup := by
  refine List.nodup_iff_count_le_one.mpr fun topic => ?_
  rcases topic with (_ | _) | (_ | _)
  · exact complete.input.le
  · exact complete.output
  · exact complete.debug
  · exact complete.verbose

theorem IsComplete.of_nodup {settings : List Setting} (named : ∀ option, Setting.file option "" ∉ settings)
    (single : (settings.map Setting.topic).Nodup) (input : ∃ path, Setting.file .input path ∈ settings) :
    IsComplete settings := by
  have once := List.nodup_iff_count_le_one.mp single
  obtain ⟨path, given⟩ := input
  exact ⟨named, List.count_eq_one_of_mem single (List.mem_map_of_mem given), once _, once _, once _⟩

theorem IsComplete.perm {settings other : List Setting} (complete : IsComplete settings)
    (same : settings.Perm other) : IsComplete other := by
  have topics : (settings.map Setting.topic).Perm (other.map Setting.topic) := same.map Setting.topic
  constructor
  · exact fun option member => complete.named option (same.mem_iff.mpr member)
  · exact (topics.count_eq _).symm.trans complete.input
  · exact (topics.count_eq _).symm.trans_le complete.output
  · exact (topics.count_eq _).symm.trans_le complete.debug
  · exact (topics.count_eq _).symm.trans_le complete.verbose

section Requests

theorem Argument.long_ne_flags (text letters : List Char) : long text ≠ .flags letters := by
  unfold long
  split
  · split <;> simp
  · split
    · simp
    · split <;> simp

theorem isRequest_of_flags {written : String} {letters : List Char} (meaning : Argument.ofText written = .flags letters)
    (asks : 'h' ∈ letters ∨ 'V' ∈ letters) : isRequest written = true := by
  unfold Argument.ofText at meaning
  split at meaning
  · cases meaning
  · exact absurd meaning (Argument.long_ne_flags _ _)
  · rename_i letter more _ short dashed
    cases meaning
    have found : ((letter :: more).contains 'h' || (letter :: more).contains 'V') = true := by simpa using asks
    rw [isRequest, dashed]
    split
    · rename_i same
      cases same
      exact absurd rfl short
    · rename_i same
      cases same
      rw [found, Bool.or_true]
    · rename_i other
      exact absurd rfl (other (letter :: more))
  · cases meaning

namespace Draft

theorem verdict_of_refused_else_ok {given : Prop} [Decidable given] {put : Draft} {verdict : Verdict}
    (failed : (if given then .error .refused else .ok put : Except Verdict Draft) = .error verdict) :
    verdict = .refused := by
  split at failed
  · cases failed
    rfl
  · cases failed

theorem verdict_of_set {draft : Draft} {setting : Setting} {verdict : Verdict}
    (failed : draft.set setting = .error verdict) : verdict = .refused := by
  cases setting with
  | file option path =>
    change draft.setFile option path = _ at failed
    unfold setFile at failed
    split at failed
    · cases failed
      rfl
    · cases option with
      | input => exact verdict_of_refused_else_ok failed
      | output => exact verdict_of_refused_else_ok failed
  | diagnostic which =>
    cases which with
    | debug => exact verdict_of_refused_else_ok failed
    | verbose => exact verdict_of_refused_else_ok failed

section Verdicts

variable {draft : Draft} {verdict : Verdict} (asked : verdict ≠ .refused)

include asked

/-- A setting is refused or made, so a verdict that is asked for comes of what is read behind it. -/
theorem ended_behind_set {α : Type} (setting : Setting) {next : Draft → Except Verdict α}
    (ended : (do next (← draft.set setting)) = .error verdict) : ∃ made, next made = .error verdict := by
  cases made : draft.set setting with
  | error other =>
    rw [made] at ended
    cases ended
    exact absurd (verdict_of_set made) asked
  | ok after =>
    rw [made] at ended
    exact ⟨after, ended⟩

/-- Flags that end in a verdict other than a refusal have a letter that asks for it. -/
theorem asks_of_readFlags {letters : List Char} (ended : draft.readFlags letters = .error verdict) :
    'h' ∈ letters ∨ 'V' ∈ letters := by
  fun_induction readFlags draft letters with
  | case1 => cases ended
  | case2 draft rest ih =>
    obtain ⟨made, later⟩ := ended_behind_set asked (.diagnostic .verbose) ended
    exact (ih made later).imp (List.mem_cons_of_mem _) (List.mem_cons_of_mem _)
  | case3 => exact Or.inl List.mem_cons_self
  | case4 => exact Or.inr List.mem_cons_self
  | case5 =>
    cases ended
    exact absurd rfl asked

/-- Nothing but a request ends the reading in a verdict other than a refusal. -/
theorem exists_request {arguments : List String} (ended : draft.readArguments arguments = .error verdict) :
    ∃ argument ∈ arguments, isRequest argument = true := by
  have behind {draft : Draft} {rest : List String} (group : List String) (setting : Setting)
      (ended : (do (← draft.set setting).readArguments rest) = .error verdict)
      (ih : ∀ made : Draft, made.readArguments rest = .error verdict → ∃ argument ∈ rest, isRequest argument = true) :
      ∃ argument ∈ group ++ rest, isRequest argument = true := by
    obtain ⟨made, later⟩ := ended_behind_set asked setting ended
    obtain ⟨argument, member, request⟩ := ih made later
    exact ⟨argument, List.mem_append_right group member, request⟩
  induction draft, arguments using readArguments.induct with
  | case1 draft => cases ended
  | case2 draft text option meaning | case13 draft text rest meaning =>
    rw [readArguments.eq_2, meaning] at ended
    cases ended
    exact absurd rfl asked
  | case3 draft text option meaning path more file ih =>
    rw [readArguments.eq_2, meaning] at ended
    simp only [file, if_true] at ended
    exact behind [text, path] (.file option path) ended ih
  | case4 draft text option meaning path more stopped | case12 draft text rest meaning stopped =>
    rw [readArguments.eq_2, meaning] at ended
    simp only [stopped] at ended
    cases ended
    exact absurd rfl asked
  | case5 draft text rest option path meaning ih =>
    rw [readArguments.eq_2, meaning] at ended
    exact behind [text] (.file option path) ended ih
  | case6 draft text rest meaning ih =>
    rw [readArguments.eq_2, meaning] at ended
    exact behind [text] (.diagnostic .debug) ended ih
  | case7 draft text rest meaning ih =>
    rw [readArguments.eq_2, meaning] at ended
    exact behind [text] (.diagnostic .verbose) ended ih
  | case8 draft text rest letters meaning ih =>
    rw [readArguments.eq_2, meaning] at ended
    dsimp only at ended
    cases flags : draft.readFlags letters with
    | error other =>
      rw [flags] at ended
      cases ended
      exact ⟨text, List.mem_cons_self, isRequest_of_flags meaning (asks_of_readFlags asked flags)⟩
    | ok next =>
      rw [flags] at ended
      obtain ⟨argument, member, request⟩ := ih next ended
      exact ⟨argument, List.mem_cons_of_mem text member, request⟩
  | case9 draft text rest meaning | case10 draft text rest meaning =>
    rw [Argument.text_of_ofText meaning (by simp)]
    exact ⟨_, List.mem_cons_self, by decide⟩
  | case11 draft text rest meaning last =>
    rw [readArguments.eq_2, meaning] at ended
    simp only [last] at ended
    cases ended

end Verdicts

end Draft

end Requests

namespace Draft

def isSet (draft : Draft) : Topic → Bool
  | .file .input => draft.input.isSome
  | .file .output => draft.output.isSome
  | .diagnostic .debug => draft.debug
  | .diagnostic .verbose => draft.verbose

theorem admits_iff {draft : Draft} {setting : Setting} :
    draft.Admits setting ↔ (∀ option, setting ≠ .file option "") ∧ draft.isSet setting.topic = false := by
  rcases setting with ⟨_ | _, path⟩ | (_ | _) <;> simp [Admits, isSet, Setting.topic]

theorem isSet_put (draft : Draft) (setting : Setting) (topic : Topic) :
    (draft.put setting).isSet topic = (draft.isSet topic || topic == setting.topic) := by
  rcases setting with ⟨_ | _, path⟩ | (_ | _) <;> rcases topic with (_ | _) | (_ | _) <;>
    simp [put, turn, isSet, Setting.topic]

/-- Settings can be made one after the other exactly if no topic comes up twice. -/
theorem exists_foldlM_set_iff {draft : Draft} {settings : List Setting} :
    (∃ last, settings.foldlM set draft = .ok last) ↔
      (∀ option, Setting.file option "" ∉ settings) ∧ (settings.map Setting.topic).Nodup ∧
        ∀ topic ∈ settings.map Setting.topic, draft.isSet topic = false := by
  induction settings generalizing draft with
  | nil => simp [pure, Except.pure]
  | cons setting settings ih =>
    -- The later settings are made where the first is made already, so none of them has its topic.
    simp only [foldlM_set_cons, exists_and_left, ih, admits_iff, isSet_put, List.map_cons, List.nodup_cons,
      List.mem_cons, not_or, Bool.or_eq_false_iff, beq_eq_false_iff_ne, forall_eq_or_imp]
    grind

end Draft

namespace Options

/-- Settings determine what they are read as, whatever their order. -/
theorem eq_of_has {options other : Options}
    (same : ∀ setting, options.draft.Has setting ↔ other.draft.Has setting) : options = other := by
  obtain ⟨input, output, debug, verbose⟩ := options
  obtain ⟨input', output', debug', verbose'⟩ := other
  have inputs := (same (.file .input input)).mp rfl
  have outputs : output = output' := Option.ext fun path => same (.file .output path)
  have debugs : debug = debug' := Bool.eq_iff_iff.mpr (same (.diagnostic .debug))
  have verboses : verbose = verbose' := Bool.eq_iff_iff.mpr (same (.diagnostic .verbose))
  cases inputs
  rw [outputs, debugs, verboses]

theorem exists_foldlM_iff {settings : List Setting} :
    (∃ options : Options, settings.foldlM Draft.set Draft.empty = .ok options.draft) ↔ IsComplete settings := by
  have unset (topic : Topic) : Draft.empty.isSet topic = false := by rcases topic with (_ | _) | (_ | _) <;> rfl
  constructor
  · rintro ⟨options, made⟩
    obtain ⟨named, single, _⟩ := Draft.exists_foldlM_set_iff.mp ⟨_, made⟩
    have input := (Draft.has_iff_of_foldlM made (.file .input options.input)).mp rfl
    exact .of_nodup named single ⟨options.input, input.resolve_left nofun⟩
  · intro complete
    obtain ⟨last, made⟩ := Draft.exists_foldlM_set_iff.mpr ⟨complete.named, complete.nodup, fun topic _ => unset topic⟩
    have given : Topic.file .input ∈ settings.map Setting.topic :=
      List.count_pos_iff.mp (by rw [complete.input]; exact Nat.one_pos)
    obtain ⟨setting, member, topic⟩ := List.mem_map.mp given
    cases setting with
    | diagnostic which => cases topic
    | file option path =>
      cases topic
      have input : last.input = some path := (Draft.has_iff_of_foldlM made (.file .input path)).mpr (Or.inr member)
      obtain ⟨input', output, debug, verbose⟩ := last
      cases input
      exact ⟨⟨path, output, debug, verbose⟩, made⟩

theorem exists_read_iff {arguments : List String} :
    (∃ options, read arguments = .ok options) ↔ ∃ settings, Spells settings arguments ∧ IsComplete settings := by
  simp only [read_eq_ok_iff, ← exists_foldlM_iff]
  constructor
  · rintro ⟨options, settings, spelled, made⟩
    exact ⟨settings, spelled, options, made⟩
  · rintro ⟨settings, spelled, options, made⟩
    exact ⟨options, settings, spelled, made⟩

/-- What is read has exactly what was set. -/
theorem read_of_spells {settings : List Setting} {arguments : List String} (spelled : Spells settings arguments)
    (complete : IsComplete settings) :
    ∃ options, read arguments = .ok options ∧ ∀ setting, options.draft.Has setting ↔ setting ∈ settings := by
  obtain ⟨options, made⟩ := exists_foldlM_iff.mpr complete
  refine ⟨options, read_eq_ok_iff.mpr ⟨settings, spelled, made⟩, fun setting => ?_⟩
  have nothing : ¬ Draft.empty.Has setting := by rcases setting with ⟨_ | _, path⟩ | (_ | _) <;> exact nofun
  rw [Draft.has_iff_of_foldlM made, or_iff_right nothing]

theorem verdict_refused {arguments : List String} {verdict : Verdict}
    (silent : ∀ argument ∈ arguments, isRequest argument = false) (ended : read arguments = .error verdict) :
    verdict = .refused := by
  by_contra asked
  cases reads : Draft.empty.readArguments arguments with
  | error other =>
    rw [read, reads] at ended
    cases ended
    obtain ⟨argument, member, request⟩ := Draft.exists_request asked reads
    rw [silent argument member] at request
    cases request
  | ok last =>
    rw [read, reads] at ended
    change last.finish = _ at ended
    unfold Draft.finish at ended
    split at ended
    · cases ended
    · cases ended
      exact asked rfl

theorem code_run {σ : Type} [Files (StateM σ)] (s : σ) (options : Options) (asked : Option Log.Filter) :
    ((options.run asked : StateM σ Exit).run s).1.code ≠ 2 := by
  obtain ⟨outcome, after, ran⟩ : ∃ outcome after,
      (Job.run ⟨options.input, options.output⟩ : StateM σ Job.Outcome).run s = (outcome, after) := ⟨_, _, rfl⟩
  cases result : outcome.result with
  | ok product => rw [options.run_of_ok ran asked result]; exact nofun
  | error failure => rw [options.run_of_error ran asked result]; exact nofun

end Options

theorem code_run_iff {σ : Type} [Files (StateM σ)] (s : σ) (arguments : List String) (asked : Option Log.Filter) :
    ((run arguments asked : StateM σ Exit).run s).1.code ≠ 2 ↔
      Options.read arguments ≠ .error .refused := by
  cases read : Options.read arguments with
  | ok options =>
    rw [run_of_read read]
    exact iff_of_true (options.code_run s asked) (by simp)
  | error verdict =>
    have done : (0 : UInt32) ≠ 2 := by decide
    rw [run, read]
    cases verdict with
    | refused => exact iff_of_false (fun other => other rfl) (fun other => other rfl)
    | help => exact iff_of_true done (by simp)
    | version => exact iff_of_true done (by simp)

/-- A command line that asks for neither help nor version is accepted exactly if it spells complete
settings. What is read has exactly these settings, so neither their order nor their spelling shows
in the run. -/
theorem accepts_complete_settings (σ : Type) [Files (StateM σ)] :
    (∀ (arguments : List String) (asked : Option Log.Filter) (s : σ),
      (∀ argument ∈ arguments, isRequest argument = false) →
      (((run arguments asked : StateM σ Exit).run s).1.code ≠ 2 ↔
        ∃ settings, Spells settings arguments ∧ IsComplete settings)) ∧
    (∀ (settings : List Setting) (arguments : List String), Spells settings arguments → IsComplete settings →
      ∃ options, Options.read arguments = .ok options ∧
        ∀ setting, options.draft.Has setting ↔ setting ∈ settings) ∧
    ∀ (settings other : List Setting) (first second : List String),
      Spells settings first → Spells other second → IsComplete settings → settings.Perm other →
      Options.read first = Options.read second ∧
        ∀ (asked : Option Log.Filter) (s : σ),
          (run first asked : StateM σ Exit).run s =
            (run second asked : StateM σ Exit).run s := by
  refine ⟨?_, ?_, ?_⟩
  · intro arguments asked s silent
    rw [code_run_iff, ← Options.exists_read_iff]
    constructor
    · intro unrefused
      cases read : Options.read arguments with
      | ok options => exact ⟨options, rfl⟩
      | error verdict =>
        rw [read, Options.verdict_refused silent read] at unrefused
        exact absurd rfl unrefused
    · rintro ⟨options, read⟩
      rw [read]
      exact nofun
  · intro settings arguments spelled complete
    exact Options.read_of_spells spelled complete
  · intro settings other first second spelled spelled' complete same
    obtain ⟨options, read, has⟩ := Options.read_of_spells spelled complete
    obtain ⟨options', read', has'⟩ := Options.read_of_spells spelled' (complete.perm same)
    have equal : options = options' := Options.eq_of_has fun setting => by rw [has, has', same.mem_iff]
    refine ⟨by rw [read, read', equal], fun asked s => ?_⟩
    rw [run_of_read read, run_of_read read', equal]

/-- A file may be named like an option behind an `=`, and a single dash in an argument of its own. -/
theorem accepts_complete_settings_dashes :
    let settings : List Setting := [.diagnostic .verbose, .file .input "-", .file .output "--in"]
    let first := ["-v", "--in", "-", "--out=--in", "--"]
    let second := ["--out=--in", "--verbose", "--in=-"]
    (∀ argument ∈ first, isRequest argument = false) ∧
    ((run first none : StateM Directory Exit).run .empty).1.code ≠ 2 ∧
    (∃ options, Options.read first = .ok options ∧ ∀ setting, options.draft.Has setting ↔ setting ∈ settings) ∧
    Options.read first = Options.read second ∧
    (run first none : StateM Directory Exit).run .empty = (run second none : StateM Directory Exit).run .empty := by
  intro settings first second
  obtain ⟨accepts, reads, orderless⟩ := accepts_complete_settings Directory
  have complete : IsComplete settings := ⟨by rintro (_ | _) <;> decide, by decide, by decide, by decide, by decide⟩
  have ended : Spells [] ["--"] := ⟨[], .nil, Or.inr rfl⟩
  have early : Spells settings first :=
    ((ended.cons (.joined .output "--in")).cons (.apart .input (by decide))).cons (.flag (show "-v" ∈ _ by decide))
  have late : Spells [.file .output "--in", .diagnostic .verbose, .file .input "-"] second :=
    ((Spells.nil.cons (.joined .input "-")).cons (.flag (show "--verbose" ∈ _ by decide))).cons (.joined .output "--in")
  have same : settings.Perm [.file .output "--in", .diagnostic .verbose, .file .input "-"] := by decide
  have silent : ∀ argument ∈ first, isRequest argument = false := by decide
  obtain ⟨read, ran⟩ := orderless _ _ _ _ early late complete same
  exact ⟨silent, (accepts first none .empty silent).mpr ⟨settings, early, complete⟩, reads _ _ early complete, read,
    ran none .empty⟩

end StoryScript.CommandLine

import Mathlib.Data.List.Forall2
import StoryScript.Proofs.Arguments
import StoryScript.Proofs.FileChanges

namespace StoryScript.CommandLine

/-- What one option of a command line sets. -/
inductive Setting where
  | file (option : FileOption) (path : String)
  | diagnostic (which : Diagnostic)
deriving DecidableEq, Repr

/-- The ways to write an option. -/
inductive Setting.Written : Setting → List String → Prop
  | joined (option : FileOption) (path : String) : Written (.file option path) [option.flag ++ "=" ++ path]
  | apart (option : FileOption) {path : String} (file : Draft.isFileArgument path = true) :
      Written (.file option path) [option.flag, path]
  | flag {which : Diagnostic} {text : String} (flag : text ∈ which.flags) : Written (.diagnostic which) [text]

theorem Setting.Written.plain {option : FileOption} {path : String} {group : List String}
    (written : Written (.file option path) group) : ∀ argument ∈ group, isDiagnostic argument = false := by
  cases written with
  | joined =>
    have joined : isDiagnostic (option.flag ++ "=" ++ path) = false := by
      rw [← Bool.not_eq_true, Argument.isDiagnostic_iff, Argument.ofText_joined]
      simp [Argument.IsDiagnostic]
    simpa using joined
  | apart _ file =>
    have flag : isDiagnostic option.flag = false := by cases option <;> decide
    simpa using ⟨flag, isDiagnostic_of_file file⟩

/-- A command line that is nothing but options, up to a mark that ends them. -/
def Spells (settings : List Setting) (arguments : List String) : Prop :=
  ∃ groups : List (List String), List.Forall₂ Setting.Written settings groups ∧
    (arguments = groups.flatten ∨ arguments = groups.flatten ++ ["--"])

theorem Spells.cons {setting : Setting} {group : List String} {settings : List Setting} {arguments : List String}
    (written : setting.Written group) (later : Spells settings arguments) :
    Spells (setting :: settings) (group ++ arguments) := by
  obtain ⟨groups, spelled, rfl | rfl⟩ := later
  · exact ⟨group :: groups, .cons written spelled, Or.inl rfl⟩
  · exact ⟨group :: groups, .cons written spelled, Or.inr (by simp)⟩

/-- A command line spells fewer settings without the arguments that spell the others. -/
theorem Spells.filter {keep : Setting → Bool} {stays : String → Bool}
    (each : ∀ setting group, setting.Written group → group.filter stays = if keep setting then group else [])
    (mark : stays "--" = true) {settings : List Setting} {arguments : List String}
    (spelled : Spells settings arguments) : Spells (settings.filter keep) (arguments.filter stays) := by
  obtain ⟨groups, written, ended⟩ := spelled
  have fewer : ∃ kept, List.Forall₂ Setting.Written (settings.filter keep) kept ∧
      groups.flatten.filter stays = kept.flatten := by
    clear ended
    induction written with
    | nil => exact ⟨[], .nil, rfl⟩
    | @cons setting group settings groups first _ ih =>
      obtain ⟨kept, written, same⟩ := ih
      rw [List.flatten_cons, List.filter_append, each setting group first, same]
      cases keeps : keep setting with
      | true => exact ⟨group :: kept, by rw [List.filter_cons_of_pos keeps]; exact .cons first written, rfl⟩
      | false => exact ⟨kept, by rw [List.filter_cons_of_neg (by simp [keeps])]; exact written, rfl⟩
  obtain ⟨kept, written, same⟩ := fewer
  refine ⟨kept, written, ended.imp (fun ended => ?_) (fun ended => ?_)⟩
  · rw [ended, same]
  · rw [ended, List.filter_append, same, List.filter_cons_of_pos mark, List.filter_nil]

theorem Diagnostic.eq_of_shared_flag {one other : Diagnostic} {text : String} (flag : text ∈ one.flags)
    (also : text ∈ other.flags) : one = other := by
  cases one <;> cases other <;> simp_all [flags]

theorem Spells.without {settings : List Setting} {arguments : List String} (spelled : Spells settings arguments)
    (which : Diagnostic) :
    Spells (settings.filter (· ≠ .diagnostic which)) (arguments.filter (· ∉ which.flags)) := by
  refine spelled.filter (fun setting group written => ?_) (by cases which <;> decide)
  cases setting with
  | file option path =>
    refine List.filter_eq_self.mpr fun argument member => decide_eq_true fun flag => ?_
    have asks := isDiagnostic_of_mem_flags flag
    rw [written.plain argument member] at asks
    cases asks
  | diagnostic other =>
    cases written with
    | @flag _ text flag =>
      by_cases same : other = which
      · subst same
        simp [flag]
      · have apart : text ∉ which.flags := fun also => same (Diagnostic.eq_of_shared_flag flag also)
        simp [same, apart]

namespace Draft

/-- A setting is made at most once, and a file has a name. -/
def Admits (draft : Draft) : Setting → Prop
  | .file .input path => path ≠ "" ∧ draft.input = none
  | .file .output path => path ≠ "" ∧ draft.output = none
  | .diagnostic .debug => draft.debug = false
  | .diagnostic .verbose => draft.verbose = false

def turn (draft : Draft) (on : Bool) : Diagnostic → Draft
  | .debug => { draft with debug := on }
  | .verbose => { draft with verbose := on }

def put (draft : Draft) : Setting → Draft
  | .file .input path => { draft with input := some path }
  | .file .output path => { draft with output := some path }
  | .diagnostic which => draft.turn true which

def Has (draft : Draft) : Setting → Prop
  | .file .input path => draft.input = some path
  | .file .output path => draft.output = some path
  | .diagnostic .debug => draft.debug = true
  | .diagnostic .verbose => draft.verbose = true

def set (draft : Draft) : Setting → Except Verdict Draft
  | .file option path => draft.setFile option path
  | .diagnostic .debug => draft.setDebug
  | .diagnostic .verbose => draft.setVerbose

theorem refused_else_ok_iff {given : Prop} [Decidable given] {put next : Draft} :
    (if given then .error .refused else .ok put : Except Verdict Draft) = .ok next ↔ ¬ given ∧ put = next := by
  by_cases given <;> simp_all

theorem set_eq_ok_iff {draft next : Draft} {setting : Setting} :
    draft.set setting = .ok next ↔ draft.Admits setting ∧ draft.put setting = next := by
  cases setting with
  | file option path =>
    by_cases empty : path = ""
    · cases option <;> simp [set, setFile, Admits, empty]
    · cases option <;> simp [set, setFile, Admits, put, empty, refused_else_ok_iff]
  | diagnostic which => cases which <;> simp [set, setDebug, setVerbose, Admits, put, turn, refused_else_ok_iff]

theorem foldlM_set_cons {draft last : Draft} {setting : Setting} {settings : List Setting} :
    (setting :: settings).foldlM set draft = .ok last ↔
      draft.Admits setting ∧ settings.foldlM set (draft.put setting) = .ok last := by
  rw [List.foldlM_cons]
  constructor
  · intro made
    obtain ⟨next, first, later⟩ := exists_ok_of_bind made
    obtain ⟨admits, rfl⟩ := set_eq_ok_iff.mp first
    exact ⟨admits, later⟩
  · rintro ⟨admits, later⟩
    rw [set_eq_ok_iff.mpr ⟨admits, rfl⟩]
    exact later

theorem has_put_iff {draft : Draft} {setting other : Setting} (admits : draft.Admits setting) :
    (draft.put setting).Has other ↔ draft.Has other ∨ other = setting := by
  cases setting with
  | file option path =>
    cases option with
    | input =>
      obtain ⟨_, unset⟩ := admits
      rcases other with (_ | _) | (_ | _) <;> simp [put, Has, unset, @eq_comm _ path]
    | output =>
      obtain ⟨_, unset⟩ := admits
      rcases other with (_ | _) | (_ | _) <;> simp [put, Has, unset, @eq_comm _ path]
  | diagnostic which => cases which <;> rcases other with (_ | _) | (_ | _) <;> simp [put, turn, Has]

/-- What is set is what was set before and what the settings say, whatever their order. -/
theorem has_iff_of_foldlM {draft last : Draft} {settings : List Setting}
    (made : settings.foldlM set draft = .ok last) (other : Setting) :
    last.Has other ↔ draft.Has other ∨ other ∈ settings := by
  induction settings generalizing draft with
  | nil => cases made; simp
  | cons setting settings ih =>
    obtain ⟨admits, later⟩ := foldlM_set_cons.mp made
    rw [ih later, has_put_iff admits, List.mem_cons, or_assoc]

theorem admits_turn_iff {draft : Draft} {on : Bool} {which : Diagnostic} {setting : Setting}
    (other : setting ≠ .diagnostic which) : (draft.turn on which).Admits setting ↔ draft.Admits setting := by
  cases setting with
  | file option path => cases option <;> cases which <;> exact Iff.rfl
  | diagnostic another => cases another <;> cases which <;> simp_all [Admits, turn]

theorem put_turn {draft : Draft} {on : Bool} {which : Diagnostic} {setting : Setting}
    (other : setting ≠ .diagnostic which) : (draft.turn on which).put setting = (draft.put setting).turn on which := by
  cases setting with
  | file option path => cases option <;> cases which <;> rfl
  | diagnostic another => cases another <;> cases which <;> simp_all [put, turn]

/-- A diagnostic can be turned before the other settings as well as after all of them. -/
theorem foldlM_set_turn (on : Bool) (which : Diagnostic) {draft last : Draft} {settings : List Setting}
    (made : settings.foldlM set draft = .ok last) :
    (settings.filter (· ≠ .diagnostic which)).foldlM set (draft.turn on which) = .ok (last.turn on which) := by
  induction settings generalizing draft with
  | nil => cases made; rfl
  | cons setting settings ih =>
    obtain ⟨admits, later⟩ := foldlM_set_cons.mp made
    by_cases same : setting = .diagnostic which
    · have undone : (draft.put setting).turn on which = draft.turn on which := by
        subst same
        cases which <;> rfl
      rw [List.filter_cons_of_neg (by simpa using same), ← undone]
      exact ih later
    · rw [List.filter_cons_of_pos (by simpa using same)]
      exact foldlM_set_cons.mpr ⟨(admits_turn_iff same).mpr admits, by rw [put_turn same]; exact ih later⟩

theorem readArguments_written {setting : Setting} {group : List String} (written : setting.Written group)
    (draft : Draft) (rest : List String) :
    draft.readArguments (group ++ rest) = (do (← draft.set setting).readArguments rest) := by
  cases written with
  | joined option path =>
    rw [List.singleton_append, readArguments.eq_2, Argument.ofText_joined]
    rfl
  | @apart option path file =>
    rw [List.cons_append, List.singleton_append, readArguments.eq_2, Argument.ofText_flag]
    dsimp only
    rw [if_pos file]
    rfl
  | @flag which text flag =>
    have meanings : Argument.ofText "--debug" = .debug ∧ Argument.ofText "--verbose" = .verbose ∧
        Argument.ofText "-v" = .flags ['v'] := by decide
    obtain ⟨debug, verbose, short⟩ := meanings
    cases which with
    | debug =>
      obtain rfl := List.mem_singleton.mp flag
      rw [List.singleton_append, readArguments.eq_2, debug]
      rfl
    | verbose =>
      rcases List.mem_pair.mp flag with rfl | rfl
      · rw [List.singleton_append, readArguments.eq_2, verbose]
        rfl
      · rw [List.singleton_append, readArguments.eq_2, short]
        dsimp only [set]
        rw [readFlags_verbose]

theorem readArguments_of_spells {settings : List Setting} {arguments : List String}
    (spelled : Spells settings arguments) (draft : Draft) :
    draft.readArguments arguments = settings.foldlM set draft := by
  obtain ⟨groups, written, ended⟩ := spelled
  induction written generalizing draft arguments with
  | nil =>
    rcases ended with rfl | rfl
    · rfl
    · have meaning : Argument.ofText "--" = .endOfOptions := by decide
      rw [List.flatten_nil, List.nil_append, readArguments.eq_2, meaning]
      rfl
  | @cons setting group settings groups first _ ih =>
    have split : ∃ rest, arguments = group ++ rest ∧ (rest = groups.flatten ∨ rest = groups.flatten ++ ["--"]) := by
      rcases ended with rfl | rfl
      · exact ⟨_, List.flatten_cons, Or.inl rfl⟩
      · exact ⟨_, by rw [List.flatten_cons, List.append_assoc], Or.inr rfl⟩
    obtain ⟨rest, rfl, later⟩ := split
    rw [readArguments_written first, List.foldlM_cons]
    cases draft.set setting with
    | error verdict => rfl
    | ok next => exact ih next later

/-- Of short flags only the one for the log can be all there is. -/
theorem readFlags_eq_ok {draft next : Draft} {letter : Char} {rest : List Char}
    (read : draft.readFlags (letter :: rest) = .ok next) : letter :: rest = ['v'] := by
  by_contra more
  have accepted : draft.readFlags (letter :: rest) ≠ .error .refused := by
    rw [read]
    simp
  obtain ⟨verdict, decided, _⟩ := readFlags_quiet more accepted
  rw [decided] at read
  cases read

/-- Nothing but options is read to the end. -/
theorem spells_of_readArguments {draft last : Draft} {arguments : List String}
    (read : draft.readArguments arguments = .ok last) : ∃ settings, Spells settings arguments := by
  have continued {setting : Setting} {group rest : List String} {next : Except Verdict Draft}
      (written : setting.Written group) (later : (do (← next).readArguments rest) = .ok last)
      (ih : ∀ draft : Draft, draft.readArguments rest = .ok last → ∃ settings, Spells settings rest) :
      ∃ settings, Spells settings (group ++ rest) := by
    obtain ⟨draft, _, reads⟩ := exists_ok_of_bind later
    obtain ⟨settings, spelled⟩ := ih draft reads
    exact ⟨setting :: settings, spelled.cons written⟩
  induction draft, arguments using readArguments.induct with
  | case1 draft => exact ⟨[], [], .nil, Or.inl rfl⟩
  | case2 draft text option meaning => rw [readArguments.eq_2, meaning] at read; cases read
  | case3 draft text option meaning path more file ih =>
    rw [readArguments.eq_2, meaning] at read
    simp only [file, if_true] at read
    rw [Argument.text_of_ofText meaning (by simp)]
    exact continued (.apart option file) read ih
  | case4 draft text option meaning path more other =>
    rw [readArguments.eq_2, meaning] at read
    simp only [other] at read
    cases read
  | case5 draft text rest option path meaning ih =>
    rw [readArguments.eq_2, meaning] at read
    rw [Argument.text_of_ofText meaning (by simp)]
    exact continued (.joined option path) read ih
  | case6 draft text rest meaning ih =>
    rw [readArguments.eq_2, meaning] at read
    rw [Argument.text_of_ofText meaning (by simp)]
    exact continued (.flag (show _ ∈ Diagnostic.debug.flags by decide)) read ih
  | case7 draft text rest meaning ih =>
    rw [readArguments.eq_2, meaning] at read
    rw [Argument.text_of_ofText meaning (by simp)]
    exact continued (.flag (show _ ∈ Diagnostic.verbose.flags by decide)) read ih
  | case8 draft text rest letters meaning ih =>
    rw [readArguments.eq_2, meaning] at read
    obtain ⟨letter, more, rfl⟩ := Argument.exists_cons_of_flags meaning
    obtain ⟨next, flags, _⟩ := exists_ok_of_bind read
    rw [readFlags_eq_ok flags] at meaning
    rw [Argument.text_of_ofText meaning (by simp)]
    exact continued (.flag (show _ ∈ Diagnostic.verbose.flags by decide)) read ih
  | case9 draft text rest meaning => rw [readArguments.eq_2, meaning] at read; cases read
  | case10 draft text rest meaning => rw [readArguments.eq_2, meaning] at read; cases read
  | case11 draft text rest meaning ended =>
    rw [Argument.text_of_ofText meaning (by simp), List.isEmpty_iff.mp ended]
    exact ⟨[], [], .nil, Or.inr rfl⟩
  | case12 draft text rest meaning more =>
    rw [readArguments.eq_2, meaning] at read
    simp only [more] at read
    cases read
  | case13 draft text rest meaning => rw [readArguments.eq_2, meaning] at read; cases read

/-- A command line is read to the end exactly if it spells settings that can be made one after the
other. -/
theorem readArguments_eq_ok_iff {draft last : Draft} {arguments : List String} :
    draft.readArguments arguments = .ok last ↔
      ∃ settings, Spells settings arguments ∧ settings.foldlM set draft = .ok last := by
  constructor
  · intro read
    obtain ⟨settings, spelled⟩ := spells_of_readArguments read
    exact ⟨settings, spelled, by rw [← readArguments_of_spells spelled, read]⟩
  · rintro ⟨settings, spelled, made⟩
    rw [readArguments_of_spells spelled, made]

end Draft

namespace Options

def draft (options : Options) : Draft :=
  { input := some options.input, output := options.output, debug := options.debug, verbose := options.verbose }

def asks (options : Options) : Diagnostic → Bool
  | .debug => options.debug
  | .verbose => options.verbose

def turn (options : Options) (on : Bool) : Diagnostic → Options
  | .debug => { options with debug := on }
  | .verbose => { options with verbose := on }

theorem draft_turn (options : Options) (on : Bool) (which : Diagnostic) :
    (options.turn on which).draft = options.draft.turn on which := by
  cases which <;> rfl

theorem finish_eq_ok_iff {draft : Draft} {options : Options} : draft.finish = .ok options ↔ draft = options.draft := by
  obtain ⟨input, output, debug, verbose⟩ := draft
  cases input with
  | none => exact ⟨nofun, nofun⟩
  | some input =>
    constructor
    · intro finished
      cases finished
      rfl
    · intro same
      cases same
      rfl

/-- The command lines that run a job, and what they say about it. -/
theorem read_eq_ok_iff {arguments : List String} {options : Options} :
    read arguments = .ok options ↔
      ∃ settings, Spells settings arguments ∧ settings.foldlM Draft.set Draft.empty = .ok options.draft := by
  constructor
  · intro accepted
    obtain ⟨draft, read, finished⟩ := exists_ok_of_bind accepted
    rw [finish_eq_ok_iff.mp finished] at read
    exact Draft.readArguments_eq_ok_iff.mp read
  · intro spelled
    rw [read, Draft.readArguments_eq_ok_iff.mpr spelled]
    rfl

section

variable {arguments : List String} {options : Options} {which : Diagnostic} (accepted : read arguments = .ok options)

include accepted

/-- A diagnostic can be taken back. -/
theorem read_without (which : Diagnostic) :
    read (arguments.filter (· ∉ which.flags)) = .ok (options.turn false which) := by
  obtain ⟨settings, spelled, made⟩ := read_eq_ok_iff.mp accepted
  have start : Draft.empty.turn false which = Draft.empty := by cases which <;> rfl
  have later := Draft.foldlM_set_turn false which made
  rw [start, ← draft_turn] at later
  exact read_eq_ok_iff.mpr ⟨_, spelled.without which, later⟩

/-- A diagnostic that is not asked for can be asked for. -/
theorem read_with {flag : String} (written : flag ∈ which.flags) (silent : options.asks which = false) :
    read (flag :: arguments) = .ok (options.turn true which) := by
  obtain ⟨settings, spelled, made⟩ := read_eq_ok_iff.mp accepted
  have absent : Setting.diagnostic which ∉ settings := fun member => by
    have given := (Draft.has_iff_of_foldlM made (.diagnostic which)).mpr (Or.inr member)
    cases which <;> exact absurd (silent.symm.trans given) nofun
  have same : settings.filter (· ≠ .diagnostic which) = settings :=
    List.filter_eq_self.mpr fun setting member => decide_eq_true (ne_of_mem_of_not_mem member absent)
  have later := Draft.foldlM_set_turn true which made
  rw [same, ← draft_turn] at later
  have admits : Draft.empty.Admits (.diagnostic which) := by cases which <;> rfl
  exact read_eq_ok_iff.mpr ⟨_, spelled.cons (.flag written), Draft.foldlM_set_cons.mpr ⟨admits, later⟩⟩

end

end Options

end StoryScript.CommandLine

import Mathlib.Data.String.Basic
import StoryScript.CommandLine.Options

namespace StoryScript.CommandLine

/-- What a run can be asked to say about itself. -/
inductive Diagnostic where
  /-- The chain of causes of a failure. -/
  | debug
  /-- The log. -/
  | verbose
deriving DecidableEq, Repr

def Diagnostic.flags : Diagnostic → List String
  | .debug => ["--debug"]
  | .verbose => ["--verbose", "-v"]

/-- An argument that asks for nothing but diagnostics. -/
def isDiagnostic (argument : String) : Bool :=
  argument ∈ Diagnostic.debug.flags ++ Diagnostic.verbose.flags

theorem isDiagnostic_iff_eq {argument : String} :
    isDiagnostic argument = true ↔ argument = "--debug" ∨ argument = "--verbose" ∨ argument = "-v" := by
  simp [isDiagnostic, Diagnostic.flags]

theorem isDiagnostic_of_mem_flags {diagnostic : Diagnostic} {argument : String}
    (flag : argument ∈ diagnostic.flags) : isDiagnostic argument = true := by
  cases diagnostic with
  | debug => exact decide_eq_true (List.mem_append_left _ flag)
  | verbose => exact decide_eq_true (List.mem_append_right _ flag)

/-- The name of a file is never mistaken for a flag. -/
theorem isDiagnostic_of_file {path : String} (file : Draft.isFileArgument path = true) : isDiagnostic path = false := by
  rw [← Bool.not_eq_true, isDiagnostic_iff_eq]
  rintro (rfl | rfl | rfl) <;> exact absurd file (by decide)

/-- A command line without the diagnostics that it asks for. -/
def plain (arguments : List String) : List String :=
  arguments.filter (!isDiagnostic ·)

def Draft.quiet (draft : Draft) : Draft :=
  { draft with debug := false, verbose := false }

def Options.quiet (options : Options) : Options :=
  { options with debug := false, verbose := false }

def FileOption.flag : FileOption → String
  | .input => "--in"
  | .output => "--out"

theorem FileOption.flag_of_ofName? {name : List Char} {option : FileOption} (named : ofName? name = some option) :
    option.flag.toList = '-' :: '-' :: name := by
  unfold ofName? at named
  split at named
  · cases named
    simp_all [flag]
  · split at named
    · cases named
      simp_all [flag]
    · cases named

theorem FileOption.exists_name (option : FileOption) :
    ∃ name, option.flag.toList = '-' :: '-' :: name ∧ ofName? name = some option ∧ '=' ∉ name := by
  cases option with
  | input => exact ⟨['i', 'n'], by simp [flag], rfl, by simp⟩
  | output => exact ⟨['o', 'u', 't'], by simp [flag], rfl, by simp⟩

namespace Argument

theorem ofText_dashed {text : String} {rest : List Char} (written : text.toList = '-' :: '-' :: rest)
    (more : rest ≠ []) : ofText text = long rest := by
  rw [ofText, written]
  cases rest with
  | nil => exact absurd rfl more
  | cons c rest => rfl

theorem ofText_flag (option : FileOption) : ofText option.flag = .fileNext option := by
  cases option <;> decide

/-- A file may be named behind an `=`, whatever characters its name has. -/
theorem ofText_joined (option : FileOption) (path : String) :
    ofText (option.flag ++ "=" ++ path) = .file option path := by
  obtain ⟨name, flag, named, free⟩ := option.exists_name
  have written : (option.flag ++ "=" ++ path).toList = '-' :: '-' :: (name ++ '=' :: path.toList) := by simp [flag]
  have cut : Text.cutAt? '=' (name ++ '=' :: path.toList) = some (name, path.toList) :=
    Text.cutAt?_eq_some_iff.mpr ⟨rfl, free⟩
  rw [ofText_dashed written (by simp), long, cut]
  dsimp only
  rw [named, String.ofList_toList]

/-- The one text with a meaning; what means nothing has many. -/
def text : Argument → String
  | fileNext option => option.flag
  | file option path => option.flag ++ "=" ++ path
  | debug => "--debug"
  | verbose => "--verbose"
  | help => "--help"
  | version => "--version"
  | flags letters => "-" ++ String.ofList letters
  | endOfOptions => "--"
  | unknown => ""

theorem text_long {written : List Char} (known : long written ≠ .unknown) :
    (long written).text.toList = '-' :: '-' :: written := by
  have spelled {word : String} (same : String.ofList written = word) :
      ("--" ++ word).toList = '-' :: '-' :: written := by
    rw [← same]
    simp
  unfold long at known ⊢
  split at known
  · rename_i name path cut
    split at known
    · rename_i named
      simp [text, FileOption.flag_of_ofName? named, (Text.cutAt?_eq_some_iff.mp cut).1]
    · exact absurd rfl known
  · split at known
    · rename_i named
      simp [text, FileOption.flag_of_ofName? named]
    · split at known
      · rename_i same
        exact spelled same
      · rename_i same
        exact spelled same
      · rename_i same
        exact spelled same
      · rename_i same
        exact spelled same
      · exact absurd rfl known

theorem text_of_ofText {written : String} {argument : Argument} (meaning : ofText written = argument)
    (known : argument ≠ .unknown) : written = argument.text := by
  subst meaning
  rw [← String.toList_inj]
  unfold ofText at known ⊢
  split at known
  · rename_i dashes
    rw [dashes]
    rfl
  · rename_i dashed
    rw [dashed]
    exact (text_long known).symm
  · rename_i dashed
    rw [dashed]
    simp [text]
  · exact absurd rfl known

theorem exists_cons_of_flags {written : String} {letters : List Char} (meaning : ofText written = .flags letters) :
    ∃ letter rest, letters = letter :: rest := by
  cases letters with
  | nil =>
    rw [text_of_ofText meaning nofun] at meaning
    exact absurd meaning (by decide)
  | cons letter rest => exact ⟨letter, rest, rfl⟩

/-- What asks for nothing but diagnostics. -/
def IsDiagnostic (argument : Argument) : Prop :=
  argument = .debug ∨ argument = .verbose ∨ argument = .flags ['v']

/-- Diagnostics are asked for by flags that stand alone. -/
theorem isDiagnostic_iff {text : String} : isDiagnostic text = true ↔ (ofText text).IsDiagnostic := by
  rw [isDiagnostic_iff_eq]
  constructor
  · rintro (rfl | rfl | rfl)
    · exact Or.inl (by decide)
    · exact Or.inr (Or.inl (by decide))
    · exact Or.inr (Or.inr (by decide))
  · rintro (debug | verbose | flags)
    · exact Or.inl (text_of_ofText debug nofun)
    · exact Or.inr (Or.inl (text_of_ofText verbose nofun))
    · exact Or.inr (Or.inr (text_of_ofText flags nofun))

end Argument

namespace Draft

theorem quiet_setFile (draft : Draft) (option : FileOption) (path : String) :
    draft.quiet.setFile option path = (draft.setFile option path).map quiet := by
  unfold setFile
  split
  · rfl
  · cases option with
    | input =>
      cases given : draft.input.isSome <;> simp [quiet, given, Except.map]
    | output =>
      cases given : draft.output.isSome <;> simp [quiet, given, Except.map]

theorem setDebug_cases (draft : Draft) :
    draft.setDebug = .error .refused ∨ ∃ next, draft.setDebug = .ok next ∧ next.quiet = draft.quiet := by
  unfold setDebug
  split
  · exact Or.inl rfl
  · exact Or.inr ⟨_, rfl, rfl⟩

theorem setVerbose_cases (draft : Draft) :
    draft.setVerbose = .error .refused ∨
      ∃ next, draft.setVerbose = .ok next ∧ next.quiet = draft.quiet ∧ next.verbose = true := by
  unfold setVerbose
  split
  · exact Or.inl rfl
  · exact Or.inr ⟨_, rfl, rfl, rfl⟩

theorem readFlags_verbose (draft : Draft) : draft.readFlags ['v'] = draft.setVerbose := by
  rw [readFlags]
  cases draft.setVerbose <;> rfl

/-- A letter that sets nothing decides by itself what comes of the flags it begins. -/
theorem readFlags_decided {letter : Char} (rest : List Char) (other : letter ≠ 'v') :
    ∃ verdict, ∀ draft : Draft, draft.readFlags (letter :: rest) = .error verdict := by
  by_cases help : letter = 'h'
  · exact ⟨.help, fun draft => by rw [help, readFlags]⟩
  · by_cases version : letter = 'V'
    · exact ⟨.version, fun draft => by rw [version, readFlags]⟩
    · exact ⟨.refused, fun draft => by rw [readFlags] <;> assumption⟩

/-- Of flags that are more than the one for diagnostics comes the same without those asked for
before. -/
theorem readFlags_quiet {draft : Draft} {letter : Char} {rest : List Char} (more : letter :: rest ≠ ['v'])
    (accepted : draft.readFlags (letter :: rest) ≠ .error .refused) :
    ∃ verdict, draft.readFlags (letter :: rest) = .error verdict ∧
      draft.quiet.readFlags (letter :: rest) = .error verdict := by
  by_cases sets : letter = 'v'
  · subst sets
    rw [readFlags] at accepted ⊢
    cases rest with
    | nil => exact absurd rfl more
    | cons second others =>
      rcases draft.setVerbose_cases with refused | ⟨next, set, _, verbose⟩
      · rw [refused] at accepted
        exact absurd rfl accepted
      · rw [set] at accepted ⊢
        by_cases again : second = 'v'
        · subst again
          change (do (← next.setVerbose).readFlags others) ≠ _ at accepted
          rw [setVerbose, if_pos verbose] at accepted
          exact absurd rfl accepted
        · obtain ⟨verdict, decided⟩ := readFlags_decided others again
          exact ⟨verdict, decided next, decided _⟩
  · obtain ⟨verdict, decided⟩ := readFlags_decided rest sets
    exact ⟨verdict, decided draft, decided draft.quiet⟩

theorem plain_cons_of_kept {text : String} (rest : List String) (kept : ¬ (Argument.ofText text).IsDiagnostic) :
    plain (text :: rest) = text :: plain rest := by
  rw [← Argument.isDiagnostic_iff, Bool.not_eq_true] at kept
  rw [plain, List.filter_cons_of_pos (by rw [kept]; rfl), plain]

theorem plain_cons_of_dropped {text : String} (rest : List String) (asks : (Argument.ofText text).IsDiagnostic) :
    plain (text :: rest) = plain rest := by
  rw [← Argument.isDiagnostic_iff] at asks
  rw [plain, List.filter_cons_of_neg (by rw [asks]; exact nofun), plain]

section Reading

variable {rest : List String} {update : Except Verdict Draft}
  (accepted : (do (← update).readArguments rest) ≠ .error .refused)
  (later : ∀ next : Draft, next.readArguments rest ≠ .error .refused →
    next.quiet.readArguments (plain rest) = (next.readArguments rest).map quiet)

include accepted later

theorem readArguments_kept :
    (do (← update.map quiet).readArguments (plain rest)) =
      (do (← update).readArguments rest : Except _ _).map quiet := by
  cases update with
  | error verdict => rfl
  | ok next => exact later next accepted

theorem readArguments_dropped {draft : Draft}
    (set : update = .error .refused ∨ ∃ next, update = .ok next ∧ next.quiet = draft.quiet) :
    draft.quiet.readArguments (plain rest) = (do (← update).readArguments rest : Except _ _).map quiet := by
  rcases set with rfl | ⟨next, rfl, same⟩
  · exact absurd rfl accepted
  · rw [← same]
    exact later next accepted

end Reading

/-- Diagnostics change nothing else in what is read, as long as they are not asked for twice. -/
theorem readArguments_plain {draft : Draft} {arguments : List String}
    (accepted : draft.readArguments arguments ≠ .error .refused) :
    draft.quiet.readArguments (plain arguments) = (draft.readArguments arguments).map quiet := by
  have kept {text : String} {argument : Argument} (meaning : Argument.ofText text = argument)
      (other : argument ≠ .debug ∧ argument ≠ .verbose ∧ argument ≠ .flags ['v']) (rest : List String) :
      plain (text :: rest) = text :: plain rest := by
    refine plain_cons_of_kept rest fun asks => ?_
    rw [meaning] at asks
    rcases asks with debug | verbose | flags
    · exact other.1 debug
    · exact other.2.1 verbose
    · exact other.2.2 flags
  induction draft, arguments using readArguments.induct with
  | case1 draft => rfl
  | case2 draft text option meaning =>
    rw [readArguments, meaning] at accepted
    exact absurd rfl accepted
  | case3 draft text option meaning path more file ih =>
    have named : plain (path :: more) = path :: plain more := by
      rw [plain, List.filter_cons_of_pos (by rw [isDiagnostic_of_file file]; rfl), plain]
    rw [readArguments, meaning] at accepted
    rw [kept meaning (by simp), named, readArguments, meaning, readArguments, meaning]
    simp only [file, if_true] at accepted ⊢
    rw [quiet_setFile]
    exact readArguments_kept accepted ih
  | case4 draft text option meaning path more other =>
    rw [readArguments, meaning] at accepted
    simp only [other] at accepted
    exact absurd rfl accepted
  | case5 draft text rest option path meaning ih =>
    rw [readArguments, meaning] at accepted
    rw [kept meaning (by simp), readArguments, meaning, readArguments, meaning]
    dsimp only
    rw [quiet_setFile]
    exact readArguments_kept accepted ih
  | case6 draft text rest meaning ih =>
    rw [readArguments, meaning] at accepted
    rw [plain_cons_of_dropped rest (Or.inl meaning), readArguments.eq_2, meaning]
    exact readArguments_dropped accepted ih draft.setDebug_cases
  | case7 draft text rest meaning ih =>
    rw [readArguments, meaning] at accepted
    rw [plain_cons_of_dropped rest (Or.inr (Or.inl meaning)), readArguments.eq_2, meaning]
    refine readArguments_dropped accepted ih (draft.setVerbose_cases.imp_right ?_)
    rintro ⟨next, set, same, _⟩
    exact ⟨next, set, same⟩
  | case8 draft text rest letters meaning ih =>
    rw [readArguments, meaning] at accepted
    by_cases alone : letters = ['v']
    · subst alone
      rw [plain_cons_of_dropped rest (Or.inr (Or.inr meaning)), readArguments.eq_2, meaning]
      dsimp only at accepted ⊢
      rw [readFlags_verbose] at accepted ⊢
      refine readArguments_dropped accepted ih (draft.setVerbose_cases.imp_right ?_)
      rintro ⟨next, set, same, _⟩
      exact ⟨next, set, same⟩
    · obtain ⟨letter, more, rfl⟩ := Argument.exists_cons_of_flags meaning
      dsimp only at accepted
      have unrefused : draft.readFlags (letter :: more) ≠ .error .refused := fun refused => by
        rw [refused] at accepted
        exact accepted rfl
      obtain ⟨verdict, loud, silent⟩ := readFlags_quiet alone unrefused
      rw [kept meaning (by simpa using alone), readArguments, meaning, readArguments, meaning]
      dsimp only
      rw [loud, silent]
      rfl
  | case9 draft text rest meaning =>
    rw [kept meaning (by simp), readArguments, meaning, readArguments, meaning]
    rfl
  | case10 draft text rest meaning =>
    rw [kept meaning (by simp), readArguments, meaning, readArguments, meaning]
    rfl
  | case11 draft text rest meaning last =>
    rw [List.isEmpty_iff.mp last, kept meaning (by simp), readArguments, meaning, readArguments, meaning]
    rfl
  | case12 draft text rest meaning more =>
    rw [readArguments, meaning] at accepted
    simp only [more] at accepted
    exact absurd rfl accepted
  | case13 draft text rest meaning =>
    rw [readArguments, meaning] at accepted
    exact absurd rfl accepted

theorem quiet_finish (draft : Draft) : draft.quiet.finish = draft.finish.map Options.quiet := by
  unfold finish quiet
  cases draft.input <;> rfl

end Draft

/-- A command line that is accepted means the same without its diagnostics, except for them. -/
theorem Options.read_plain {arguments : List String} (accepted : read arguments ≠ .error .refused) :
    read (plain arguments) = (read arguments).map quiet := by
  unfold read at accepted ⊢
  have unrefused : Draft.empty.readArguments arguments ≠ .error .refused := fun refused => by
    rw [refused] at accepted
    exact accepted rfl
  have same : Draft.empty.readArguments (plain arguments) = _ := Draft.readArguments_plain unrefused
  rw [same]
  cases Draft.empty.readArguments arguments with
  | error verdict => rfl
  | ok draft => exact draft.quiet_finish

end StoryScript.CommandLine

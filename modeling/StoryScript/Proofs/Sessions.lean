import StoryScript.CommandLine.Session
import StoryScript.Proofs.JobEffects
import StoryScript.Proofs.OptionGroups

namespace StoryScript.CommandLine

open Files FileView

variable {σ : Type}

/-- What a run leaves besides its diagnostics. -/
def shown (ran : Exit × σ) : UInt32 × String × σ :=
  (ran.1.code, ran.1.stdout, ran.2)

theorem Spells.file {settings : List Setting} {arguments : List String} (later : Spells settings arguments)
    (option : FileOption) (path : String) {name : String} (flag : option.flag ++ "=" = name) :
    Spells (.file option path :: settings) ((name ++ path) :: arguments) := by
  subst flag
  exact later.cons (.joined option path)

theorem Spells.nil : Spells [] [] :=
  ⟨[], .nil, Or.inl rfl⟩

theorem Options.read_input {input : String} (named : input ≠ "") :
    read ["--in=" ++ input] = .ok ⟨input, none, false, false⟩ := by
  have spelled := Spells.nil.file .input input (show _ = "--in=" by decide)
  exact read_eq_ok_iff.mpr ⟨_, spelled, Draft.foldlM_set_cons.mpr ⟨⟨named, rfl⟩, rfl⟩⟩

theorem Options.read_input_output {input output : String} (named : input ≠ "") (written : output ≠ "") :
    read ["--in=" ++ input, "--out=" ++ output] = .ok ⟨input, some output, false, false⟩ := by
  have last := Spells.nil.file .output output (show _ = "--out=" by decide)
  have spelled := last.file .input input (show _ = "--in=" by decide)
  exact read_eq_ok_iff.mpr ⟨_, spelled, Draft.foldlM_set_cons.mpr
    ⟨⟨named, rfl⟩, Draft.foldlM_set_cons.mpr ⟨⟨written, rfl⟩, rfl⟩⟩⟩

variable [Files (StateM σ)]

section

variable {s after : σ} (options : Options) {outcome : Job.Outcome}
  (ran : (Job.run ⟨options.input, options.output⟩ : StateM σ Job.Outcome).run s = (outcome, after))
  (asked : Option Log.Filter)

include ran

theorem Options.run_of_ok {product : Job.Product} (done : outcome.result = .ok product) :
    (options.run asked : StateM σ Exit).run s =
      (⟨0, if options.output.isSome then "" else product.text, Log.render (options.filter asked) outcome.log⟩,
        after) := by
  rw [Options.run, run_bind_of_run ran]
  dsimp only
  rw [done]
  rfl

theorem Options.run_of_error {failure : Failure} (failed : outcome.result = .error failure) :
    (options.run asked : StateM σ Exit).run s =
      (⟨1, "", Log.render (options.filter asked) outcome.log ++ report options failure⟩, after) := by
  rw [Options.run, run_bind_of_run ran]
  dsimp only
  rw [failed]
  rfl

end

/-- Diagnostics decide about nothing but the text of the log and of the report. -/
theorem Options.shown_run (s : σ) (options : Options) (asked : Option Log.Filter) :
    shown ((options.run asked : StateM σ Exit).run s) =
      shown ((options.quiet.run none : StateM σ Exit).run s) := by
  obtain ⟨outcome, after, ran⟩ : ∃ outcome after,
      (Job.run ⟨options.input, options.output⟩ : StateM σ Job.Outcome).run s = (outcome, after) := ⟨_, _, rfl⟩
  have silent : (Job.run ⟨options.quiet.input, options.quiet.output⟩ : StateM σ Job.Outcome).run s =
      (outcome, after) := ran
  cases result : outcome.result with
  | ok product => rw [options.run_of_ok ran asked result, options.quiet.run_of_ok silent none result]; rfl
  | error failure => rw [options.run_of_error ran asked result, options.quiet.run_of_error silent none result]; rfl

theorem run_of_read {arguments : List String} {options : Options} (read : Options.read arguments = .ok options)
    (asked : Option Log.Filter) : (run arguments asked : StateM σ Exit) = options.run asked := by
  rw [run, read]

theorem shown_run_plain (s : σ) {arguments : List String}
    (accepted : Options.read arguments ≠ .error .refused) (asked : Option Log.Filter) :
    shown ((run arguments asked : StateM σ Exit).run s) =
      shown ((run (plain arguments) none : StateM σ Exit).run s) := by
  have plainly := Options.read_plain accepted
  cases read : Options.read arguments with
  | ok options =>
    rw [read] at plainly
    rw [run_of_read read, run_of_read plainly]
    exact options.shown_run s asked
  | error verdict =>
    rw [read] at plainly
    rw [run, read, run, plainly]
    cases verdict <;> rfl

variable [FileView σ]

/-- How a run that prints its module and one that writes it to `output` end alike: with the same
module, or with the same report and nothing else. -/
inductive EndAlike (s : σ) (input output : String) : Exit × σ → Exit × σ → Prop
  | done {text log wrote : String} {after : σ} (stores : Stores after output text.toUTF8) :
      EndAlike s input output (⟨0, text, log⟩, s) (⟨0, "", wrote⟩, after)
  | failed {log other : String} (failure : Failure) :
      EndAlike s input output
        (⟨1, "", log ++ report ⟨input, none, false, false⟩ failure⟩, s)
        (⟨1, "", other ++ report ⟨input, none, false, false⟩ failure⟩, s)

variable [LawfulFiles σ]

/-- A run that writes its module ends like the run that prints it, as long as the output can be
made. -/
theorem run_ends_alike {s : σ} {input output : String} {file : Handle (StateM σ)}
    (named : input ≠ "") (written : output ≠ "") (opens : opened s output = .ok file)
    (asked other : Option Log.Filter) :
    EndAlike s input output
      ((run ["--in=" ++ input] asked : StateM σ Exit).run s)
      ((run ["--in=" ++ input, "--out=" ++ output] other : StateM σ Exit).run s) := by
  obtain ⟨outcome, _, compiled⟩ := Job.run_compile s input
  have printed := Job.run_without_output compiled
  rw [run_of_read (Options.read_input named), run_of_read (Options.read_input_output named written)]
  cases result : outcome.result with
  | error failure =>
    have failed := Job.run_of_failure compiled result (some output)
    rw [Options.run_of_error ⟨input, none, false, false⟩ printed asked result,
      Options.run_of_error ⟨input, some output, false, false⟩ failed other result]
    exact .failed failure
  | ok product =>
    obtain ⟨after, replaces, wrote⟩ := Job.run_of_opened_output compiled result opens
    rw [Options.run_of_ok ⟨input, none, false, false⟩ printed asked result,
      Options.run_of_ok ⟨input, some output, false, false⟩ wrote other result]
    exact .done replaces.stores

/-- Where the module goes and what a run is asked to say about itself decide nothing else: a run
that writes ends like one that prints, and command lines that differ in diagnostics show and leave
the same. Any diagnostic can be taken back, and asked for where it was not. -/
theorem runs_agree (s : σ) :
    (∀ (input output : String) (file : Handle (StateM σ)) (asked other : Option Log.Filter),
      input ≠ "" → output ≠ "" → opened s output = .ok file →
      EndAlike s input output
        ((run ["--in=" ++ input] asked : StateM σ Exit).run s)
        ((run ["--in=" ++ input, "--out=" ++ output] other : StateM σ Exit).run s)) ∧
    (∀ (first second : List String) (asked other : Option Log.Filter),
      Options.read first ≠ .error .refused → Options.read second ≠ .error .refused →
      plain first = plain second →
      shown ((run first asked : StateM σ Exit).run s) =
        shown ((run second other : StateM σ Exit).run s)) ∧
    (∀ arguments, Options.read arguments ≠ .error .refused → Options.read (plain arguments) ≠ .error .refused) ∧
    ∀ (arguments : List String) (options : Options) (which : Diagnostic),
      Options.read arguments = .ok options →
      Options.read (arguments.filter (· ∉ which.flags)) = .ok (options.turn false which) ∧
      (options.asks which = false → ∀ flag ∈ which.flags,
        Options.read (flag :: arguments) = .ok (options.turn true which)) := by
  refine ⟨?_, ?_, ?_, ?_⟩
  · intro input output file asked other named written opens
    exact run_ends_alike named written opens asked other
  · intro first second asked other accepted again same
    rw [shown_run_plain s accepted asked, shown_run_plain s again other, same]
  · intro arguments accepted
    rw [Options.read_plain accepted]
    cases read : Options.read arguments with
    | error verdict =>
      rw [read] at accepted
      exact accepted
    | ok options => exact nofun
  · intro arguments options which accepted
    exact ⟨Options.read_without accepted which, fun silent flag written => Options.read_with accepted written silent⟩

/-- The output exists, is longer than the module and is named from the root. Diagnostics are asked for by
a short flag, behind the input or not at all. -/
theorem runs_agree_over_old_output :
    let directory : Directory :=
      { working := ⟨["home"]⟩
        entries := [(⟨["home"]⟩, .folder .full), (⟨["home", "s"]⟩, .file .full "Hi".toUTF8),
          (⟨["home", "o"]⟩, .file .full ⟨.replicate 999 0⟩)] }
    let module := Module.imports ++ "game.say(`Hi`);\ngame.scope = \"g\";"
    (∃ log wrote after,
      (run ["--in=/home/s"] none : StateM Directory Exit).run directory = (⟨0, module, log⟩, directory) ∧
      (run ["--in=/home/s", "--out=/home/o"] (some .off) : StateM Directory Exit).run directory =
        (⟨0, "", wrote⟩, after) ∧
      Stores after "/home/o" module.toUTF8) ∧
    shown ((run ["-v", "--in=/home/s"] none : StateM Directory Exit).run directory) = (0, module, directory) ∧
    shown ((run ["--in=/home/s", "--debug"] (some .off) : StateM Directory Exit).run directory) =
      (0, module, directory) ∧
    Options.read ["--in=s", "--"] = .ok ⟨"s", none, false, false⟩ := by
  intro directory module
  have compiled : (Story.compileSource "Hi").result = .ok module := by
    rw [Story.compileSource_eq_transcript]
    rfl
  have printed : ∃ log,
      (run ["--in=/home/s"] none : StateM Directory Exit).run directory = (⟨0, module, log⟩, directory) := by
    obtain ⟨outcome, compiles, unchanged⟩ := Job.run_compile directory "/home/s"
    have told : Holds directory "/home/s" "Hi" := ⟨"Hi".toUTF8, by decide, by decide⟩
    have done : outcome.result = .ok ⟨"/home/s", module⟩ := compiles.unique (.done told compiled)
    have read : Options.read ["--in=/home/s"] = .ok ⟨"/home/s", none, false, false⟩ := by decide
    rw [run_of_read read]
    exact ⟨_, Options.run_of_ok ⟨"/home/s", none, false, false⟩ (Job.run_without_output unchanged) none done⟩
  obtain ⟨log, printed⟩ := printed
  obtain ⟨alike, same, _, asking⟩ := runs_agree directory
  have opens : opened directory "/home/o" = .ok (⟨["home", "o"]⟩ : Location) := by
    rw [Directory.opened_eq]
    decide
  have wrote : EndAlike directory "/home/s" "/home/o"
      ((run ["--in=/home/s"] none : StateM Directory Exit).run directory)
      ((run ["--in=/home/s", "--out=/home/o"] (some .off) : StateM Directory Exit).run directory) :=
    alike "/home/s" "/home/o" _ none (some .off) (by decide) (by decide) opens
  have early := same ["-v", "--in=/home/s"] ["--in=/home/s"] none none (by decide) (by decide) (by decide)
  have late := same ["--in=/home/s", "--debug"] ["--in=/home/s"] (some .off) none (by decide) (by decide) (by decide)
  have taken := (asking ["--in=s", "--debug", "--"] ⟨"s", none, true, false⟩ .debug (by decide)).1
  rw [printed] at early late wrote
  refine ⟨?_, early, late, taken⟩
  generalize (run ["--in=/home/s", "--out=/home/o"] (some .off) : StateM Directory Exit).run directory = writing
    at wrote ⊢
  cases wrote with
  | done stores => exact ⟨log, _, _, printed, rfl, stores⟩

end StoryScript.CommandLine

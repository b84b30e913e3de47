import StoryScript.Job
import StoryScript.Proofs.FileChanges
import StoryScript.Proofs.Streaming

namespace StoryScript

open FileView

namespace Files

variable {σ : Type} [Files (StateM σ)]

/-- A path leads to a file that can be read and holds a text. -/
def Holds (s : σ) (path source : String) : Prop :=
  ∃ bytes, contents s path = .ok bytes ∧ String.fromUTF8? bytes = some source

theorem Holds.unique {s : σ} {path source other : String} (holds : Holds s path source)
    (again : Holds s path other) : source = other := by
  obtain ⟨bytes, read, utf8⟩ := holds
  obtain ⟨same, readAgain, utf8Again⟩ := again
  cases read.symm.trans readAgain
  exact Option.some.inj (utf8.symm.trans utf8Again)

variable [FileView σ]

/-- Why no text can be had from a path. -/
inductive Withholds (s : σ) (path : String) : Failure → Prop
  | missing : find? s path = none → Withholds s path (.inputMissing path)
  | unreadable {place error} : find? s path = some place → contents s path = .error error →
      Withholds s path (.file error)
  | notUtf8 {bytes} : contents s path = .ok bytes → String.fromUTF8? bytes = none →
      Withholds s path (.file .notUtf8)

variable [LawfulFiles σ] {s : σ} {path source : String} {failure : Failure}

theorem Withholds.not_holds (withholds : Withholds s path failure) : ¬ Holds s path source := by
  rintro ⟨bytes, read, utf8⟩
  cases withholds with
  | missing absent =>
    obtain ⟨place, found⟩ := find?_of_contents read
    cases absent.symm.trans found
  | unreadable _ refused => cases refused.symm.trans read
  | notUtf8 same broken =>
    cases same.symm.trans read
    cases broken.symm.trans utf8

theorem Withholds.unique {other : Failure} (withholds : Withholds s path failure)
    (again : Withholds s path other) : failure = other := by
  have present {bytes : ByteArray} (read : contents s path = .ok bytes) (absent : find? s path = none) : False := by
    obtain ⟨place, found⟩ := find?_of_contents read
    cases absent.symm.trans found
  cases withholds with
  | missing absent =>
    cases again with
    | missing _ => rfl
    | unreadable found _ => cases absent.symm.trans found
    | notUtf8 read _ => exact (present read absent).elim
  | unreadable found refused =>
    cases again with
    | missing absent => cases absent.symm.trans found
    | unreadable _ same => cases refused.symm.trans same; rfl
    | notUtf8 read _ => cases refused.symm.trans read
  | notUtf8 read _ =>
    cases again with
    | missing absent => exact (present read absent).elim
    | unreadable _ refused => cases refused.symm.trans read
    | notUtf8 _ _ => rfl

end Files

open Files

namespace Job

variable {σ : Type} [Files (StateM σ)]

section

variable {s : σ} {input : String} {outcome : Outcome}
  (compiled : ∀ output, (compile ⟨input, output⟩ : StateM σ Outcome).run s = (outcome, s))

include compiled

theorem run_without_output : (run ⟨input, none⟩ : StateM σ Outcome).run s = (outcome, s) := by
  rw [run, run_bind_of_run (compiled none)]
  cases outcome.result <;> rfl

theorem run_of_failure {failure : Failure} (failed : outcome.result = .error failure) (output : Option String) :
    (run ⟨input, output⟩ : StateM σ Outcome).run s = (outcome, s) := by
  rw [run, run_bind_of_run (compiled output)]
  dsimp only
  rw [failed]
  cases output <;> rfl

end

variable [FileView σ]

/-- What comes of compiling an input, by what can be had from it. -/
inductive Compiles (s : σ) (input : String) : Except Failure Product → Prop
  | withheld {failure} : Withholds s input failure → Compiles s input (.error failure)
  | refused {source fault} : Holds s input source → (Story.compileSource source).result = .error fault →
      Compiles s input (.error fault.toFailure)
  | done {source text} : Holds s input source → (Story.compileSource source).result = .ok text →
      Compiles s input (.ok ⟨input, text⟩)

/-- Why a job fails. The output is looked at only when there is a module to write. -/
inductive Fails (s : σ) (job : Job) : Failure → Prop
  | early {failure} : Compiles s job.input (.error failure) → Fails s job failure
  | output {product path error} : Compiles s job.input (.ok product) → job.output = some path →
      opened s path = .error error → Fails s job (.file error)

/-- Only the output is new in `after`: the path names a file that holds the text and gives a reader
nothing else, and at every other place stands what stood there. -/
def Adds (s after : σ) (text : String) : Option String → Prop
  | none => after = s
  | some path => (∃ file, opened s path = .ok file) ∧ Replaces s after path text.toUTF8 ∧
    ∀ bytes, contents after path = .ok bytes → bytes = text.toUTF8

/-- How a job ends, and in which state. -/
inductive Ends (s : σ) (job : Job) : Except Failure Product → σ → Prop
  | failed {failure} : Fails s job failure → Ends s job (.error failure) s
  | done {product after} : Compiles s job.input (.ok product) → Adds s after product.text job.output →
      Ends s job (.ok product) after

variable [LawfulFiles σ]

theorem Compiles.unique {s : σ} {input : String} {result other : Except Failure Product}
    (compiles : Compiles s input result) (again : Compiles s input other) : result = other := by
  cases compiles with
  | withheld withholds =>
    cases again with
    | withheld same => rw [withholds.unique same]
    | refused holds _ => exact absurd holds withholds.not_holds
    | done holds _ => exact absurd holds withholds.not_holds
  | refused holds refused =>
    cases again with
    | withheld withholds => exact absurd holds withholds.not_holds
    | refused same again => cases holds.unique same; cases refused.symm.trans again; rfl
    | done same done => cases holds.unique same; cases refused.symm.trans done
  | done holds done =>
    cases again with
    | withheld withholds => exact absurd holds withholds.not_holds
    | refused same refused => cases holds.unique same; cases refused.symm.trans done
    | done same again => cases holds.unique same; cases done.symm.trans again; rfl

theorem Fails.unique {s : σ} {job : Job} {failure other : Failure} (fails : Fails s job failure)
    (again : Fails s job other) : failure = other := by
  cases fails with
  | early compiles =>
    cases again with
    | early same => exact Except.error.inj (compiles.unique same)
    | output same _ _ => cases compiles.unique same
  | output compiles named refused =>
    cases again with
    | early same => cases compiles.unique same
    | output _ namedAgain refusedAgain =>
      cases named.symm.trans namedAgain
      cases refused.symm.trans refusedAgain
      rfl

theorem Fails.not_done {s after : σ} {job : Job} {failure : Failure} {product : Product}
    (fails : Fails s job failure) (compiles : Compiles s job.input (.ok product)) :
    ¬ Adds s after product.text job.output := by
  intro adds
  cases fails with
  | early same => cases compiles.unique same
  | output _ named refused =>
    rw [named] at adds
    obtain ⟨⟨file, opens⟩, _⟩ := adds
    cases refused.symm.trans opens

/-- A text is read as it stands, or there is a reason why it cannot be had; nothing is changed. -/
theorem run_readStory (s : σ) (path : String) :
    (∃ source, Holds s path source ∧ (readStory path : StateM σ (Except Failure String)).run s = (.ok source, s)) ∨
    ∃ failure, Withholds s path failure ∧
      (readStory path : StateM σ (Except Failure String)).run s = (.error failure, s) := by
  unfold readStory
  rw [run_bind_of_run (LawfulFiles.run_isPresent s path)]
  cases found : find? s path with
  | none => exact Or.inr ⟨.inputMissing path, .missing found, rfl⟩
  | some place =>
    rw [Option.isSome_some, if_pos rfl, run_bind_of_run (LawfulFiles.run_read s path)]
    cases read : contents s path with
    | error error => exact Or.inr ⟨.file error, .unreadable found read, rfl⟩
    | ok bytes =>
      dsimp only
      cases utf8 : String.fromUTF8? bytes with
      | none => exact Or.inr ⟨.file .notUtf8, .notUtf8 read utf8, rfl⟩
      | some source => exact Or.inl ⟨source, ⟨bytes, read, utf8⟩, rfl⟩

/-- Compiling gives one outcome whatever the output is, and changes nothing. -/
theorem run_compile (s : σ) (input : String) :
    ∃ outcome : Outcome, Compiles s input outcome.result ∧
      ∀ output, (compile ⟨input, output⟩ : StateM σ Outcome).run s = (outcome, s) := by
  rcases run_readStory s input with ⟨source, holds, ran⟩ | ⟨failure, withheld, ran⟩
  · cases result : (Story.compileSource source).result with
    | error fault =>
      refine ⟨⟨.compiling input :: (Story.compileSource source).log, .error fault.toFailure⟩,
        .refused holds result, fun output => ?_⟩
      rw [compile, run_bind_of_run ran]
      dsimp only
      rw [result]
      rfl
    | ok text =>
      refine ⟨⟨.compiling input :: (Story.compileSource source).log ++ [.generated text.utf8ByteSize],
        .ok ⟨input, text⟩⟩, .done holds result, fun output => ?_⟩
      rw [compile, run_bind_of_run ran]
      dsimp only
      rw [result]
      rfl
  · refine ⟨⟨[], .error failure⟩, .withheld withheld, fun output => ?_⟩
    rw [compile, run_bind_of_run ran]
    rfl

theorem run_writeTo_of_refused {s : σ} {path : String} {error : FileError} (product : Product)
    (refused : opened s path = .error error) :
    (product.writeTo path : StateM σ (Except Failure Unit)).run s = (.error (.file error), s) := by
  rw [Product.writeTo, run_bind_of_run (LawfulFiles.run_create_error refused)]
  rfl

theorem run_writeTo_of_opened {s : σ} {path : String} {file : Handle (StateM σ)} (product : Product)
    (opens : opened s path = .ok file) :
    ∃ after, Replaces s after path product.text.toUTF8 ∧
      (product.writeTo path : StateM σ (Except Failure Unit)).run s = (.ok (), after) := by
  obtain ⟨created, after, ran, wrote, replaces⟩ := run_create_write opens product.text.toUTF8
  refine ⟨after, replaces, ?_⟩
  rw [Product.writeTo, run_bind_of_run ran]
  dsimp only
  rw [run_bind_of_run wrote]
  rfl

section

variable {s : σ} {input : String} {outcome : Outcome}
  (compiled : ∀ output, (compile ⟨input, output⟩ : StateM σ Outcome).run s = (outcome, s))

include compiled

theorem run_of_refused_output {product : Product} (done : outcome.result = .ok product) {path : String}
    {error : FileError} (refused : opened s path = .error error) :
    (run ⟨input, some path⟩ : StateM σ Outcome).run s = ({ outcome with result := .error (.file error) }, s) := by
  rw [run, run_bind_of_run (compiled (some path))]
  dsimp only
  rw [done]
  exact run_bind_of_run (run_writeTo_of_refused product refused)

theorem run_of_opened_output {product : Product} (done : outcome.result = .ok product) {path : String}
    {file : Handle (StateM σ)} (opens : opened s path = .ok file) :
    ∃ after, Replaces s after path product.text.toUTF8 ∧
      (run ⟨input, some path⟩ : StateM σ Outcome).run s =
        ({ outcome with log := outcome.log ++ [.wrote path] }, after) := by
  obtain ⟨after, replaces, wrote⟩ := run_writeTo_of_opened product opens
  refine ⟨after, replaces, ?_⟩
  rw [run, run_bind_of_run (compiled (some path))]
  dsimp only
  rw [done]
  exact run_bind_of_run wrote

end

theorem run_ends (s : σ) (job : Job) :
    ∃ outcome after, (run job : StateM σ Outcome).run s = (outcome, after) ∧ Ends s job outcome.result after := by
  obtain ⟨input, output⟩ := job
  obtain ⟨outcome, compiles, compiled⟩ := run_compile s input
  cases result : outcome.result with
  | error failure =>
    rw [result] at compiles
    exact ⟨outcome, s, run_of_failure compiled result output, result ▸ .failed (.early compiles)⟩
  | ok product =>
    rw [result] at compiles
    cases output with
    | none => exact ⟨outcome, s, run_without_output compiled, result ▸ .done compiles rfl⟩
    | some path =>
      cases opens : opened s path with
      | error error =>
        exact ⟨_, s, run_of_refused_output compiled result opens, .failed (.output compiles rfl opens)⟩
      | ok file =>
        obtain ⟨after, replaces, ran⟩ := run_of_opened_output compiled result opens
        have adds : Adds s after product.text (some path) :=
          ⟨⟨file, opens⟩, replaces, fun _ got => contents_of_stores replaces.stores got⟩
        exact ⟨_, after, ran, by rw [result]; exact .done compiles adds⟩

/-- A job changes nothing unless it succeeds, and then nothing but its output. An input or a story
that is at fault is reported whatever the output is. The module comes from what the input held
before, so the output may be the input itself. -/
theorem run_all_or_nothing (s : σ) (input : String) :
    (∃ outcome, ∀ output, (compile ⟨input, output⟩ : StateM σ Outcome).run s = (outcome, s)) ∧
    ∀ output, ∃ outcome after, (run ⟨input, output⟩ : StateM σ Outcome).run s = (outcome, after) ∧
      (∀ failure, outcome.result = .error failure ↔ Fails s ⟨input, output⟩ failure) ∧
      (∀ failure, outcome.result = .error failure → after = s) ∧
      ∀ product, outcome.result = .ok product → Adds s after product.text output ∧ product.source = input ∧
        ∃ source, Holds s input source ∧ (Story.compileSource source).result = .ok product.text := by
  obtain ⟨compiled, _, unchanged⟩ := run_compile s input
  refine ⟨⟨compiled, unchanged⟩, fun output => ?_⟩
  obtain ⟨outcome, after, ran, ends⟩ := run_ends s ⟨input, output⟩
  refine ⟨outcome, after, ran, ?_⟩
  generalize outcome.result = result at ends
  cases ends with
  | failed fails =>
    refine ⟨fun failure => ⟨?_, fun again => congrArg _ (fails.unique again)⟩, fun _ _ => rfl, nofun⟩
    rintro ⟨⟩
    exact fails
  | done compiles adds =>
    refine ⟨fun failure => ⟨nofun, fun fails => absurd adds (fails.not_done compiles)⟩, nofun, ?_⟩
    rintro product ⟨⟩
    cases compiles with
    | done holds done => exact ⟨adds, rfl, _, holds, done⟩

/-- A story is replaced by its own module. A file that may not be written keeps what it holds, and where
the story is at fault as well, the story is reported. -/
theorem run_all_or_nothing_in_place :
    let directory : Directory :=
      { working := ⟨["home"]⟩
        entries := [(⟨["home"]⟩, .folder .full), (⟨["home", "s"]⟩, .file .full "Hi".toUTF8),
          (⟨["home", "t"]⟩, .file .full ">b go".toUTF8), (⟨["home", "kept"]⟩, .file ⟨true, false, false⟩ "old".toUTF8)] }
    let module := Module.imports ++ "game.say(`Hi`);\ngame.scope = \"g\";"
    (∃ outcome after, (run ⟨"/home/s", some "/home/s"⟩ : StateM Directory Outcome).run directory = (outcome, after) ∧
      outcome.result = .ok ⟨"/home/s", module⟩ ∧ after.read "/home/s" = .ok module.toUTF8) ∧
    (∃ outcome, (run ⟨"s", some "/home/kept"⟩ : StateM Directory Outcome).run directory = (outcome, directory) ∧
      outcome.result = .error (.file .denied) ∧ directory.read "/home/kept" = .ok "old".toUTF8) ∧
    ∃ outcome, (run ⟨"t", some "kept"⟩ : StateM Directory Outcome).run directory = (outcome, directory) ∧
      outcome.result = .error (.story 1 "Choice (>) found before the beginning of a node.") := by
  intro directory module
  have compiled : (Story.compileSource "Hi").result = .ok module := by
    rw [Story.compileSource_eq_transcript]
    rfl
  have told : Holds directory "s" "Hi" := ⟨"Hi".toUTF8, by decide, by decide⟩
  have toldAgain : Holds directory "/home/s" "Hi" := ⟨"Hi".toUTF8, by decide, by decide⟩
  have offered : Holds directory "t" ">b go" := ⟨">b go".toUTF8, by decide, by decide⟩
  have refused : (Story.compileSource ">b go").result = .error ⟨1, .choiceOutsideNode⟩ := by
    rw [Story.compileSource_eq_transcript]
    rfl
  refine ⟨?_, ?_, ?_⟩
  · obtain ⟨outcome, after, ran, fails, _, adds⟩ := (run_all_or_nothing directory "/home/s").2 (some "/home/s")
    refine ⟨outcome, after, ran, ?_⟩
    have allowed : directory.writable "/home/s" = .ok ⟨["home", "s"]⟩ := by decide
    cases result : outcome.result with
    | error failure =>
      cases (fails failure).mp result with
      | early again => cases again.unique (.done toldAgain compiled)
      | output _ named rejected =>
        cases named
        rw [Directory.opened_eq, allowed] at rejected
        cases rejected
    | ok product =>
      obtain ⟨source, text⟩ := product
      obtain ⟨⟨_, replaces, _⟩, rfl, source, held, again⟩ := adds _ result
      cases toldAgain.unique held
      obtain rfl : text = module := Except.ok.inj (again.symm.trans compiled)
      have before : directory.read "/home/s" = .ok "Hi".toUTF8 := by decide
      exact ⟨rfl, Directory.read_of_replaces before replaces⟩
  · obtain ⟨outcome, after, ran, fails, kept, _⟩ := (run_all_or_nothing directory "s").2 (some "/home/kept")
    have rejected : opened directory "/home/kept" = .error .denied := by
      rw [Directory.opened_eq]
      decide
    have failed := (fails _).mpr (.output (.done told compiled) rfl rejected)
    cases kept _ failed
    exact ⟨outcome, ran, failed, by decide⟩
  · obtain ⟨outcome, after, ran, fails, kept, _⟩ := (run_all_or_nothing directory "t").2 (some "kept")
    have failed := (fails _).mpr (.early (.refused offered refused))
    cases kept _ failed
    exact ⟨outcome, ran, failed⟩

end Job

end StoryScript

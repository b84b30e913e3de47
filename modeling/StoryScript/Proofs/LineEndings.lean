import Mathlib.Data.List.Chain
import StoryScript.Proofs.SourceLines
import StoryScript.Story

namespace StoryScript.Source

/-- What can stand behind a line to end it. -/
inductive Ending where
  | lineFeed
  | carriageReturn
  | both
deriving DecidableEq, Repr

def Ending.text : Ending → String
  | lineFeed => "\n"
  | carriageReturn => "\r"
  | both => "\r\n"

/-- A line together with what ends it. -/
structure EndedLine where
  text : String
  ending : Ending
  oneLine : IsOneLine text

def EndedLine.print (line : EndedLine) : String :=
  line.text ++ line.ending.text

/-- The carriage return of the first line and the line feed of the second one, which is empty, would
be read as one ending. -/
def EndedLine.MergesWith (first second : EndedLine) : Prop :=
  first.ending = .carriageReturn ∧ second.text = "" ∧ second.ending = .lineFeed

/-- A source text as it is written line by line. The last line may lack its ending unless it is
empty, in which case there is no such line. -/
structure Writing where
  ended : List EndedLine
  last : String
  oneLine : IsOneLine last
  apart : ended.IsChain fun first second => ¬ first.MergesWith second

namespace Writing

def text (writing : Writing) : String :=
  String.join (writing.ended.map EndedLine.print) ++ writing.last

def lines (writing : Writing) : List String :=
  writing.ended.map EndedLine.text ++ if writing.last = "" then [] else [writing.last]

/-- Puts a line in front. -/
def cons (line : EndedLine) (writing : Writing)
    (apart : ∀ next ∈ writing.ended.head?, ¬ line.MergesWith next) : Writing :=
  { writing with ended := line :: writing.ended, apart := writing.apart.cons apart }

theorem text_cons (line : EndedLine) (writing : Writing)
    (apart : ∀ next ∈ writing.ended.head?, ¬ line.MergesWith next) :
    (cons line writing apart).text = line.text ++ line.ending.text ++ writing.text := by
  simp [cons, text, EndedLine.print, String.append_assoc]

theorem lines_cons (line : EndedLine) (writing : Writing)
    (apart : ∀ next ∈ writing.ended.head?, ¬ line.MergesWith next) :
    (cons line writing apart).lines = line.text :: writing.lines := rfl

theorem isOneLine_of_mem_lines {writing : Writing} {line : String} (member : line ∈ writing.lines) :
    IsOneLine line := by
  rcases List.mem_append.mp member with early | late
  · obtain ⟨ended, _, rfl⟩ := List.mem_map.mp early
    exact ended.oneLine
  · split at late
    · cases late
    · rw [List.mem_singleton.mp late]
      exact writing.oneLine

/-- A writing begins with a line feed only if its first line is empty and ended by one. -/
theorem head?_text_eq_lineFeed_iff (writing : Writing) :
    writing.text.toList.head? = some '\n' ↔
      ∃ first ∈ writing.ended.head?, first.text = "" ∧ first.ending = .lineFeed := by
  obtain ⟨ended, last, oneLine, apart⟩ := writing
  cases ended with
  | nil =>
    have other : last.toList.head? ≠ some '\n' := fun fed => (oneLine _ (List.mem_of_mem_head? fed)).1 rfl
    simpa [text] using other
  | cons first rest =>
    simp only [text, List.map_cons, String.join_cons, EndedLine.print, String.toList_append, List.append_assoc,
      List.head?_cons, Option.mem_some_iff, exists_eq_left']
    cases chars : first.text.toList with
    | nil =>
      have empty : first.text = "" := String.toList_eq_nil_iff.mp chars
      cases ending : first.ending <;> simp [empty, Ending.text]
    | cons c more =>
      have feedless := (first.oneLine c (chars ▸ List.mem_cons_self)).1
      have full : first.text ≠ "" := fun empty => by simp [empty] at chars
      simp [feedless, full]

end Writing

theorem splitFrom_carriageReturn {rest : List Char} (line : List Char) (alone : rest.head? ≠ some '\n') :
    splitFrom line ('\r' :: rest) = line :: splitFrom [] rest := by
  cases rest with
  | nil => rfl
  | cons next more =>
    have other : next ≠ '\n' := by simpa using alone
    rw [splitFrom]
    rintro _ ⟨⟩
    exact other rfl

theorem splitFrom_ended {line : EndedLine} {rest : List Char}
    (alone : line.ending = .carriageReturn → rest.head? ≠ some '\n') :
    splitFrom [] (line.text.toList ++ (line.ending.text.toList ++ rest)) = line.text.toList :: splitFrom [] rest := by
  rw [splitFrom_append line.oneLine, List.nil_append]
  cases ending : line.ending with
  | lineFeed => rfl
  | both => rfl
  | carriageReturn => exact splitFrom_carriageReturn _ (alone ending)

theorem splitFrom_last {last : List Char} (oneLine : ∀ c ∈ last, c ≠ '\n' ∧ c ≠ '\r') :
    splitFrom [] last = if last = [] then [] else [last] := by
  have whole := splitFrom_append oneLine [] []
  rw [List.append_nil, List.nil_append] at whole
  simp [whole, splitFrom]

/-- Lines are found again as they were written, whatever ends them. -/
theorem lines_text (writing : Writing) : lines writing.text = writing.lines := by
  obtain ⟨ended, last, oneLine, apart⟩ := writing
  rw [lines_eq_splitFrom]
  induction ended with
  | nil =>
    simp only [Writing.text, Writing.lines, List.map_nil, String.join_nil, String.empty_append, List.nil_append,
      splitFrom_last oneLine, String.toList_eq_nil_iff]
    split <;> simp
  | cons line rest ih =>
    obtain ⟨before, behind⟩ := List.isChain_cons.mp apart
    let later : Writing := ⟨rest, last, oneLine, behind⟩
    have alone : line.ending = .carriageReturn → later.text.toList.head? ≠ some '\n' := by
      intro returned fed
      obtain ⟨next, first, empty, ending⟩ := later.head?_text_eq_lineFeed_iff.mp fed
      exact before next first ⟨returned, empty, ending⟩
    change (splitFrom [] (Writing.cons line later before).text.toList).map String.ofList = _
    rw [Writing.text_cons, String.append_assoc, String.toList_append, String.toList_append, splitFrom_ended alone,
      List.map_cons, ih behind, String.ofList_toList]
    rfl

/-- Every text that goes on from the characters in `line` can be written by its lines. -/
theorem exists_writing_of_splitFrom (line rest : List Char) (oneLine : ∀ c ∈ line, c ≠ '\n' ∧ c ≠ '\r') :
    ∃ writing : Writing, writing.text.toList = line ++ rest ∧
      writing.lines = (splitFrom line rest).map String.ofList := by
  have ended (line : List Char) (oneLine : ∀ c ∈ line, c ≠ '\n' ∧ c ≠ '\r') (ending : Ending) :
      ∃ first : EndedLine, first.text = String.ofList line ∧ first.ending = ending :=
    ⟨⟨String.ofList line, ending, by rwa [IsOneLine, String.toList_ofList]⟩, rfl, rfl⟩
  fun_induction splitFrom line rest with
  | case1 line empty => exact ⟨⟨[], "", by simp [IsOneLine], .nil⟩, by simp_all [Writing.text], rfl⟩
  | case2 line full =>
    refine ⟨⟨[], String.ofList line, by rwa [IsOneLine, String.toList_ofList], .nil⟩, by simp [Writing.text], ?_⟩
    have named : String.ofList line ≠ "" := by simpa using full
    simp [Writing.lines, named]
  | case3 line rest ih =>
    obtain ⟨later, text, lines⟩ := ih (by simp)
    obtain ⟨first, written, ending⟩ := ended line oneLine .lineFeed
    refine ⟨.cons first later fun _ _ merges => by simp [merges.1] at ending, ?_, ?_⟩
    · simp [Writing.text_cons, written, ending, text, Ending.text]
    · simp [Writing.lines_cons, written, lines]
  | case4 line rest ih =>
    obtain ⟨later, text, lines⟩ := ih (by simp)
    obtain ⟨first, written, ending⟩ := ended line oneLine .both
    refine ⟨.cons first later fun _ _ merges => by simp [merges.1] at ending, ?_, ?_⟩
    · simp [Writing.text_cons, written, ending, text, Ending.text]
    · simp [Writing.lines_cons, written, lines]
  | case5 line rest alone ih =>
    obtain ⟨later, text, lines⟩ := ih (by simp)
    obtain ⟨first, written, ending⟩ := ended line oneLine .carriageReturn
    -- A line feed right behind the carriage return would have belonged to it.
    have unfed : later.text.toList.head? ≠ some '\n' := by
      rw [text, List.nil_append]
      exact head?_ne_of_alone alone
    have apart : ∀ next ∈ later.ended.head?, ¬ first.MergesWith next := fun next begins merges =>
      unfed (later.head?_text_eq_lineFeed_iff.mpr ⟨next, begins, merges.2⟩)
    refine ⟨.cons first later apart, ?_, ?_⟩
    · simp [Writing.text_cons, written, ending, text, Ending.text]
    · simp [Writing.lines_cons, written, lines]
  | case6 line c rest noFeed _ noReturn ih =>
    have longer : ∀ d ∈ line ++ [c], d ≠ '\n' ∧ d ≠ '\r' :=
      List.forall_mem_append.mpr ⟨oneLine, by simpa using ⟨noFeed, noReturn⟩⟩
    obtain ⟨writing, text, lines⟩ := ih longer
    exact ⟨writing, by simpa using text, lines⟩

theorem exists_writing (source : String) :
    ∃ writing : Writing, writing.text = source ∧ writing.lines = lines source := by
  obtain ⟨writing, text, lines⟩ := exists_writing_of_splitFrom [] source.toList (by simp)
  exact ⟨writing, String.toList_inj.mp text, lines.trans (lines_eq_splitFrom source).symm⟩

/-- Characters with a line feed in place of every other ending. -/
def unify : List Char → List Char
  | '\r' :: '\n' :: rest => '\n' :: unify rest
  | '\r' :: rest => '\n' :: unify rest
  | c :: rest => c :: unify rest
  | [] => []

def unified (source : String) : String :=
  String.ofList (unify source.toList)

theorem splitFrom_unify (line rest : List Char) : splitFrom line (unify rest) = splitFrom line rest := by
  fun_induction unify rest generalizing line with
  | case1 rest ih => rw [splitFrom, splitFrom, ih]
  | case2 rest alone ih =>
    rw [splitFrom, splitFrom_carriageReturn line (head?_ne_of_alone alone), ih]
  | case3 c rest _ noReturn ih =>
    by_cases feed : c = '\n'
    · subst feed
      rw [splitFrom, splitFrom, ih]
    · have oneLine : ∀ d ∈ [c], d ≠ '\n' ∧ d ≠ '\r' := by simpa using ⟨feed, noReturn⟩
      have unread := splitFrom_append oneLine line (unify rest)
      have read := splitFrom_append oneLine line rest
      rw [List.singleton_append] at unread read
      rw [unread, read, ih]
  | case4 => rfl

theorem lines_unified (source : String) : lines (unified source) = lines source := by
  rw [lines_eq_splitFrom, lines_eq_splitFrom, unified, String.toList_ofList, splitFrom_unify]

/-- A stretch of a source text that lies in it and begins and ends between two characters. -/
structure Span.Fits (source : String) (span : Span) : Prop where
  ordered : span.start ≤ span.stop
  inside : span.stop ≤ source.utf8ByteSize
  validStart : String.Pos.Raw.IsValid source ⟨span.start⟩
  validStop : String.Pos.Raw.IsValid source ⟨span.stop⟩

theorem isValid_of_toList {source : String} {front back : List Char} (whole : source.toList = front ++ back) :
    String.Pos.Raw.IsValid source ⟨String.utf8Len front⟩ := by
  refine String.Pos.Raw.isValid_iff_exists_append.mpr ⟨String.ofList front, String.ofList back, ?_, ?_⟩
  · rw [← String.ofList_append, ← whole, String.ofList_toList]
  · rw [String.rawEndPos, String.utf8ByteSize_ofList]

/-- A line that is ended where the scan stands fits, and behind its ending the scan begins afresh. -/
theorem fits_ended {source : String} {done more : List Char} {start : Nat} (ending : List Char)
    (whole : source.toList = done ++ (ending ++ more)) (before : start ≤ String.utf8Len done)
    (valid : String.Pos.Raw.IsValid source ⟨start⟩)
    (later : ∀ done, source.toList = done ++ more →
      ∀ span ∈ spansFrom (String.utf8Len done) (String.utf8Len done) (more.flatMap String.utf8EncodeChar),
        span.Fits source) :
    ∀ span ∈ ⟨start, String.utf8Len done⟩ :: spansFrom (String.utf8Len done + String.utf8Len ending)
        (String.utf8Len done + String.utf8Len ending) (more.flatMap String.utf8EncodeChar),
      span.Fits source := by
  refine List.forall_mem_cons.mpr ⟨?_, ?_⟩
  · have stop := isValid_of_toList whole
    exact ⟨before, stop.le_rawEndPos, valid, stop⟩
  · rw [← String.utf8Len_append]
    exact later (done ++ ending) (by rw [whole, List.append_assoc])

/-- Where the scan stands between two characters, every span that it still finds fits. -/
theorem fits_of_mem_spansFrom {source : String} {done rest : List Char} {start : Nat}
    (whole : source.toList = done ++ rest) (before : start ≤ String.utf8Len done)
    (valid : String.Pos.Raw.IsValid source ⟨start⟩) :
    ∀ span ∈ spansFrom start (String.utf8Len done) (rest.flatMap String.utf8EncodeChar), span.Fits source := by
  induction rest using unify.induct generalizing done start with
  | case1 rest ih =>
    have bytes : ('\r' :: '\n' :: rest).flatMap String.utf8EncodeChar =
        carriageReturn :: lineFeed :: rest.flatMap String.utf8EncodeChar := rfl
    rw [bytes, spansFrom_both]
    exact fits_ended ['\r', '\n'] whole before valid fun _ later => ih later le_rfl (isValid_of_toList later)
  | case2 rest alone ih =>
    rw [spansFrom_encoded_return _ _ (head?_ne_of_alone alone)]
    exact fits_ended ['\r'] whole before valid fun _ later => ih later le_rfl (isValid_of_toList later)
  | case3 c rest _ noReturn ih =>
    by_cases feed : c = '\n'
    · subst feed
      have bytes : ('\n' :: rest).flatMap String.utf8EncodeChar = lineFeed :: rest.flatMap String.utf8EncodeChar := rfl
      rw [bytes, spansFrom_lineFeed]
      exact fits_ended ['\n'] whole before valid fun _ later => ih later le_rfl (isValid_of_toList later)
    · have further : String.utf8Len (done ++ [c]) = String.utf8Len done + c.utf8Size := by simp
      rw [spansFrom_encoded_other _ _ _ feed noReturn, ← further]
      exact ih (by simp [whole]) (by omega) valid
  | case4 =>
    intro span member
    rw [List.flatMap_nil, spansFrom] at member
    split at member
    · rw [List.mem_singleton.mp member]
      have stop := isValid_of_toList whole
      exact ⟨before, stop.le_rawEndPos, valid, stop⟩
    · cases member

theorem fits_of_mem_lineSpans {source : String} {span : Span} (member : span ∈ lineSpans source) :
    span.Fits source := by
  have bytes := toUTF8_eq_flatMap source.toList
  rw [String.ofList_toList] at bytes
  rw [lineSpans, bytes] at member
  have whole : source.toList = [] ++ source.toList := rfl
  exact fits_of_mem_spansFrom whole le_rfl (isValid_of_toList whole) span member

/-- Splitting a source into lines undoes the writing of lines. Lines that are written with any
endings are found again, and every source is the writing of its lines; so neither they nor the
module of a story tell how the lines were ended. The scan goes over bytes, yet it splits between
characters. -/
theorem lines_invert_writing :
    (∀ writing : Writing, lines writing.text = writing.lines) ∧
    (∀ source, ∃ writing : Writing, writing.text = source ∧ writing.lines = lines source) ∧
    (∀ source, ∀ line ∈ lines source, IsOneLine line) ∧
    (∀ source, lines (unified source) = lines source ∧
      Story.compileSource (unified source) = Story.compileSource source) ∧
    (∀ first second : Writing, first.lines = second.lines →
      Story.compileSource first.text = Story.compileSource second.text) ∧
    ∀ source, lines source = (splitFrom [] source.toList).map String.ofList ∧
      ∀ span ∈ lineSpans source, span.Fits source := by
  refine ⟨lines_text, exists_writing, fun source line member => ?_, fun source => ⟨lines_unified source, ?_⟩,
    fun first second same => ?_, fun source => ⟨lines_eq_splitFrom source, fun _ => fits_of_mem_lineSpans⟩⟩
  · obtain ⟨writing, _, written⟩ := exists_writing source
    exact Writing.isOneLine_of_mem_lines (written ▸ member)
  · rw [Story.compileSource, Story.compileSource, lines_unified]
  · rw [Story.compileSource, Story.compileSource, lines_text, lines_text, same]

/-- All three endings, an empty line behind a lone carriage return and a last line without an
ending. -/
theorem lines_invert_writing_mixed :
    lines "=a= A\r\rHé\r\n\n>b go" = ["=a= A", "", "Hé", "", ">b go"] ∧
      Story.compileSource "=a= A\r\rHé\r\n\n>b go" = Story.compileSource "=a= A\n\nHé\n\n>b go\n" := by
  let mixed : Writing := ⟨[⟨"=a= A", .carriageReturn, by decide⟩, ⟨"", .carriageReturn, by decide⟩,
    ⟨"Hé", .both, by decide⟩, ⟨"", .lineFeed, by decide⟩], ">b go", by decide, by simp [EndedLine.MergesWith]⟩
  let plain : Writing := ⟨[⟨"=a= A", .lineFeed, by decide⟩, ⟨"", .lineFeed, by decide⟩, ⟨"Hé", .lineFeed, by decide⟩,
    ⟨"", .lineFeed, by decide⟩, ⟨">b go", .lineFeed, by decide⟩], "", by decide, by simp [EndedLine.MergesWith]⟩
  obtain ⟨found, _, _, _, agree, _⟩ := lines_invert_writing
  have texts : mixed.text = "=a= A\r\rHé\r\n\n>b go" ∧ plain.text = "=a= A\n\nHé\n\n>b go\n" := by decide
  exact ⟨texts.1 ▸ found mixed, texts.1 ▸ texts.2 ▸ agree mixed plain rfl⟩

end StoryScript.Source

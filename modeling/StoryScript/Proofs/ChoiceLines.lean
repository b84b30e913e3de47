import StoryScript.Proofs.FirstOffence
import StoryScript.Proofs.ReadBack

namespace StoryScript.Choice

open Text (IsPadding)

theorem undivided {text : String} (padding : IsPadding text) : ';' ∉ text.toList :=
  padding.not_mem (by decide)

/-- How the forms are written behind the space of a choice line, with any padding around their
parts. -/
inductive Form.Spelled : Form → String → Prop
  | plain {description p q : String} : IsPadding p → IsPadding q →
      Spelled (.plain description) (p ++ description ++ q)
  | withArgument {description argument p q u v : String} :
      IsPadding p → IsPadding q → IsPadding u → IsPadding v →
      Spelled (.withArgument description argument) (p ++ description ++ q ++ ";" ++ u ++ argument ++ v)
  | conditional {condition argument p q u v w : String} :
      IsPadding p → IsPadding q → IsPadding u → IsPadding v → IsPadding w →
      Spelled (.conditional condition argument) (p ++ "?" ++ q ++ condition ++ u ++ ";" ++ v ++ argument ++ w)

/-- The shapes of a choice line. -/
inductive Shape where
  /-- An id and nothing behind it. -/
  | bare
  /-- An id and nothing but padding behind it. -/
  | padded
  | formed (form : Form)
  /-- A condition that no `;` closes. -/
  | unfinished
deriving DecidableEq, Repr

/-- The form in which a shape is offered. Only an unfinished condition has none. -/
def Shape.form? : Shape → Option Form
  | bare | padded => some (.plain "continue")
  | formed form => some form
  | unfinished => none

/-- The choice lines, each with its id and its shape. -/
inductive Spelled : String → String → Shape → Prop
  | bare {id : String} : ' ' ∉ id.toList → Spelled (">" ++ id) id .bare
  | padded {id p : String} : ' ' ∉ id.toList → IsPadding p → Spelled (">" ++ id ++ " " ++ p) id .padded
  | formed {id rest : String} {form : Form} : ' ' ∉ id.toList → form.IsCanonical → form.Spelled rest →
      Spelled (">" ++ id ++ " " ++ rest) id (.formed form)
  | unfinished {id p asked : String} : ' ' ∉ id.toList → IsPadding p → ';' ∉ asked.toList →
      Spelled (">" ++ id ++ " " ++ p ++ "?" ++ asked) id .unfinished

namespace Form

/-- Of what stands behind an id, the first `;` ends the description. -/
theorem read?_of_split {front back : List Char} (unsplit : ';' ∉ front)
    (unasked : (Text.trimChars front).head? ≠ some '?') :
    read? (Text.trimChars (front ++ ';' :: back)) =
      some (.withArgument (Text.trim (String.ofList front)) (Text.trim (String.ofList back))) := by
  rw [Text.trimChars_around (by decide)]
  have clear : ';' ∉ front.dropWhile Text.isPadding := fun member => unsplit ((List.dropWhile_suffix _).subset member)
  have other : (front.dropWhile Text.isPadding ++ ';' :: back.rdropWhile Text.isPadding).head? ≠ some '?' := by
    cases kept : front.dropWhile Text.isPadding with
    | nil => simp
    | cons c rest =>
      intro asks
      have first : (front.dropWhile Text.isPadding).head? = some '?' := by rw [kept]; exact asks
      have early := Text.head?_trimChars (by decide) first
      rw [Text.trimChars_dropWhile] at early
      exact unasked early
  rw [read?_of_unasked (by simp) other, Text.cutAt?_eq_some_iff.mpr ⟨rfl, clear⟩]
  simp [← String.toList_inj, Text.trimChars_dropWhile, Text.trimChars_rdropWhile]

/-- Behind a question mark, the first `;` ends the condition. -/
theorem read?_of_condition {pad front back : List Char} (blank : Text.IsBlank pad) (unsplit : ';' ∉ front) :
    read? (Text.trimChars (pad ++ '?' :: (front ++ ';' :: back))) =
      some (.conditional (Text.trim (String.ofList front)) (Text.trim (String.ofList back))) := by
  have chars : pad ++ '?' :: (front ++ ';' :: back) = (pad ++ '?' :: front) ++ ';' :: back := by simp
  have asked : (pad ++ '?' :: front).dropWhile Text.isPadding = '?' :: front := by
    rw [Text.dropWhile_append blank]
    rfl
  rw [chars, Text.trimChars_around (by decide), asked, List.cons_append, read?,
    Text.cutAt?_eq_some_iff.mpr ⟨rfl, unsplit⟩]
  simp [← String.toList_inj, Text.trimChars_rdropWhile]

/-- Padding around the parts of a canonical form makes no difference to what is read. -/
theorem Spelled.reads {form : Form} {rest : String} (spelled : form.Spelled rest) (canonical : form.IsCanonical) :
    read? (Text.trimChars rest.toList) = some form := by
  cases spelled with
  | @plain description p q before behind =>
    have trimmed : Text.trim description = description := canonical.2.1
    have printed := read?_print canonical
    rw [print, ← Text.trim_toList, trimmed] at printed
    rw [← Text.trim_toList, Text.trim_padded before behind trimmed, printed]
  | @withArgument description argument p q u v before behind early late =>
    obtain ⟨first, second, unsplit, unasked⟩ := canonical
    have chars : (p ++ description ++ q ++ ";" ++ u ++ argument ++ v).toList =
        (p ++ description ++ q).toList ++ ';' :: (u ++ argument ++ v).toList := by simp
    have clear : ';' ∉ (p ++ description ++ q).toList := by
      simp [undivided before, undivided behind, unsplit]
    have named := Text.trim_padded before behind first
    have other : (Text.trimChars (p ++ description ++ q).toList).head? ≠ some '?' := by
      rwa [← Text.trim_toList, named]
    rw [chars, read?_of_split clear other]
    simp only [String.ofList_toList, named, Text.trim_padded early late second]
  | @conditional condition argument p q u v w before early behind inner late =>
    obtain ⟨first, second, unsplit⟩ := canonical
    have chars : (p ++ "?" ++ q ++ condition ++ u ++ ";" ++ v ++ argument ++ w).toList =
        p.toList ++ '?' :: ((q ++ condition ++ u).toList ++ ';' :: (v ++ argument ++ w).toList) := by simp
    have clear : ';' ∉ (q ++ condition ++ u).toList := by
      simp [undivided early, undivided behind, unsplit]
    rw [chars, read?_of_condition before clear]
    simp only [String.ofList_toList, Text.trim_padded early behind first, Text.trim_padded inner late second]

theorem Spelled.not_padding {form : Form} {rest : String} (spelled : form.Spelled rest) (canonical : form.IsCanonical) :
    ¬ IsPadding rest := by
  intro padding
  cases spelled with
  | @plain description p q before behind =>
    obtain ⟨full, trimmed, _, _⟩ := canonical
    have nothing : Text.trim (p ++ description ++ q) = "" := by
      rw [← String.toList_inj, Text.trim_toList, Text.trimChars_of_all_padding padding]
      rfl
    rw [Text.trim_padded before behind trimmed] at nothing
    exact full nothing
  | withArgument => exact undivided padding (by simp)
  | conditional => exact undivided padding (by simp)

end Form

namespace Form

section Spellings

variable {p q : String} (before : IsPadding p) (behind : IsPadding q)

include before behind

theorem spelled_conditional {condition : String} (argument : String) (unsplit : ';' ∉ condition.toList) :
    (conditional (Text.trim condition) (Text.trim argument)).IsCanonical ∧
      (conditional (Text.trim condition) (Text.trim argument)).Spelled
        (p ++ ("?" ++ condition ++ ";" ++ argument) ++ q) := by
  refine ⟨⟨Text.trim_trim condition, Text.trim_trim argument, Text.not_mem_trim unsplit⟩, ?_⟩
  obtain ⟨p₁, q₁, early, late, first⟩ := Text.eq_padded condition
  obtain ⟨p₂, q₂, inner, outer, second⟩ := Text.eq_padded argument
  have parts : p ++ ("?" ++ condition ++ ";" ++ argument) ++ q =
      p ++ "?" ++ p₁ ++ Text.trim condition ++ q₁ ++ ";" ++ p₂ ++ Text.trim argument ++ (q₂ ++ q) := by
    conv => lhs; rw [first, second]
    simp only [String.append_assoc]
  rw [parts]
  exact .conditional before early late inner (outer.append behind)

theorem spelled_withArgument {description : String} (argument : String) (unsplit : ';' ∉ description.toList)
    (unasked : (Text.trim description).toList.head? ≠ some '?') :
    (withArgument (Text.trim description) (Text.trim argument)).IsCanonical ∧
      (withArgument (Text.trim description) (Text.trim argument)).Spelled
        (p ++ (description ++ ";" ++ argument) ++ q) := by
  refine ⟨⟨Text.trim_trim description, Text.trim_trim argument, Text.not_mem_trim unsplit, unasked⟩, ?_⟩
  obtain ⟨p₁, q₁, early, late, first⟩ := Text.eq_padded description
  obtain ⟨p₂, q₂, inner, outer, second⟩ := Text.eq_padded argument
  have parts : p ++ (description ++ ";" ++ argument) ++ q =
      (p ++ p₁) ++ Text.trim description ++ q₁ ++ ";" ++ p₂ ++ Text.trim argument ++ (q₂ ++ q) := by
    conv => lhs; rw [first, second]
    simp only [String.append_assoc]
  rw [parts]
  exact .withArgument (before.append early) late inner (outer.append behind)

end Spellings

/-- A text that is trimmed and asks for nothing does not ask for anything before its first `;` either. -/
theorem unasked_of_split {front back : List Char} (trimmed : Text.trimChars (front ++ ';' :: back) = front ++ ';' :: back)
    (unasked : (front ++ ';' :: back).head? ≠ some '?') : (Text.trimChars front).head? ≠ some '?' := by
  intro asks
  obtain ⟨pad, rest, shape, blank, _⟩ := Text.exists_padding front
  have first : (Text.trimChars front ++ (rest ++ ';' :: back)).head? = some '?' := by rw [List.head?_append, asks]; rfl
  have whole : front ++ ';' :: back = pad ++ (Text.trimChars front ++ (rest ++ ';' :: back)) := by
    conv => lhs; rw [shape]
    simp only [List.append_assoc]
  have early := Text.head?_trimChars (by decide) first
  rw [← Text.trimChars_append_left blank, ← whole, trimmed] at early
  exact unasked early

/-- Whatever is read as a form is one of its spellings. -/
theorem spelled_of_read? {form : Form} {rest : String} (full : ¬ IsPadding rest)
    (read : read? (Text.trimChars rest.toList) = some form) : form.IsCanonical ∧ form.Spelled rest := by
  obtain ⟨p, q, before, behind, shape⟩ := Text.eq_padded rest
  have trimmed := Text.trim_trim rest
  rw [← Text.trim_toList] at read
  generalize Text.trim rest = text at shape trimmed read
  subst shape
  by_cases asks : text.toList.head? = some '?'
  · obtain ⟨asked, letters⟩ : ∃ asked, text.toList = '?' :: asked := List.head?_eq_some_iff.mp asks
    rw [letters, read?] at read
    obtain ⟨⟨condition, argument⟩, cut, rfl⟩ := Option.map_eq_some_iff.mp read
    obtain ⟨rfl, unsplit⟩ := Text.cutAt?_eq_some_iff.mp cut
    have parts : text = "?" ++ String.ofList condition ++ ";" ++ String.ofList argument := by
      simp [← String.toList_inj, letters]
    rw [parts]
    exact spelled_conditional before behind _ (by simpa using unsplit)
  · have nonempty : text.toList ≠ [] := fun nothing => by
      have empty : IsPadding text := by simp [IsPadding, Text.IsBlank, nothing]
      exact full ((before.append empty).append behind)
    rw [read?_of_unasked nonempty asks] at read
    cases cut : Text.cutAt? ';' text.toList with
    | none =>
      rw [cut, String.ofList_toList] at read
      cases read
      exact ⟨⟨by simpa using nonempty, trimmed, Text.cutAt?_eq_none_iff.mp cut, asks⟩, .plain before behind⟩
    | some sides =>
      obtain ⟨description, argument⟩ := sides
      rw [cut] at read
      cases read
      obtain ⟨letters, unsplit⟩ := Text.cutAt?_eq_some_iff.mp cut
      have parts : text = String.ofList description ++ ";" ++ String.ofList argument := by
        simp [← String.toList_inj, letters]
      rw [parts]
      rw [Text.trim_eq_self_iff, letters] at trimmed
      rw [letters] at asks
      have unasked := unasked_of_split trimmed asks
      exact spelled_withArgument before behind _ (by simpa using unsplit) (by simpa using unasked)

end Form

/-- The shape of a choice line by what stands behind its space. -/
def Shape.of (rest : String) : Shape :=
  if Text.trimChars rest.toList = [] then .padded
  else
    match Form.read? (Text.trimChars rest.toList) with
    | some form => .formed form
    | none => .unfinished

theorem Shape.form?_of (rest : String) : (of rest).form? = Form.read? (Text.trimChars rest.toList) := by
  unfold of
  split
  · rename_i nothing
    rw [nothing]
    rfl
  · split
    · rename_i read
      rw [read]
      rfl
    · rename_i unread
      rw [unread]
      rfl

theorem spelled_of {id : String} (rest : String) (spaceless : ' ' ∉ id.toList) :
    Spelled (">" ++ id ++ " " ++ rest) id (.of rest) := by
  unfold Shape.of
  split
  · rename_i nothing
    exact .padded spaceless (Text.trimChars_eq_nil_iff.mp nothing)
  · rename_i full
    rw [Text.trimChars_eq_nil_iff] at full
    split
    · rename_i form read
      obtain ⟨canonical, spelled⟩ := Form.spelled_of_read? full read
      exact .formed spaceless canonical spelled
    · rename_i unread
      obtain ⟨asked, letters, unclosed⟩ := Form.read?_eq_none_iff.mp unread
      obtain ⟨p, q, before, behind, shape⟩ := Text.eq_padded rest
      have parts : rest = p ++ "?" ++ (String.ofList asked ++ q) := by
        conv => lhs; rw [shape]
        simp [← String.toList_inj, letters]
      have unsplit : ';' ∉ (String.ofList asked ++ q).toList := by simp [unclosed, undivided behind]
      have line : ">" ++ id ++ " " ++ rest = ">" ++ id ++ " " ++ p ++ "?" ++ (String.ofList asked ++ q) := by
        rw [parts]
        simp only [String.append_assoc]
      rw [line]
      exact .unfinished spaceless before unsplit

/-- The first space of a choice line, or that there is none, decides between the shapes. -/
theorem Spelled.cut {content id : String} {shape : Shape} (spelled : Spelled content id shape) :
    (content.toList = '>' :: id.toList ∧ ' ' ∉ id.toList ∧ shape = .bare) ∨
      ∃ rest, content.toList = '>' :: (id.toList ++ ' ' :: rest.toList) ∧ ' ' ∉ id.toList ∧ shape = .of rest := by
  cases spelled with
  | bare spaceless => exact Or.inl ⟨by simp, spaceless, rfl⟩
  | @padded _ p spaceless padding =>
    refine Or.inr ⟨p, by simp, spaceless, ?_⟩
    rw [Shape.of, if_pos (Text.trimChars_of_all_padding padding)]
  | @formed _ rest form spaceless canonical spelled =>
    refine Or.inr ⟨rest, by simp, spaceless, ?_⟩
    have full := mt Text.trimChars_eq_nil_iff.mp (spelled.not_padding canonical)
    rw [Shape.of, if_neg full, spelled.reads canonical]
  | @unfinished _ p asked spaceless padding unclosed =>
    refine Or.inr ⟨p ++ "?" ++ asked, by simp, spaceless, ?_⟩
    have trimmed : Text.trimChars (p ++ "?" ++ asked).toList = '?' :: asked.toList.rdropWhile Text.isPadding := by
      have letters : (p ++ "?" ++ asked).toList = p.toList ++ '?' :: asked.toList := by simp
      rw [letters, Text.trimChars_around (by decide), padding.dropWhile, List.nil_append]
    have unsplit : ';' ∉ asked.toList.rdropWhile Text.isPadding := fun member =>
      unclosed ((List.rdropWhile_prefix Text.isPadding asked.toList).subset member)
    rw [Shape.of, trimmed, if_neg (List.cons_ne_nil _ _), Form.read?_eq_none_iff.mpr ⟨_, rfl, unsplit⟩]

theorem Spelled.read?_eq {content id : String} {shape : Shape} (spelled : Spelled content id shape) :
    read? content = shape.form?.map fun form => ⟨id, form⟩ := by
  rcases spelled.cut with ⟨letters, spaceless, rfl⟩ | ⟨rest, letters, spaceless, rfl⟩
  · rw [read?, letters, List.drop_one, List.tail_cons, Text.cutAt_of_free spaceless]
    simp [Form.read?, Shape.form?, defaultDescription]
  · rw [read?, letters, List.drop_one, List.tail_cons, Text.cutAt_append spaceless, Shape.form?_of]
    simp

/-- A line has one id and one shape. -/
theorem Spelled.unique {content id other : String} {shape another : Shape} (spelled : Spelled content id shape)
    (again : Spelled content other another) : other = id ∧ another = shape := by
  have apart {id rest : String} (letters : content.toList = '>' :: (id.toList ++ ' ' :: rest.toList))
      (spaceless : ' ' ∉ id.toList) : Text.cutAt? ' ' (content.toList.drop 1) = some (id.toList, rest.toList) :=
    Text.cutAt?_eq_some_iff.mpr ⟨by rw [letters]; rfl, spaceless⟩
  have whole {id : String} (letters : content.toList = '>' :: id.toList) (spaceless : ' ' ∉ id.toList) :
      Text.cutAt? ' ' (content.toList.drop 1) = none :=
    Text.cutAt?_eq_none_iff.mpr (by rw [letters]; exact spaceless)
  rcases spelled.cut with ⟨letters, spaceless, rfl⟩ | ⟨rest, letters, spaceless, rfl⟩ <;>
    rcases again.cut with ⟨letters', spaceless', rfl⟩ | ⟨rest', letters', spaceless', rfl⟩
  · rw [letters, List.cons.injEq, String.toList_inj] at letters'
    exact ⟨letters'.2.symm, rfl⟩
  · have found := apart letters' spaceless'
    rw [whole letters spaceless] at found
    cases found
  · have found := apart letters spaceless
    rw [whole letters' spaceless'] at found
    cases found
  · have found := apart letters spaceless
    rw [apart letters' spaceless', Option.some.injEq, Prod.mk.injEq, String.toList_inj, String.toList_inj] at found
    exact ⟨found.1, found.2 ▸ rfl⟩

end StoryScript.Choice

namespace StoryScript.Line

theorem exists_cons_of_choice {text : String} {number : Nat} (kind : (classify text number).kind = .choice) :
    ∃ rest, text.toList = '>' :: rest := by
  have classified : (classify text number).IsClassified := ⟨text, number, rfl⟩
  obtain ⟨rest, letters⟩ := classified.choice_content kind
  have same : (classify text number).content = text := content_classify kind (by decide)
  exact ⟨rest, by rw [← same, letters]⟩

theorem kind_of_spelled {text id : String} {shape : Choice.Shape} (number : Nat)
    (spelled : Choice.Spelled text id shape) : (classify text number).kind = .choice := by
  obtain ⟨rest, letters⟩ : ∃ rest, text.toList = '>' :: rest := by
    rcases spelled.cut with ⟨letters, _⟩ | ⟨_, letters, _⟩
    · exact ⟨_, letters⟩
    · exact ⟨_, letters⟩
  rw [classify_kind, letters, read_cons rest (by decide)]
  rfl

theorem exists_spelled {text : String} {number : Nat} (kind : (classify text number).kind = .choice) :
    ∃ id shape, Choice.Spelled text id shape := by
  obtain ⟨rest, letters⟩ := exists_cons_of_choice kind
  cases cut : Text.cutAt? ' ' rest with
  | none =>
    have spaceless := Text.cutAt?_eq_none_iff.mp cut
    have whole : text = ">" ++ String.ofList rest := by simp [← String.toList_inj, letters]
    rw [whole]
    exact ⟨_, _, .bare (by simpa using spaceless)⟩
  | some parts =>
    obtain ⟨id, behind⟩ := parts
    obtain ⟨rfl, spaceless⟩ := Text.cutAt?_eq_some_iff.mp cut
    have whole : text = ">" ++ String.ofList id ++ " " ++ String.ofList behind := by
      simp [← String.toList_inj, letters]
    rw [whole]
    exact ⟨_, _, Choice.spelled_of _ (by simpa using spaceless)⟩

/-- The grammar of choice lines. Every spelling is read as its id and its form, with any padding around
the parts, and every choice line is spelled in one way only. No choice line is left unread but one
whose condition is unfinished. -/
theorem choices_have_shapes :
    (∀ (text id : String) (shape : Choice.Shape), Choice.Spelled text id shape →
      Choice.read? text = shape.form?.map (fun form => ⟨id, form⟩) ∧
      ∀ number, (classify text number).kind = .choice ∧ (classify text number).content = text) ∧
    ∀ (text : String) (number : Nat), (classify text number).kind = .choice →
      (∃ id shape, Choice.Spelled text id shape ∧
        ∀ other another, Choice.Spelled text other another → other = id ∧ another = shape) ∧
      (Choice.read? text = none ↔ ∃ id p asked : String, ' ' ∉ id.toList ∧ Text.IsPadding p ∧ ';' ∉ asked.toList ∧
        text = ">" ++ id ++ " " ++ p ++ "?" ++ asked) := by
  refine ⟨fun text id shape spelled => ⟨spelled.read?_eq, fun number => ?_⟩, fun text number kind => ?_⟩
  · have kind := kind_of_spelled number spelled
    exact ⟨kind, content_classify kind (by decide)⟩
  · obtain ⟨id, shape, spelled⟩ := exists_spelled kind
    refine ⟨⟨id, shape, spelled, fun _ _ => spelled.unique⟩, ?_, ?_⟩
    · intro unread
      rw [spelled.read?_eq, Option.map_eq_none_iff] at unread
      cases spelled with
      | bare => cases unread
      | padded => cases unread
      | formed => cases unread
      | unfinished spaceless padding unclosed => exact ⟨id, _, _, spaceless, padding, unclosed, rfl⟩
    · rintro ⟨id, p, asked, spaceless, padding, unclosed, rfl⟩
      exact (Choice.Spelled.unfinished spaceless padding unclosed).read?_eq

/-- Control characters are dropped around the parts and wider spaces are kept. The second line asks for
a condition and never ends it. -/
theorem choices_have_shapes_padded :
    Choice.Spelled ">b \x01go ;\u00a0x();\t" "b" (.formed (.withArgument "go" "\u00a0x();")) ∧
    Choice.read? ">b \x01go ;\u00a0x();\t" = some ⟨"b", .withArgument "go" "\u00a0x();"⟩ ∧
    (classify ">x ? game.ready" 12).kind = .choice ∧ Choice.read? ">x ? game.ready" = none := by
  have written : Choice.Form.Spelled (.withArgument "go" "\u00a0x();")
      ("\x01" ++ "go" ++ " " ++ ";" ++ "" ++ "\u00a0x();" ++ "\t") :=
    .withArgument (by decide) (by decide) (by decide) (by decide)
  have whole : ">" ++ "b" ++ " " ++ ("\x01" ++ "go" ++ " " ++ ";" ++ "" ++ "\u00a0x();" ++ "\t") =
      ">b \x01go ;\u00a0x();\t" := by decide
  have spelled : Choice.Spelled ">b \x01go ;\u00a0x();\t" "b" (.formed (.withArgument "go" "\u00a0x();")) := by
    rw [← whole]
    exact .formed (by decide) (by decide) written
  have kind : (classify ">x ? game.ready" 12).kind = .choice := by decide
  have unread := (choices_have_shapes.2 ">x ? game.ready" 12 kind).2.mpr
    ⟨"x", "", " game.ready", by decide, by decide, by decide, by decide⟩
  exact ⟨spelled, (choices_have_shapes.1 _ _ _ spelled).1, kind, unread⟩

end StoryScript.Line

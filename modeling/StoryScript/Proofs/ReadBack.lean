import StoryScript.Proofs.Classified
import StoryScript.Proofs.Manuscript
import StoryScript.Proofs.Trimmed

namespace StoryScript

/-- What does not begin with a question mark is a description, with an argument or without. -/
theorem Choice.Form.read?_of_unasked {text : List Char} (full : text ≠ []) (unasked : text.head? ≠ some '?') :
    read? text =
      match Text.cutAt? ';' text with
      | some (description, argument) =>
        some (.withArgument (Text.trim (String.ofList description)) (Text.trim (String.ofList argument)))
      | none => some (.plain (String.ofList text)) := by
  unfold read?
  split
  · exact absurd rfl full
  · exact absurd rfl unasked
  · rfl

theorem Choice.Form.read?_print {form : Form} (canonical : form.IsCanonical) :
    read? (Text.trimChars form.print.toList) = some form := by
  cases form with
  | plain description =>
    obtain ⟨full, trimmed, unsplit, unasked⟩ := canonical
    rw [Text.trim_eq_self_iff] at trimmed
    rw [print, trimmed, read?_of_unasked (by simpa using full) unasked, Text.cutAt?_eq_none_iff.mpr unsplit,
      String.ofList_toList]
  | withArgument description argument =>
    obtain ⟨first, second, unsplit, unasked⟩ := canonical
    have chars : (print (.withArgument description argument)).toList =
        description.toList ++ ';' :: argument.toList := by simp [print]
    have trimmed := Text.trimChars_joined ';' (by decide) (Text.trim_eq_self_iff.mp first)
      (Text.trim_eq_self_iff.mp second)
    have other : (description.toList ++ ';' :: argument.toList).head? ≠ some '?' := by
      cases letters : description.toList with
      | nil => simp
      | cons c rest => simpa [letters] using unasked
    rw [chars, trimmed, read?_of_unasked (by simp) other, Text.cutAt?_eq_some_iff.mpr ⟨rfl, unsplit⟩]
    simp [first, second]
  | conditional condition argument =>
    obtain ⟨first, second, unsplit⟩ := canonical
    have chars : (print (.conditional condition argument)).toList =
        '?' :: (condition.toList ++ ';' :: argument.toList) := by simp [print]
    have inner := Text.trimChars_joined ';' (by decide) (Text.trim_eq_self_iff.mp first)
      (Text.trim_eq_self_iff.mp second)
    have trimmed := Text.trimChars_joined '?' (by decide) Text.trimChars_nil inner
    rw [List.nil_append] at trimmed
    rw [chars, trimmed, read?, Text.cutAt?_eq_some_iff.mpr ⟨rfl, unsplit⟩]
    simp [first, second]

namespace Manuscript

theorem Code.toList_print (line : Code) : line.print.toList = '|' :: ' ' :: line.text.toList := by
  simp [print]

theorem Directive.toList_print (directive : Directive) :
    directive.print.toList = '!' :: (directive.name.toList ++ ' ' :: directive.body.toList) := by
  simp [print]

theorem Offer.toList_print (offer : Offer) :
    offer.print.toList = '>' :: (offer.target.toList ++ ' ' :: offer.form.print.toList) := by
  simp [print]

theorem Scene.toList_header (scene : Scene) :
    scene.header.toList = '=' :: (scene.id.toList ++ '=' :: scene.title.toList) := by
  simp [header]

/-- A told line is narrative whatever its first character is. -/
theorem Told.read_print (line : Told) : Line.read line.print.toList = (.narrative, line.text.toList) := by
  simp [print, Line.read]

theorem Code.read_print (line : Code) : Line.read line.print.toList = (.code, line.print.toList) := by
  rw [toList_print, Line.read_cons _ (by decide)]
  rfl

theorem Directive.read_print (directive : Directive) :
    Line.read directive.print.toList = (.command, directive.print.toList) := by
  rw [toList_print, Line.read_cons _ (by decide)]
  rfl

theorem Offer.read_print (offer : Offer) :
    Line.read offer.print.toList = (.choice, offer.print.toList) := by
  rw [toList_print, Line.read_cons _ (by decide)]
  rfl

theorem Scene.read_header (scene : Scene) :
    Line.read scene.header.toList = (.header, scene.header.toList) := by
  rw [toList_header, Line.read_header _ (by simpa using scene.named) scene.spaceless]

theorem Directive.command_read (directive : Directive) : Command.read directive.print = directive.toCommand := by
  rw [Command.read, toList_print, List.drop_one, List.tail_cons, Text.cutAt_append directive.spaceless]
  simp [directive.trimmed]

theorem Offer.choice_read? (offer : Offer) : Choice.read? offer.print = some offer.toChoice := by
  rw [Choice.read?, toList_print, List.drop_one, List.tail_cons, Text.cutAt_append offer.spaceless]
  simp [Choice.Form.read?_print offer.canonical]

theorem Scene.nodeId_classify (scene : Scene) (number : Nat) :
    (Line.classify scene.header number).nodeId = scene.id := by
  have kept : ∀ c ∈ scene.id.toList, (c != '=') = true := fun c member =>
    bne_iff_ne.mpr fun same => scene.unmarked (same ▸ member)
  rw [Line.nodeId, Line.classify_content, read_header, toList_header, List.drop_one, List.tail_cons,
    List.takeWhile_append_of_pos kept]
  simp

end Manuscript

end StoryScript

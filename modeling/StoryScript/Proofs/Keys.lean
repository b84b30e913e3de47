import StoryScript.Proofs.Classified

namespace StoryScript

/-- What stands behind the last separator is determined by the whole. -/
theorem Text.last_cut_inj {sep : Char} {front back front' back' : List Char} (free : sep ∉ back)
    (free' : sep ∉ back') : front ++ sep :: back = front' ++ sep :: back' ↔ front = front' ∧ back = back' := by
  refine ⟨fun same => ?_, fun ⟨left, right⟩ => by rw [left, right]⟩
  -- Read backwards, the last separator is the first one.
  have cut (front back : List Char) (free : sep ∉ back) :
      cutAt? sep (front ++ sep :: back).reverse = some (back.reverse, front.reverse) :=
    cutAt?_eq_some_iff.mpr ⟨by simp, by simpa using free⟩
  have both := cut front back free
  rw [same, cut front' back' free', Option.some.injEq, Prod.mk.injEq] at both
  exact ⟨(List.reverse_inj.mp both.2).symm, (List.reverse_inj.mp both.1).symm⟩

namespace Scope

/-- What stands in a key between the two `=`. -/
def qualify (scope : Scope) (id : String) : List Char :=
  if isQualified id || scope.name.isEmpty then id.toList else scope.name.toList ++ ':' :: id.toList

theorem toList_key (scope : Scope) (id : String) : (scope.key id).toList = '=' :: (scope.qualify id ++ ['=']) := by
  unfold key qualify
  split <;> simp

theorem key_eq_iff {scope other : Scope} {id name : String} :
    scope.key id = other.key name ↔ scope.qualify id = other.qualify name := by
  rw [← String.toList_inj, toList_key, toList_key]
  simp

theorem qualify_of_colon {id : String} (scope : Scope) (colon : ':' ∈ id.toList) :
    scope.qualify id = id.toList := by
  simp [qualify, isQualified, colon]

theorem qualify_of_nameless {scope : Scope} (id : String) (nameless : scope.name = "") :
    scope.qualify id = id.toList := by
  simp [qualify, nameless]

theorem qualify_of_named {scope : Scope} {id : String} (plain : ':' ∉ id.toList) (named : scope.name ≠ "") :
    scope.qualify id = scope.name.toList ++ ':' :: id.toList := by
  simp [qualify, isQualified, plain, named]

section Keys

variable {scope other : Scope} {id name : String}

/-- Ids with a colon are qualified already, so the scopes do not matter. -/
theorem key_eq_iff_of_colons (first : ':' ∈ id.toList) (second : ':' ∈ name.toList) :
    scope.key id = other.key name ↔ id = name := by
  rw [key_eq_iff, qualify_of_colon scope first, qualify_of_colon other second, String.toList_inj]

/-- An id with a colon meets a plain one in the scope that it names. -/
theorem key_eq_iff_of_colon (first : ':' ∈ id.toList) (second : ':' ∉ name.toList) :
    scope.key id = other.key name ↔ other.name ≠ "" ∧ id = other.name ++ ":" ++ name := by
  rw [key_eq_iff, qualify_of_colon scope first]
  by_cases nameless : other.name = ""
  · rw [qualify_of_nameless name nameless]
    exact ⟨fun same => absurd (same ▸ first) second, fun named => absurd nameless named.1⟩
  · have joined : other.name.toList ++ ':' :: name.toList = (other.name ++ ":" ++ name).toList := by simp
    rw [qualify_of_named second nameless, joined, String.toList_inj]
    simp [nameless]

/-- The last colon of a key divides the scope from a plain id, so neither can stand for another. -/
theorem key_eq_iff_of_plain (first : ':' ∉ id.toList) (second : ':' ∉ name.toList) :
    scope.key id = other.key name ↔ id = name ∧ scope = other := by
  obtain ⟨here⟩ := scope
  obtain ⟨there⟩ := other
  rw [key_eq_iff, mk.injEq]
  by_cases nameless : here = "" <;> by_cases nameless' : there = ""
  · rw [qualify_of_nameless id nameless, qualify_of_nameless name nameless', String.toList_inj, nameless, nameless']
    simp
  · rw [qualify_of_nameless id nameless, qualify_of_named second nameless']
    exact ⟨fun same => absurd (same ▸ first) (by simp), fun ⟨_, same⟩ => absurd (same ▸ nameless) nameless'⟩
  · rw [qualify_of_named first nameless, qualify_of_nameless name nameless']
    exact ⟨fun same => absurd (same ▸ second) (by simp), fun ⟨_, same⟩ => absurd (same ▸ nameless') nameless⟩
  · rw [qualify_of_named first nameless, qualify_of_named second nameless', Text.last_cut_inj first second,
      String.toList_inj, String.toList_inj, and_comm]

end Keys

end Scope

theorem Choice.target_of_read? {content : String} {choice : Choice} (read : read? content = some choice) :
    choice.target = String.ofList (Text.cutAt ' ' (content.toList.drop 1)).1 := by
  obtain ⟨form, _, rfl⟩ := Option.map_eq_some_iff.mp read
  rfl

namespace Line

/-- The lines that name a node: the header of the node and the choices that lead to it. -/
def isMention (line : Line) : Bool :=
  line.kind == .header || line.kind == .choice

/-- The id by which a line names a node. -/
def id? (line : Line) : Option String :=
  match line.kind with
  | .header => (Header.id? line.content.toList).map String.ofList
  | .choice => (Choice.read? line.content).map (·.target)
  | .code | .command | .comment | .narrative => none

theorem id?_of_header {line : Line} (kind : line.kind = .header) :
    line.id? = (Header.id? line.content.toList).map String.ofList := by
  simp [id?, kind]

theorem id?_of_choice {line : Line} (kind : line.kind = .choice) :
    line.id? = (Choice.read? line.content).map (·.target) := by
  simp [id?, kind]

theorem isMention_eq_false_iff {line : Line} : line.isMention = false ↔ line.kind ≠ .header ∧ line.kind ≠ .choice := by
  simp [isMention]

theorem after_mention {line : Line} (scope : Scope) (rest : List Line) (mention : line.isMention = true) :
    scope.after (line :: rest) = scope.after rest := by
  have silent : line.declaredScope? = none := by
    refine declaredScope?_eq_none fun command => ?_
    simp [isMention, command] at mention
  rw [← List.singleton_append, Scope.after_append, Scope.after_singleton scope silent]

/-- An id that can stand between the marker of a header and the next `=`, and before the space of a
choice. -/
structure IsId (id : String) : Prop where
  named : id ≠ ""
  spaceless : ' ' ∉ id.toList
  unmarked : '=' ∉ id.toList

variable {id : String}

theorem classify_header (title : String) (number : Nat) (proper : IsId id) :
    (classify ("=" ++ id ++ "=" ++ title) number).kind = .header ∧
      (classify ("=" ++ id ++ "=" ++ title) number).id? = some id := by
  have chars : ("=" ++ id ++ "=" ++ title).toList = '=' :: (id.toList ++ '=' :: title.toList) := by simp
  have read := read_header title.toList (by simpa using proper.named) proper.spaceless
  have kind : (classify ("=" ++ id ++ "=" ++ title) number).kind = .header := by
    rw [classify_kind, chars, read]
  have cut : Text.cutAt? '=' (id.toList ++ '=' :: title.toList) = some (id.toList, title.toList) :=
    Text.cutAt?_eq_some_iff.mpr ⟨rfl, proper.unmarked⟩
  refine ⟨kind, ?_⟩
  rw [id?_of_header kind, classify_content, chars, read]
  simp [Header.id?, cut]

theorem classify_choice {text : String} {rest : List Char} (number : Nat) (marked : text.toList = '>' :: rest) :
    (classify text number).kind = .choice ∧ (classify text number).content.toList = '>' :: rest := by
  rw [classify_kind, classify_content, marked, read_cons _ (by decide)]
  exact ⟨rfl, rfl⟩

theorem classify_offer (description : String) (number : Nat) (proper : IsId id) :
    (classify (">" ++ id ++ " " ++ description) number).kind = .choice ∧
      ∀ choice, Choice.read? (classify (">" ++ id ++ " " ++ description) number).content = some choice →
        (classify (">" ++ id ++ " " ++ description) number).id? = some id := by
  have chars : (">" ++ id ++ " " ++ description).toList = '>' :: (id.toList ++ ' ' :: description.toList) := by simp
  obtain ⟨kind, content⟩ := classify_choice number chars
  refine ⟨kind, fun choice read => ?_⟩
  have target := Choice.target_of_read? read
  rw [content, List.drop_one, List.tail_cons, Text.cutAt_append proper.spaceless, String.ofList_toList] at target
  rw [id?_of_choice kind, read, Option.map_some, target]

theorem classify_bare_offer (number : Nat) (proper : IsId id) :
    (classify (">" ++ id) number).kind = .choice ∧ (classify (">" ++ id) number).id? = some id := by
  have chars : (">" ++ id).toList = '>' :: id.toList := by simp
  obtain ⟨kind, content⟩ := classify_choice number chars
  refine ⟨kind, ?_⟩
  rw [id?_of_choice kind]
  simp [Choice.read?, content, Text.cutAt_of_free proper.spaceless, Choice.Form.read?]

/-- A choice that is read leads to the node of its id, with a description or without. -/
theorem id_of_choice {line : Line} {name description : String} {number : Nat} (proper : IsId id)
    (written : line = classify (">" ++ id ++ " " ++ description) number ∨ line = classify (">" ++ id) number)
    (found : line.id? = some name) : line.kind = .choice ∧ name = id := by
  rcases written with rfl | rfl
  · obtain ⟨kind, reads⟩ := classify_offer description number proper
    obtain ⟨choice, read, _⟩ := Option.map_eq_some_iff.mp ((id?_of_choice kind).symm.trans found)
    exact ⟨kind, Option.some.inj (found.symm.trans (reads choice read))⟩
  · obtain ⟨kind, reads⟩ := classify_bare_offer number proper
    exact ⟨kind, Option.some.inj (found.symm.trans reads)⟩

end Line

end StoryScript

namespace StoryScript

/-- The name that qualifies node ids. The empty name qualifies nothing. -/
structure Scope where
  name : String
deriving DecidableEq, Repr

namespace Scope

/-- The scope of a story that declares none. -/
def global : Scope := ⟨"g"⟩

instance : Inhabited Scope := ⟨global⟩

/-- An id with a colon is qualified already. -/
def isQualified (id : String) : Bool :=
  id.toList.contains ':'

/-- The key under which a node is registered: its id, qualified by the scope unless it already
is. -/
def key (scope : Scope) (id : String) : String :=
  if isQualified id || scope.name.isEmpty then "=" ++ id ++ "="
  else "=" ++ scope.name ++ ":" ++ id ++ "="

end Scope

end StoryScript

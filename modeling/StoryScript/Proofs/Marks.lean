import StoryScript.Line
import StoryScript.Proofs.Runs

namespace StoryScript

/-- How a key stands in a module: a node is registered under it, or a choice leads to it. -/
def Line.Kind.mark (key : String) : Line.Kind → String
  | header => "game.gameNodes['" ++ key ++ "'] =\n" ++ "new GameNode('" ++ key ++ "')"
  | choice => "game.choice(\"" ++ key ++ "\", "
  | code | command | comment | narrative => ""

/-- Keys of lines of a kind stand in a text, each behind those before it. -/
inductive Shows : List (Line.Kind × String) → String → Prop
  | nil {text} : Shows [] text
  | cons {kind key keys text} (front : String) : Shows keys text →
      Shows ((kind, key) :: keys) (front ++ kind.mark key ++ text)

namespace Shows

variable {keys more : List (Line.Kind × String)} {text back : String}

theorem behind (front : String) (shown : Shows keys text) : Shows keys (front ++ text) := by
  cases shown with
  | nil => exact .nil
  | cons early later =>
    rw [← String.append_assoc, ← String.append_assoc]
    exact .cons (front ++ early) later

theorem single {kind : Line.Kind} {key : String} (front back : String)
    (parts : text = front ++ kind.mark key ++ back) : Shows [(kind, key)] text := by
  rw [parts]
  exact .cons front .nil

theorem append (first : Shows keys text) (second : Shows more back) : Shows (keys ++ more) (text ++ back) := by
  induction first with
  | nil => exact second.behind _
  | cons front _ ih =>
    rw [String.append_assoc]
    exact .cons front ih

theorem before (back : String) (shown : Shows keys text) : Shows keys (text ++ back) := by
  simpa using shown.append (.nil : Shows [] back)

end Shows

namespace Statement

/-- The keys that a statement puts into the module, each with the kind of line it is for. -/
def keys : Statement → List (Line.Kind × String)
  | openNode _ key _ => [(.header, key)]
  | choose links => links.map fun link => (.choice, link.key)
  | closeNode | say _ | script _ | showImage _ | enterScope _ | sayWith _ _ => []

theorem shows_link (link : Link) : Shows [(.choice, link.key)] link.render := by
  obtain ⟨key, form⟩ := link
  have mark : Line.Kind.choice.mark key = "game.choice(\"" ++ key ++ "\", " := rfl
  cases form with
  | plain description =>
    refine .single "" ("`" ++ description ++ "`)") ?_
    change "game.choice(\"" ++ key ++ "\", `" ++ description ++ "`)" = _
    rw [mark, ← String.toList_inj]
    simp
  | withArgument description argument =>
    refine .single "" ("`" ++ description ++ "`, " ++ argument ++ ")") ?_
    change "game.choice(\"" ++ key ++ "\", `" ++ description ++ "`, " ++ argument ++ ")" = _
    rw [mark, ← String.toList_inj]
    simp
  | conditional condition argument =>
    refine .single ("(" ++ condition ++ ") ? ") (argument ++ ") : false") ?_
    change "(" ++ condition ++ ") ? game.choice(\"" ++ key ++ "\", " ++ argument ++ ") : false" = _
    rw [mark, ← String.toList_inj]
    simp

theorem shows_links (links : List Link) :
    Shows (links.map fun link => (.choice, link.key)) (String.join (links.map fun link => ",\n" ++ link.render)) := by
  induction links with
  | nil => exact .nil
  | cons link rest ih =>
    rw [List.map_cons, List.map_cons, String.join_cons]
    exact ((shows_link link).behind ",\n").append ih

/-- The keys of a statement stand in its text. -/
theorem shows_render (statement : Statement) : Shows statement.keys statement.render := by
  cases statement with
  | openNode header key scope =>
    have mark : Line.Kind.header.mark key = "game.gameNodes['" ++ key ++ "'] =\n" ++ "new GameNode('" ++ key ++ "')" := rfl
    refine .single ("\n/* " ++ header ++ " */\n") (".setExecFn(function(game, choice) \x7b\n" ++
      "game.player.location = '" ++ key ++ "';\n" ++ "game.scope = '" ++ scope.name ++ "';\n") ?_
    change "\n/* " ++ header ++ " */\n" ++ "game.gameNodes['" ++ key ++ "'] =\n" ++ "new GameNode('" ++ key ++
      "').setExecFn(function(game, choice) \x7b\n" ++ "game.player.location = '" ++ key ++ "';\n" ++
      "game.scope = '" ++ scope.name ++ "';\n" = _
    rw [mark, ← String.toList_inj]
    simp
  | choose links =>
    change Shows _ ("game.choose(\n" ++ ",\n".intercalate (links.map Link.render) ++ ");\n")
    rw [String.append_assoc]
    refine .behind "game.choose(\n" (.before ");\n" ?_)
    cases links with
    | nil => exact .nil
    | cons link rest =>
      rw [List.map_cons, intercalate_cons_eq_join, List.map_map]
      exact (shows_link link).append (shows_links rest)
  | closeNode | say _ | script _ | showImage _ | enterScope _ | sayWith _ _ => exact .nil

theorem shows_renderAll (statements : List Statement) : Shows (statements.flatMap keys) (renderAll statements) := by
  induction statements with
  | nil => exact .nil
  | cons statement rest ih =>
    rw [List.flatMap_cons, renderAll_cons]
    exact statement.shows_render.append ih

end Statement

end StoryScript

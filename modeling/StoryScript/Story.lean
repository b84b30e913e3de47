import StoryScript.Emitter
import StoryScript.Source

namespace StoryScript

/-- What came of compiling a story: the log, and the module or the fault that stopped it. -/
structure Compilation where
  log : List Log.Event
  result : Except Fault String

namespace Story

def compile (lines : List Line) : Compilation :=
  match (Emitter.emitStory lines).run (.inScope .global) with
  | .ok () final =>
    let module := Module.render final.statements.toList
    { log := .storyBegun lines.length :: final.log.toList ++
        [.storyFinished module.utf8ByteSize final.scope]
      result := .ok module }
  | .error fault final =>
    { log := .storyBegun lines.length :: final.log.toList, result := .error fault }

def compileTexts (texts : List String) : Compilation :=
  compile (Line.ofTexts texts)

def compileSource (source : String) : Compilation :=
  compileTexts (Source.lines source)

end Story

end StoryScript

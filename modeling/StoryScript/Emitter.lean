import StoryScript.Block
import StoryScript.Command
import StoryScript.Failure
import StoryScript.Log
import StoryScript.Statement

namespace StoryScript

/-- What compilation carries from block to block: the scope in force, the statements so far and
the log so far. -/
structure Emitter where
  scope : Scope
  statements : Array Statement
  log : Array Log.Event
deriving DecidableEq, Repr

/-- Compilation stops at the first fault and keeps the log up to it. -/
abbrev EmitM := EStateM Fault Emitter

namespace Emitter

/-- Nothing is emitted yet and the given scope is in force. -/
def inScope (scope : Scope) : Emitter :=
  { scope, statements := #[], log := #[] }

def emit (statement : Statement) : EmitM Unit :=
  modify fun e => { e with statements := e.statements.push statement }

def note (event : Log.Event) : EmitM Unit :=
  modify fun e => { e with log := e.log.push event }

def fail {α : Type} (line : Line) (cause : Fault.Cause) : EmitM α :=
  throw { line := line.number, cause }

def currentScope : EmitM Scope := do
  return (← get).scope

/-- Later ids are qualified by `scope`. Nothing else changes the scope: closing a node resets it
in the emitted program only. -/
def enter (scope : Scope) : EmitM Unit :=
  modify fun e => { e with scope }

@[simp] theorem run_emit (statement : Statement) (e : Emitter) :
    (emit statement).run e = .ok () { e with statements := e.statements.push statement } := rfl

@[simp] theorem run_note (event : Log.Event) (e : Emitter) :
    (note event).run e = .ok () { e with log := e.log.push event } := rfl

@[simp] theorem run_fail {α : Type} (line : Line) (cause : Fault.Cause) (e : Emitter) :
    (fail line cause : EmitM α).run e = .error ⟨line.number, cause⟩ e := rfl

@[simp] theorem run_currentScope (e : Emitter) : currentScope.run e = .ok e.scope e := rfl

@[simp] theorem run_enter (scope : Scope) (e : Emitter) :
    (enter scope).run e = .ok () { e with scope } := rfl

def readLink (scope : Scope) (line : Line) : EmitM Link :=
  match Choice.read? line.content with
  | some choice => return choice.link scope
  | none => fail line .unfinishedCondition

def emitMenu (choices : List Line) : EmitM Unit := do
  let scope ← currentScope
  let links ← choices.mapM (readLink scope)
  emit (.choose links)

/-- One paragraph of the lines that tell something, or nothing if there are none. -/
def emitParagraph (lines : List Line) : EmitM Unit :=
  match lines.filter (!·.isBlank) with
  | [] => return ()
  | told => emit (.say (told.map (·.content)))

/-- The author's script, each line without its marker and the character after it. -/
def emitScript (lines : List Line) : EmitM Unit :=
  lines.forM fun line => emit (.script (String.ofList (line.content.toList.drop 2)))

/-- The statement of a command. Only a command named `scope` enters a scope. -/
def emitCommand (line : Line) : EmitM Unit := do
  let command := Command.read line.content
  if command.name = "img" then
    emit (.showImage command.body)
  else if command.name = "scope" then
    let scope : Scope := ⟨command.body⟩
    note (.scopeEntered line.number scope)
    enter scope
    emit (.enterScope scope)
  else
    emit (.sayWith command.name command.body)

/-- Compiles one block at a level, with `node` for what a header leads. -/
def emitBlock (level : Level) (node : Block → EmitM Unit) (block : Block) : EmitM Unit := do
  note (.dispatching block.lead.number block.lead.kind level)
  match block.lead.kind, level with
  | .header, _ => node block
  | .narrative, _ => emitParagraph block.lines
  | .code, _ => emitScript block.lines
  | .command, _ => emitCommand block.lead
  | .choice, .inNode => emitMenu block.lines
  | .choice, .topLevel => fail block.lead .choiceOutsideNode
  | .comment, _ => fail block.lead .strayComment

/-- A block inside a node. No node is nested in another. -/
def emitInner (block : Block) : EmitM Unit :=
  emitBlock .inNode (fun nested => fail nested.lead .nestedNode) block

/-- The id a header gives its node, or why it gives none. -/
def headerId (header : Line) : Except Fault.Cause (List Char) :=
  if header.kind ≠ .header then .error .headerExpected
  else if header.content.toList.head? ≠ some '=' then .error .unmarkedHeader
  else
    match Header.id? header.content.toList with
    | some id => .ok id
    | none => .error .unreadableHeader

/-- A node: its opening, the blocks of the lines its header claims, and its closing. -/
def emitNode (block : Block) : EmitM Unit := do
  let header := block.lead
  match headerId header with
  | .error cause => fail header cause
  | .ok id =>
    let scope ← currentScope
    let key := scope.key (String.ofList id)
    note (.nodeOpened header.number key)
    emit (.openNode header.content key scope)
    (Block.ofLines block.more).forM emitInner
    emit .closeNode

def emitOuter (block : Block) : EmitM Unit :=
  emitBlock .topLevel emitNode block

def emitStory (lines : List Line) : EmitM Unit :=
  (Block.ofLines lines).forM emitOuter

end Emitter

end StoryScript

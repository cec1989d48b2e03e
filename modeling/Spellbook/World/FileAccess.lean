import Spellbook.World

/-!
# Access to files

Reading and writing files, as a whole or through handles.  A path that is denied is refused before
anything else is looked at.
-/

namespace Spellbook.Action

def checkAccess (path : String) : Action Unit := do
  if (← get).denied.contains path then fault (.permissionDenied path)

/-- Open a file for reading: the position of its content. -/
def openForReading (path : String) : Action Nat := do
  checkAccess path
  ofResult ((← get).files.openForReading path)

/-- Open a file for writing, which empties it unless it is to be kept: where its content is. -/
def openForWriting (path : String) (keep : Bool) : Action Nat := do
  checkAccess path
  let (content, files) ← ofResult ((← get).files.openForWriting path keep)
  modify fun world => { world with files }
  return content

def readFile (path : String) : Action String := do
  let content ← openForReading path
  let handle : FileHandle := { content, mode := .reading }
  ofResult (handle.readAll ((← get).files.content content)).2

def writeFile (path : String) (keep : Bool) (text : String) : Action Unit := do
  let content ← openForWriting path keep
  modify fun world =>
    let bytes := world.files.content content ++ Text.Utf8.encode text
    { world with files := world.files.setContent content bytes }

def removeFile (path : String) : Action Unit := do
  checkAccess path
  let files ← ofResult ((← get).files.removeFile path)
  modify fun world => { world with files }

def openHandle (path : String) (mode : HandleMode) : Action Value := do
  let content ← match mode with
    | .reading => openForReading path
    | .writing => openForWriting path false
    | .appending => openForWriting path true
  modifyGet fun world =>
    (.handle world.handles.size path mode.letter,
      { world with handles := world.handles.push { content, mode } })

def useHandle {α : Type} (ref : Nat)
    (use : FileHandle → List UInt8 → FileHandle × Except Fault α) : Action α := do
  let world ← get
  match world.handles[ref]? with
  | none => fault .closedFile
  | some handle =>
    let (handle, res) := use handle (world.files.content handle.content)
    modify fun world => { world with handles := world.handles.modify ref fun _ => handle }
    ofResult res

def readHandle (ref : Nat) : Option Nat → Action String
  | none => useHandle ref FileHandle.readAll
  | some count => useHandle ref fun handle bytes => handle.readSome bytes count

def readHandleLine (ref : Nat) : Action (Option String) :=
  useHandle ref FileHandle.readLine

def writeHandle (ref : Nat) (text : String) : Action Unit :=
  useHandle ref fun handle _ =>
    match handle.write text with
    | .ok written => (written, .ok ())
    | .error failure => (handle, .error failure)

def closedHandle (world : World) (ref : Nat) : World :=
  match world.handles[ref]? with
  | none => world
  | some handle =>
    if handle.closed then world
    else
      { world with
        files := world.files.setContent handle.content
          (handle.flushed (world.files.content handle.content))
        handles := world.handles.modify ref fun handle => { handle with closed := true } }

def closeHandle (ref : Nat) : Action Unit :=
  modify fun world => closedHandle world ref

/-- The lines that are left of a handle, at most so many. -/
def remainingLines (ref : Nat) : (budget : Nat) → Action (List String)
  | 0 => return []
  | budget + 1 => do
    match ← readHandleLine ref with
    | none => return []
    | some line => return line :: (← remainingLines ref budget)

/-- How many lines a handle can have left at most. -/
def lineBudget (ref : Nat) : Action Nat := do
  let world ← get
  match world.handles[ref]? with
  | none => return 1
  | some handle => return (world.files.content handle.content).length + handle.ready.length + 2

def elements (value : Value) : Action (List Value) := do
  match value with
  | .tome ref => return (← items ref).toList
  | .grimoire ref => return (← entries ref).keys.toList
  | .scroll text => return text.toList.map fun char => .scroll char.toString
  | .handle ref .. =>
    return (← remainingLines ref (← lineBudget ref)).map .scroll
  | value => fault (.notIterable value.typeName)

end Spellbook.Action

namespace Spellbook.World

/-- The world after all handles were closed. -/
def sealed (world : World) : World :=
  (List.range world.handles.size).foldl Action.closedHandle world

end Spellbook.World

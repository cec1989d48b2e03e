import Spellbook.Store.Display
import Spellbook.Store.Order
import Spellbook.Trouble
import Spellbook.World.Console
import Spellbook.World.Device
import Spellbook.World.Files

/-!
# The world of a run

The world holds everything a script can change or ask for except its variables: collections,
console, files and devices.  An action is a step in the world that gives a value or ends in
trouble; what it changed before the trouble stays changed.
-/

namespace Spellbook

/-- A connection to a directory of users and groups. -/
structure Realm where
  tenant : String
  client : String
  secret : String
  /-- The token that requests carry; void before the sign-in. -/
  token : Value := .void

/-- The world of a run. -/
structure World where
  store : Store := {}
  console : Console := {}
  files : FileTree := {}
  /-- The paths that must not be opened or removed. -/
  denied : List String := []
  handles : Array FileHandle := #[]
  dice : List Nat := []
  /-- What devices were asked, the latest first. -/
  journal : List Event := []
  /-- The speech library, if there is one. -/
  speech : Option SpeechLibrary := none
  /-- Has the engine that speaks the results of incantations been started? -/
  heraldStarted : Bool := false
  /-- The engine that speaks for builtins. -/
  narrator : Option SpeechEngine := none
  network : Network := {}
  /-- The database library, if there is one. -/
  database : Option Database := none
  /-- The answer of the sign-in service, if there is one. -/
  signIn : Option Datum := none
  /-- The coming answers of the web server, if there is one. -/
  responses : Option (List Response) := none
  /-- The realm to which requests go. -/
  realm : Option Realm := none
  /-- How the coming commands end. -/
  commands : List CommandAnswer := []

/-- How a program ends that does not end in trouble: perhaps with an exit code. -/
abbrev Ending := Option Int

/-- A step in the world that gives a value or ends in trouble. -/
abbrev Action := EStateM Trouble World

namespace Action

def fault {α : Type} (fault : Fault) : Action α := throw (.fault fault)

/-- End in an error of a class, in the words of a builtin. -/
def refuse {α : Type} (errorClass : ErrorClass) (msg : String) : Action α :=
  throw (.told errorClass msg)

/-- End in the error for operations that make no sense. -/
def forbid {α : Type} (msg : String) : Action α := refuse .forbiddenMagic msg

def ofResult {α : Type} : Except Fault α → Action α
  | .ok res => pure res
  | .error failure => fault failure

def recover {α : Type} (action : Action α) (mend : Trouble → Action α) : Action α :=
  tryCatch action mend

def store : Action Store := do return (← get).store

/-- Take a value from a store that the making of the value changes. -/
def withStore {α : Type} (change : Store → α × Store) : Action α :=
  modifyGet fun world =>
    let (res, store) := change world.store
    (res, { world with store })

def modifyStore (change : Store → Store) : Action Unit :=
  modify fun world => { world with store := change world.store }

def items (ref : Nat) : Action (Array Value) := do return (← get).store.tome ref

def entries (ref : Nat) : Action Entries := do return (← get).store.grimoire ref

def newTome (items : List Value) : Action Value := withStore (·.addTome items.toArray)

def newGrimoire (entries : Entries) : Action Value := withStore (·.addGrimoire entries)

/-- A new grimoire whose keys are texts. -/
def newRecord (entries : List (String × Value)) : Action Value :=
  newGrimoire (entries.map fun (name, value) => (.scroll name, value)).toArray

def newPotion (num : Float) : Action Value := withStore (·.addPotion num)

def newQuantity (quantity : Quantity) : Action Value := withStore (·.addQuantity quantity)

def plant (datum : Datum) : Action Value := withStore (·.plant datum)

def plantSaved (datum : Datum) : Action Value := withStore (·.plantSaved datum)

def portray (value : Value) : Action Datum := do return (← get).store.portray value

def text (value : Value) : Action String := do ofResult ((← get).store.plainText value)

def integerText (integer : Int) : Action String := ofResult (Number.textOfInteger integer)

def truth (value : Value) : Action Bool := do return (← get).store.isTruthy value

def compare (comparison : Comparison) (left right : Value) : Action Bool := do
  ofResult ((← get).store.compare comparison left right)

def put (ref : Nat) (key : String) (value : Value) : Action Unit :=
  modifyStore fun store => store.modifyGrimoire ref fun entries =>
    entries.put (.scroll key) value

def print (text : String) : Action Unit :=
  modify fun world => { world with console := world.console.print text }

def printLine (text : String) : Action Unit := print (text ++ "\n")

def printError (text : String) : Action Unit :=
  modify fun world => { world with console := world.console.printError text }

def readLine (prompt : String) : Action String := do
  let line ← modifyGet fun world =>
    let (line, console) := (world.console.print prompt).read
    (line, { world with console })
  match line with
  | some (some line) => return line
  | some none => fault .keyboardInterrupt
  | none => fault .endOfInput

def note (event : Event) : Action Unit :=
  modify fun world => { world with journal := event :: world.journal }

/-- Draw a number; zero when no more are given. -/
def draw : Action Nat :=
  modifyGet fun world =>
    match world.dice with
    | [] => (0, world)
    | num :: dice => (num, { world with dice })

def drawBetween (low high : Int) : Action Int := do
  if high < low then fault (.emptyRange low high)
  else
    let num ← draw
    return low + (num : Int) % (high - low + 1)

end Action

end Spellbook

import Spellbook.Node
import Spellbook.Scope
import Spellbook.World

/-!
# Machines

The state of a running script: its scopes, the spells that it declared, and the world.  A step of
evaluation gives a value or halts.  Besides trouble there are four ways to halt: the signals of
`break`, `continue` and `cast`, which a loop or a call takes up, and weariness, when the bound on
the length of a computation is reached.
-/

namespace Spellbook

/-- Why evaluation stops short of a value. -/
inductive Halt where
  | trouble (failure : Trouble)
  /-- The innermost loop is left. -/
  | breaking
  /-- The innermost loop goes on with its next round. -/
  | continuing
  /-- The innermost call ends with a value. -/
  | casting (value : Value)
  /-- The bound on the length of the computation is reached. -/
  | weary

namespace Halt

/-- The class of a halt, as an error that nothing took up. -/
def className : Halt → String
  | trouble failure => failure.className
  | breaking => "SlayerInterrupt"
  | continuing => "PatrolContinue"
  | casting _ => "SpellReturn"
  | weary => Fault.exhausted.className

/-- The message of a halt, as an error that nothing took up. -/
def text : Halt → String
  | trouble failure => failure.text
  | breaking => "Break from loop"
  | continuing => "Continue in loop"
  | casting _ => "Return from spell"
  | weary => Fault.exhausted.message

/-- Is the halt an error of the language, rather than a failure below it? -/
def isScriptError : Halt → Bool
  | trouble (.error _) | breaking | continuing | casting _ => true
  | trouble (.fault _) | weary => false

end Halt

structure Closure where
  parameters : List String
  body : List Node
  scope : Nat

/-- The state of a running script. -/
structure Machine where
  scopes : Scopes := {}
  closures : Array Closure := #[]
  world : World := {}

/-- A step of evaluation. -/
abbrev Eval := EStateM Halt Machine

namespace Eval

def fail {α : Type} (failure : Trouble) : Eval α := throw (.trouble failure)

def blame {α : Type} (cause : Cause) (place : Place) : Eval α := fail (.caused cause place)

def fault {α : Type} (failure : Fault) : Eval α := fail (.fault failure)

/-- Carry out an action in the world.  It can reach neither scopes nor spells. -/
def act {α : Type} (action : Action α) : Eval α := fun machine =>
  let ⟨scopes, closures, world⟩ := machine
  match action world with
  | .ok res world => .ok res ⟨scopes, closures, world⟩
  | .error failure world => .error (.trouble failure) ⟨scopes, closures, world⟩

def atScope (machine : Machine) (pos : Nat) : Machine :=
  { machine with scopes := { machine.scopes with current := pos } }

/--
Evaluate in a new scope that starts with a frame and stands inside another one.  However that ends,
the scope that was current before is current again.
-/
def within {α : Type} (parent : Nat) (frame : Frame) (body : Eval α) : Eval α := fun machine =>
  let before := machine.scopes.current
  let inner := machine.scopes.all.size
  match body (atScope { machine with scopes := machine.scopes.push parent frame } inner) with
  | .ok res machine => .ok res (atScope machine before)
  | .error halt machine => .error halt (atScope machine before)

def nested {α : Type} (frame : Frame) (body : Eval α) : Eval α := do
  within (← get).scopes.current frame body

def lookUp (name : String) (place : Place) : Eval Value := do
  match (← get).scopes.get? name with
  | some value => return value
  | none => blame (.undefined name) place

def define (name : String) (value : Value) (constant : Bool) : Eval Unit :=
  modify fun machine => { machine with scopes := machine.scopes.define name value constant }

def modifyFrame (pos : Nat) (change : Frame → Frame) : Eval Unit :=
  modify fun machine => { machine with scopes := machine.scopes.modifyFrame pos change }

def assign (name : String) (value : Value) (place : Place) : Eval Unit := do
  match (← get).scopes.site name with
  | .ok pos => modifyFrame pos fun frame => frame.set name value
  | .error refusal => blame (refusal.assignmentCause name) place

def delete (name : String) (place : Place) : Eval Unit := do
  match (← get).scopes.site name with
  | .ok pos => modifyFrame pos fun frame => frame.erase name
  | .error refusal => blame (refusal.deletionCause name) place

def newSpell (name : String) (parameters : List String) (body : List Node) (aloud : Bool) :
    Eval Value :=
  modifyGet fun machine =>
    (.spell machine.closures.size name aloud,
      { machine with closures :=
          machine.closures.push { parameters, body, scope := machine.scopes.current } })

end Eval

end Spellbook

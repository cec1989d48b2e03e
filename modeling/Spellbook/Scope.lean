import Spellbook.Trouble
import Spellbook.Value

/-!
# Scopes

A frame binds names to values and marks some of its names as constant.  A chain is a frame with
its enclosing frames, the innermost first.  Reading a name finds the nearest frame that binds it;
changing or removing one is refused when the name is constant in that frame or in any enclosing
one.

The scopes of a run are kept together, each with the position of the scope that encloses it, and
one of them is the current scope.
-/

namespace Spellbook

/-- Names with their values, and the names that are constant. -/
structure Frame where
  bindings : List (String × Value) := []
  constants : List String := []

namespace Frame

def get? (frame : Frame) (name : String) : Option Value := frame.bindings.lookup name

def binds (frame : Frame) (name : String) : Bool := (frame.get? name).isSome

def holdsConstant (frame : Frame) (name : String) : Bool := frame.constants.contains name

def setIn (name : String) (value : Value) : List (String × Value) → List (String × Value)
  | [] => []
  | (other, old) :: bindings =>
    if other == name then (name, value) :: bindings
    else (other, old) :: setIn name value bindings

/-- Bind a name, anew or for the first time. -/
def set (frame : Frame) (name : String) (value : Value) : Frame :=
  if frame.binds name then { frame with bindings := setIn name value frame.bindings }
  else { frame with bindings := (name, value) :: frame.bindings }

/-- Bind a name and possibly mark it as constant.  A mark is never taken away. -/
def define (frame : Frame) (name : String) (value : Value) (constant : Bool) : Frame :=
  let frame := frame.set name value
  if constant && !frame.holdsConstant name then
    { frame with constants := name :: frame.constants }
  else frame

def erase (frame : Frame) (name : String) : Frame :=
  { frame with bindings := frame.bindings.filter fun (other, _) => other != name }

end Frame

/-- Why a name cannot be changed or removed. -/
inductive Refusal where
  | unbound
  | constant
  deriving DecidableEq

/-- A frame with its enclosing frames, the innermost first. -/
abbrev Chain := List Frame

namespace Chain

/-- The value of a name in the nearest frame that binds it. -/
def get? : Chain → String → Option Value
  | [], _ => none
  | frame :: outer, name =>
    match frame.get? name with
    | some value => some value
    | none => get? outer name

def isConstant : Chain → String → Bool
  | [], _ => false
  | frame :: outer, name => frame.holdsConstant name || isConstant outer name

def binds : Chain → String → Bool
  | [], _ => false
  | frame :: outer, name => frame.binds name || binds outer name

/-- How many frames further out a change of the name takes place. -/
def site : Chain → String → Except Refusal Nat
  | [], _ => .error .unbound
  | frame :: outer, name =>
    if frame.holdsConstant name then .error .constant
    else if frame.binds name then .ok 0
    else if isConstant outer name then .error .constant
    else match site outer name with
      | .ok depth => .ok (depth + 1)
      | .error refusal => .error refusal

def define (chain : Chain) (name : String) (value : Value) (constant : Bool) : Chain :=
  match chain with
  | [] => []
  | frame :: outer => frame.define name value constant :: outer

def assign (chain : Chain) (name : String) (value : Value) : Except Refusal Chain :=
  match site chain name with
  | .ok depth => .ok (chain.modify depth fun frame => frame.set name value)
  | .error refusal => .error refusal

def delete (chain : Chain) (name : String) : Except Refusal Chain :=
  match site chain name with
  | .ok depth => .ok (chain.modify depth fun frame => frame.erase name)
  | .error refusal => .error refusal

end Chain

namespace Refusal

def assignmentCause (refusal : Refusal) (name : String) : Cause :=
  match refusal with
  | unbound => .undefined name
  | constant => .constantModified name

def deletionCause (refusal : Refusal) (name : String) : Cause :=
  match refusal with
  | unbound => .undefined name
  | constant => .constantVanquished name

end Refusal

/-- A frame and the position of the scope around it. -/
structure Scope where
  frame : Frame
  parent : Option Nat

/-- The scopes of a run, of which one is current. -/
structure Scopes where
  all : Array Scope := #[⟨{}, none⟩]
  current : Nat := 0

namespace Scopes

/-- The positions of a scope and of those around it, at most `budget` of them. -/
def path (scopes : Scopes) : (budget : Nat) → (pos : Nat) → List Nat
  | 0, _ => []
  | budget + 1, pos =>
    match scopes.all[pos]? with
    | none => []
    | some scope =>
      pos :: match scope.parent with
        | none => []
        | some parent => scopes.path budget parent

def currentPath (scopes : Scopes) : List Nat := scopes.path scopes.all.size scopes.current

def frame (scopes : Scopes) (pos : Nat) : Frame :=
  (scopes.all[pos]?.map Scope.frame).getD {}

def chain (scopes : Scopes) : Chain := scopes.currentPath.map scopes.frame

def modifyFrame (scopes : Scopes) (pos : Nat) (change : Frame → Frame) : Scopes :=
  { scopes with all := scopes.all.modify pos fun scope =>
      { scope with frame := change scope.frame } }

def push (scopes : Scopes) (parent : Nat) (frame : Frame) : Scopes :=
  { scopes with all := scopes.all.push ⟨frame, some parent⟩ }

def get? (scopes : Scopes) (name : String) : Option Value := Chain.get? scopes.chain name

def define (scopes : Scopes) (name : String) (value : Value) (constant : Bool) : Scopes :=
  scopes.modifyFrame scopes.current fun frame => frame.define name value constant

/-- The position of the scope where a change of the name takes place. -/
def site (scopes : Scopes) (name : String) : Except Refusal Nat :=
  match Chain.site scopes.chain name with
  | .ok depth => .ok (scopes.currentPath.getD depth 0)
  | .error refusal => .error refusal

def assign (scopes : Scopes) (name : String) (value : Value) : Except Refusal Scopes :=
  (scopes.site name).map fun pos =>
    scopes.modifyFrame pos fun frame => frame.set name value

def delete (scopes : Scopes) (name : String) : Except Refusal Scopes :=
  (scopes.site name).map fun pos =>
    scopes.modifyFrame pos fun frame => frame.erase name

end Scopes

end Spellbook

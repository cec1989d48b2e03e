import Spellbook.Builtin.Library
import Spellbook.Evaluator.Operation
import Spellbook.Machine

/-!
# Evaluation

Every node has a value.  What one node does is described by `step`, in terms of the evaluation of
the nodes inside it and of a bound on the rounds of its loops.  `run` ties the knot: it evaluates a
node in so many nested steps, and ends in weariness if they do not suffice.
-/

namespace Spellbook

/-- The frame of a loop's round or a call: names with their values, later ones first. -/
def Frame.ofBindings (bindings : List (String × Value)) : Frame :=
  bindings.foldl (fun frame (name, value) => frame.define name value false) {}

namespace Eval

/-- Evaluate nodes in order.  The value is that of the last one, or void. -/
def sequence (self : Node → Eval Value) : List Node → Eval Value
  | [] => return .void
  | [node] => self node
  | node :: nodes => do
    let _ ← self node
    sequence self nodes

def values (self : Node → Eval Value) : List Node → Eval (List Value)
  | [] => return []
  | node :: nodes => do
    let value ← self node
    return value :: (← values self nodes)

def block (self : Node → Eval Value) (body : List Node) : Eval Value :=
  nested {} (sequence self body)

def condition (self : Node → Eval Value) (node : Node) : Eval Bool := do
  act (Action.truth (← self node))

/-! ## Calls -/

/-- Take up the signal with which a call ends early. -/
def takeCast (body : Eval Value) : Eval Value := fun machine =>
  match body machine with
  | .error (.casting value) machine => .ok value machine
  | result => result

/-- Speak the result of an incantation, unless it is void. -/
def speak (aloud : Bool) (result : Value) : Eval Unit :=
  match aloud, result with
  | false, _ | _, .void => return
  | true, result => act (do Action.speakResult (← Action.text result))

def checkArity (place : Place) (wanted given : Nat) : Eval Unit :=
  if wanted = given then return else blame (.wrongArity wanted given) place

def callSpell (self : Node → Eval Value) (place : Place) (ref : Nat) (aloud : Bool)
    (args : List Value) : Eval Value := do
  match (← get).closures[ref]? with
  | none => blame .notCallable place
  | some closure =>
    checkArity place closure.parameters.length args.length
    let frame := Frame.ofBindings (closure.parameters.zip args)
    let result ← takeCast (within closure.scope frame (sequence self closure.body))
    speak aloud result
    return result

def callBuiltin (place : Place) (name : String) (args : List Value) : Eval Value := do
  match Builtin.named? name with
  | none => return .void
  | some builtin =>
    match builtin.arity with
    | some wanted => checkArity place wanted args.length
    | none => pure ()
    act (builtin.act args)

def call (self : Node → Eval Value) (place : Place) (callee : Value) (args : List Value) :
    Eval Value :=
  match callee with
  | .spell ref _ aloud => callSpell self place ref aloud args
  | .builtin name _ => callBuiltin place name args
  | _ => blame .notCallable place

/-! ## Collections -/

def fillEntries (self : Node → Eval Value) :
    List (Node × Node) → (entries : Entries) → Eval Entries
  | [], entries => return entries
  | (keyNode, valueNode) :: pairs, entries => do
    let key ← self keyNode
    let value ← self valueNode
    act (Operation.checkKey key)
    fillEntries self pairs (entries.put key value)

/-! ## Branches and loops -/

def firstBranch (self : Node → Eval Value) (otherwise : Option (List Node)) :
    List (Node × List Node) → Eval Value
  | [] =>
    match otherwise with
    | some body => block self body
    | none => return .void
  | (test, body) :: branches => do
    if ← condition self test then block self body
    else firstBranch self otherwise branches

/-- How a round of a loop ended. -/
inductive Round where
  | over (value : Value)
  | left (value : Value)

/-- A round of a loop.  After a signal the loop keeps the value it had. -/
def round (body : Eval Value) (before : Value) : Eval Round := fun machine =>
  match body machine with
  | .ok value machine => .ok (.over value) machine
  | .error .breaking machine => .ok (.left before) machine
  | .error .continuing machine => .ok (.over before) machine
  | .error halt machine => .error halt machine

def patrol (self : Node → Eval Value) (test : Node) (body : List Node) :
    (rounds : Nat) → (last : Value) → Eval Value
  | 0, _ => throw .weary
  | rounds + 1, last => do
    if ← condition self test then return last
    else
      match ← round (block self body) last with
      | .left value => return value
      | .over value => patrol self test body rounds value

/-- What a loop goes through. -/
inductive Prey where
  /-- The items of a tome, which may change meanwhile, from a position on. -/
  | items (ref pos : Nat)
  /-- The keys of a grimoire, which had so many entries at the start, from a position on. -/
  | keys (ref size pos : Nat)
  | characters (text : List Char)
  | lines (ref : Nat)

/-- The next thing that a loop goes through, and what comes after it. -/
def Prey.next : Prey → Action (Option (Value × Prey))
  | items ref pos => do
    return (← Action.items ref)[pos]?.map fun item =>
      (item, items ref (pos + 1))
  | keys ref size pos => do
    let entries ← Action.entries ref
    if entries.size == size then
      return entries[pos]?.map fun entry => (entry.1, keys ref size (pos + 1))
    else Action.fault .changedDuringIteration
  | characters [] => return none
  | characters (char :: rest) =>
    return some (.scroll char.toString, characters rest)
  | lines ref => do
    return (← Action.readHandleLine ref).map fun line => (.scroll line, lines ref)

/-- What a loop goes through for a value, if it can go through it. -/
def Prey.of? : Value → Action (Option Prey)
  | .tome ref => return some (items ref 0)
  | .grimoire ref => do
    return some (keys ref (← Action.entries ref).size 0)
  | .scroll text => return some (characters text.toList)
  | .handle ref .. => return some (lines ref)
  | _ => return none

def hunt (self : Node → Eval Value) (name : String) (body : List Node) :
    (rounds : Nat) → Prey → (last : Value) → Eval Value
  | 0, _, _ => throw .weary
  | rounds + 1, prey, last => do
    match ← act prey.next with
    | none => return last
    | some (item, rest) =>
      let frame := Frame.ofBindings [(name, item)]
      match ← round (nested frame (sequence self body)) last with
      | .left value => return value
      | .over value => hunt self name body rounds rest value

def huntThrough (self : Node → Eval Value) (rounds : Nat) (place : Place) (name : String)
    (iterable : Value) (body : List Node) : Eval Value := do
  match ← act (Prey.of? iterable) with
  | some prey => hunt self name body rounds prey .void
  | none => blame .notHuntable place

/-! ## Nodes -/

/--
Evaluate a node, given how the nodes inside it are evaluated and how many rounds its loops may
take.
-/
def step (self : Node → Eval Value) (rounds : Nat) : Node → Eval Value
  | .stray value => fault (.noAttribute value.typeName "line")
  | .bare place => blame (.noVisitor (Node.bare place).kindName) place
  | .literal _ value => return value
  | .identifier place name => lookUp name place
  | .binary place left op right => do
    let leftValue ← self left
    let rightValue ← self right
    act (Operation.binary place op leftValue rightValue)
  | .unary place op operand => do
    act (Operation.unary place op (← self operand))
  | .tome _ elements => do
    let items ← values self elements
    act (Action.newTome items)
  | .grimoire _ pairs => do
    let entries ← fillEntries self pairs #[]
    act (Action.newGrimoire entries)
  | .index place coll pos => do
    let collectionValue ← self coll
    let index ← self pos
    act (Operation.readItem place collectionValue index)
  | .call place callee args => do
    let calleeValue ← self callee
    let argumentValues ← values self args
    call self place calleeValue argumentValues
  | .member place object name => do
    act (Operation.readMember place (← self object) name)
  | .program _ stmts => sequence self stmts
  | .declaration _ name value _ constant => do
    let result ← self value
    define name result constant
    return result
  | .assignment place name value => do
    let result ← self value
    assign name result place
    return result
  | .indexAssignment place coll pos value => do
    let collectionValue ← self coll
    let index ← self pos
    let result ← self value
    act (Operation.writeItem place collectionValue index result)
    return result
  | .deletion place name => do
    delete name place
    return .void
  | .spell _ name parameters body aloud => do
    let result ← newSpell name parameters body aloud
    define name result false
    return result
  | .cast _ none => throw (.casting .void)
  | .cast _ (some value) => do throw (.casting (← self value))
  | .conditional _ test outcome alts otherwise =>
    firstBranch self otherwise ((test, outcome) :: alts)
  | .patrol _ test body => patrol self test body rounds .void
  | .hunt place name iterable body => do
    huntThrough self rounds place name (← self iterable) body
  | .breakLoop _ => throw .breaking
  | .continueLoop _ => throw .continuing
  | .expression _ value => self value

/-- Evaluate a node in at most so many nested steps. -/
def run : (budget : Nat) → Node → Eval Value
  | 0 => fun _ => throw .weary
  | budget + 1 => step (run budget) budget

end Eval

namespace Machine

/-- The scope in which scripts run: it binds the builtins to their names. -/
def globalFrame : Frame :=
  Frame.ofBindings (Builtin.library.map fun builtin => (builtin.name, .builtin builtin.name 0))

def start (world : World) : Machine :=
  { scopes := { all := #[⟨globalFrame, none⟩] }, world }

/-- A bound that no computation reaches in practice. -/
def ampleBudget : Nat := Nat.pow 2 60

def evaluate (node : Node) : Eval Value := Eval.run ampleBudget node

/-- Evaluate the statements of a program in order. -/
def interpret : Node → Eval Value
  | .program _ stmts => Eval.sequence evaluate stmts
  | node => evaluate node

end Machine

end Spellbook

import Spellbook.Evaluator

/-!
# What happens in an evaluation

A traced evaluation tells which nodes were visited, which operations on values were carried out,
which spells were entered and which builtins were called. Once these moments are forgotten it is the
evaluator itself (`Traced.plain_run`).
-/

namespace Spellbook

/-! ## Moments -/

/-- An operation on values that evaluation carries out in the world. -/
inductive Labour where
  | binary (op : Operator) (left right : Value)
  | unary (op : UnaryOperator) (operand : Value)
  | readItem (coll index : Value)
  | writeItem (coll index : Value)
  | readMember (object : Value) (name : String)
  /-- A key is taken into a new grimoire. -/
  | takeKey (key : Value)
  /-- A loop turns to what comes next. -/
  | advance (prey : Eval.Prey)
  /-- The result of an incantation is spoken. -/
  | utter (result : Value)

/-- Something that happens in an evaluation. -/
inductive Moment where
  | visit (node : Node)
  | operate (labour : Labour) (world : World)
  | enter (parameters : List String) (args : List Value)
  | invoke (builtin : Builtin) (args : List Value) (world : World)

/-! ## Evaluations that tell something -/

namespace Eval

variable {α β : Type} {machine middle : Machine}

/-- The halt in which an evaluation ends, if it does. -/
def halt? : EStateM.Result Halt Machine α → Option Halt
  | .ok _ _ => none
  | .error halt _ => some halt

/-- The machine that an evaluation leaves. -/
def left : EStateM.Result Halt Machine α → Machine
  | .ok _ after | .error _ after => after

theorem bind_of_ok {body : Eval α} {next : α → Eval β} {result : α}
    (ended : body machine = .ok result middle) :
    (body >>= next) machine = next result middle := by
  simp only [Bind.bind, EStateM.bind, ended]

theorem bind_of_error {body : Eval α} {next : α → Eval β} {halt : Halt}
    (ended : body machine = .error halt middle) :
    (body >>= next) machine = .error halt middle := by
  simp only [Bind.bind, EStateM.bind, ended]

end Eval

/-- An evaluation that tells something on its way, in order. -/
def Told (μ α : Type) : Type := Machine → List μ × EStateM.Result Halt Machine α

namespace Told

variable {μ α β : Type}

instance : Monad (Told μ) where
  pure result := fun machine => ([], .ok result machine)
  bind body next := fun machine =>
    match body machine with
    | (told, .ok result middle) =>
      let further := next result middle
      (told ++ further.1, further.2)
    | (told, .error halt middle) => (told, .error halt middle)

/-- The evaluation without what it tells. -/
def plain (body : Told μ α) : Eval α := fun machine => (body machine).2

/-- An evaluation in which there is nothing to tell. -/
def silent (body : Eval α) : Told μ α := fun machine => ([], body machine)

/-- Tell something. -/
def note (something : μ) : Told μ Unit := fun machine => ([something], .ok () machine)

@[simp]
theorem plain_pure (result : α) : plain (pure result : Told μ α) = pure result := rfl

@[simp]
theorem plain_bind (body : Told μ α) (next : α → Told μ β) :
    plain (body >>= next) = plain body >>= fun result => plain (next result) := by
  funext machine
  simp only [plain, Bind.bind, EStateM.bind]
  rcases body machine with ⟨told, result | halt⟩ <;> rfl

@[simp]
theorem plain_silent (body : Eval α) : plain (silent body : Told μ α) = body := rfl

@[simp]
theorem plain_note (something : μ) : plain (note something) = pure () := rfl

end Told

/-- An evaluation that tells its moments. -/
abbrev Traced (α : Type) : Type := Told Moment α

namespace Traced

open Told

variable {α : Type}

def operate (labour : Labour) (action : Action α) : Traced α := fun machine =>
  ([.operate labour machine.world], Eval.act action machine)

def invoke (builtin : Builtin) (args : List Value) : Traced Value := fun machine =>
  ([.invoke builtin args machine.world], Eval.act (builtin.act args) machine)

def within (parent : Nat) (frame : Frame) (body : Traced α) : Traced α := fun machine =>
  let told := body (Eval.atScope { machine with scopes := machine.scopes.push parent frame }
    machine.scopes.all.size)
  (told.1, Eval.within parent frame (fun _ => told.2) machine)

def nested (frame : Frame) (body : Traced α) : Traced α := fun machine =>
  within machine.scopes.current frame body machine

def takeCast (body : Traced Value) : Traced Value := fun machine =>
  let told := body machine
  (told.1, Eval.takeCast (fun _ => told.2) machine)

def round (body : Traced Value) (before : Value) : Traced Eval.Round := fun machine =>
  let told := body machine
  (told.1, Eval.round (fun _ => told.2) before machine)

section Plain

@[simp]
theorem plain_operate (labour : Labour) (action : Action α) :
    plain (operate labour action) = Eval.act action := rfl

@[simp]
theorem plain_within (parent : Nat) (frame : Frame) (body : Traced α) :
    plain (within parent frame body) = Eval.within parent frame (plain body) := rfl

@[simp]
theorem plain_nested (frame : Frame) (body : Traced α) :
    plain (nested frame body) = Eval.nested frame (plain body) := rfl

@[simp]
theorem plain_takeCast (body : Traced Value) :
    plain (takeCast body) = Eval.takeCast (plain body) := rfl

@[simp]
theorem plain_round (body : Traced Value) (before : Value) :
    plain (round body before) = Eval.round (plain body) before := rfl

end Plain

/-! ## Traced evaluation -/

section Evaluation

variable (self : Node → Traced Value)

def sequence : List Node → Traced Value
  | [] => return .void
  | [node] => self node
  | node :: nodes => do
    let _ ← self node
    sequence nodes

def values : List Node → Traced (List Value)
  | [] => return []
  | node :: nodes => do
    let value ← self node
    return value :: (← values nodes)

def block (body : List Node) : Traced Value := nested {} (sequence self body)

def condition (node : Node) : Traced Bool := do
  let value ← self node
  silent (Eval.act (Action.truth value))

def speak (aloud : Bool) (result : Value) : Traced Unit :=
  match aloud, result with
  | false, _ | _, .void => return
  | true, result => operate (.utter result) (do Action.speakResult (← Action.text result))

def callSpell (place : Place) (ref : Nat) (aloud : Bool) (args : List Value) :
    Traced Value := do
  match (← silent get).closures[ref]? with
  | none => silent (Eval.blame .notCallable place)
  | some closure =>
    silent (Eval.checkArity place closure.parameters.length args.length)
    note (.enter closure.parameters args)
    let frame := Frame.ofBindings (closure.parameters.zip args)
    let result ← takeCast (within closure.scope frame (sequence self closure.body))
    speak aloud result
    return result

def callBuiltin (place : Place) (name : String) (args : List Value) : Traced Value := do
  match Builtin.named? name with
  | none => return .void
  | some builtin =>
    match builtin.arity with
    | some wanted => silent (Eval.checkArity place wanted args.length)
    | none => pure ()
    invoke builtin args

def call (place : Place) (callee : Value) (args : List Value) : Traced Value :=
  match callee with
  | .spell ref _ aloud => callSpell self place ref aloud args
  | .builtin name _ => callBuiltin place name args
  | _ => silent (Eval.blame .notCallable place)

def fillEntries : List (Node × Node) → (entries : Entries) → Traced Entries
  | [], entries => return entries
  | (keyNode, valueNode) :: pairs, entries => do
    let key ← self keyNode
    let value ← self valueNode
    operate (.takeKey key) (Operation.checkKey key)
    fillEntries pairs (entries.put key value)

def firstBranch (otherwise : Option (List Node)) : List (Node × List Node) → Traced Value
  | [] =>
    match otherwise with
    | some body => block self body
    | none => return .void
  | (test, body) :: branches => do
    if ← condition self test then block self body
    else firstBranch otherwise branches

def patrol (test : Node) (body : List Node) : (rounds : Nat) → (last : Value) → Traced Value
  | 0, _ => silent (throw .weary)
  | rounds + 1, last => do
    if ← condition self test then return last
    else
      match ← round (block self body) last with
      | .left value => return value
      | .over value => patrol test body rounds value

def hunt (name : String) (body : List Node) :
    (rounds : Nat) → Eval.Prey → (last : Value) → Traced Value
  | 0, _, _ => silent (throw .weary)
  | rounds + 1, prey, last => do
    match ← operate (.advance prey) prey.next with
    | none => return last
    | some (item, rest) =>
      let frame := Frame.ofBindings [(name, item)]
      match ← round (nested frame (sequence self body)) last with
      | .left value => return value
      | .over value => hunt name body rounds rest value

def huntThrough (rounds : Nat) (place : Place) (name : String) (iterable : Value)
    (body : List Node) : Traced Value := do
  match ← silent (Eval.act (Eval.Prey.of? iterable)) with
  | some prey => hunt self name body rounds prey .void
  | none => silent (Eval.blame .notHuntable place)

/-- Evaluate a node, given how the nodes inside it are evaluated. -/
def step (rounds : Nat) : Node → Traced Value
  | .stray value => silent (Eval.fault (.noAttribute value.typeName "line"))
  | .bare place => silent (Eval.blame (.noVisitor (Node.bare place).kindName) place)
  | .literal _ value => return value
  | .identifier place name => silent (Eval.lookUp name place)
  | .binary place left op right => do
    let leftValue ← self left
    let rightValue ← self right
    operate (.binary op leftValue rightValue) (Operation.binary place op leftValue rightValue)
  | .unary place op operand => do
    let value ← self operand
    operate (.unary op value) (Operation.unary place op value)
  | .tome _ elems => do
    let items ← values self elems
    silent (Eval.act (Action.newTome items))
  | .grimoire _ pairs => do
    let entries ← fillEntries self pairs #[]
    silent (Eval.act (Action.newGrimoire entries))
  | .index place coll pos => do
    let collectionValue ← self coll
    let index ← self pos
    operate (.readItem collectionValue index) (Operation.readItem place collectionValue index)
  | .call place callee args => do
    let calleeValue ← self callee
    let argumentValues ← values self args
    call self place calleeValue argumentValues
  | .member place object name => do
    let value ← self object
    operate (.readMember value name) (Operation.readMember place value name)
  | .program _ stmts => sequence self stmts
  | .declaration _ name value _ constant => do
    let result ← self value
    silent (Eval.define name result constant)
    return result
  | .assignment place name value => do
    let result ← self value
    silent (Eval.assign name result place)
    return result
  | .indexAssignment place coll pos value => do
    let collectionValue ← self coll
    let index ← self pos
    let result ← self value
    operate (.writeItem collectionValue index)
      (Operation.writeItem place collectionValue index result)
    return result
  | .deletion place name => do
    silent (Eval.delete name place)
    return .void
  | .spell _ name params body aloud => do
    let result ← silent (Eval.newSpell name params body aloud)
    silent (Eval.define name result false)
    return result
  | .cast _ none => silent (throw (.casting .void))
  | .cast _ (some value) => do
    let result ← self value
    silent (throw (.casting result))
  | .conditional _ test outcome alts otherwise =>
    firstBranch self otherwise ((test, outcome) :: alts)
  | .patrol _ test body => patrol self test body rounds .void
  | .hunt place name iterable body => do
    let value ← self iterable
    huntThrough self rounds place name value body
  | .breakLoop _ => silent (throw .breaking)
  | .continueLoop _ => silent (throw .continuing)
  | .expression _ value => self value

end Evaluation

/-- Evaluate a node in at most so many nested steps, noting every visit. -/
def run : (fuel : Nat) → Node → Traced Value
  | 0 => fun _ => silent (throw .weary)
  | fuel + 1 => fun node => do
    note (.visit node)
    step (run fuel) fuel node

/-- The traced evaluation of a program. -/
def interpret : Node → Traced Value
  | .program _ stmts => sequence (run Machine.ampleBudget) stmts
  | node => run Machine.ampleBudget node

end Traced

end Spellbook

import Spellbook.Node
import Spellbook.World

/-!
# Operators on values

What the operators of the language do with their operands.  The operands of an operator that makes
no sense for them are an error at the place of the operator.
-/

namespace Spellbook.Operation

open Spellbook.Action

def blame {α : Type} (cause : Cause) (place : Place) : Action α := throw (.caused cause place)

def calculate (place : Place) (operation : Quantity → Quantity → Except Fault Quantity)
    (left right : Value) : Action Value :=
  match left.number?, right.number? with
  | some quantity, some quantity' => do newQuantity (← ofResult (operation quantity quantity'))
  | _, _ => blame .notNumbers place

/-- Texts are joined with whatever stands beside them, and tomes with tomes. -/
def join (place : Place) (left right : Value) : Action Value := do
  match left, right with
  | .scroll _, _ | _, .scroll _ =>
    let front ← text left
    return .scroll (front ++ (← text right))
  | .tome ref, .tome ref' =>
    let store ← store
    newTome ((store.tome ref).toList ++ (store.tome ref').toList)
  | _, _ => blame .notAddable place

def add (place : Place) (left right : Value) : Action Value :=
  match left.number?, right.number? with
  | some quantity, some quantity' => do newQuantity (← ofResult (quantity.add quantity'))
  | _, _ => join place left right

/-- The bound below which a number of repetitions must stay. -/
def repetitionBound : Nat := Nat.pow 2 63

def repetitions (count : Int) : Action Nat :=
  if (repetitionBound : Int) ≤ count || count < -(repetitionBound : Int) then
    fault .repetitionTooLarge
  else return count.toNat

def repeatText (text : String) (count : Int) : Action Value := do
  let times ← repetitions count
  if text.isEmpty then return .scroll ""
  else if repetitionBound ≤ text.length * times then fault .repeatedTextTooLong
  else if Store.capacity ≤ text.length * times then fault .outOfMemory
  else return .scroll (String.join (List.replicate times text))

def repeatItems (items : List Value) (count : Int) : Action Value := do
  let times ← repetitions count
  if items.isEmpty then newTome []
  else if Store.capacity ≤ items.length * times then fault .outOfMemory
  else newTome (List.replicate times items).flatten

def replicate (place : Place) (left right : Value) : Action Value := do
  match left, right.integer?, left.integer?, right with
  | .scroll text, some count, _, _ => repeatText text count
  | _, _, some count, .scroll text => repeatText text count
  | .tome ref, some count, _, _ =>
    let items ← items ref
    repeatItems items.toList count
  | _, _, _, _ => blame .notMultipliable place

def multiply (place : Place) (left right : Value) : Action Value :=
  match left.number?, right.number? with
  | some quantity, some quantity' => do newQuantity (← ofResult (quantity.multiply quantity'))
  | _, _ => replicate place left right

def divide (place : Place) (left right : Value) : Action Value :=
  match left.number?, right.number? with
  | some quantity, some quantity' =>
    if quantity'.isZero then blame .divisionByVoid place
    else do newQuantity (← ofResult (quantity.divide quantity'))
  | _, _ => blame .notNumbers place

def order (comparison : Comparison) (left right : Value) : Action Value := do
  return .charm (← compare comparison left right)

def equal (left right : Value) : Action Bool := do ofResult ((← store).equal left right)

def binary (place : Place) (op : Operator) (left right : Value) : Action Value := do
  match op with
  | .add => add place left right
  | .subtract => calculate place Quantity.subtract left right
  | .multiply => multiply place left right
  | .divide => divide place left right
  | .modulo => calculate place Quantity.modulo left right
  | .power => calculate place Quantity.power left right
  | .equal => return .charm (← equal left right)
  | .unequal => return .charm (!(← equal left right))
  | .greater => order .greater left right
  | .less => order .less left right
  | .atLeast => order .atLeast left right
  | .atMost => order .atMost left right
  | .conjunction =>
    let store ← store
    return .charm (store.isTruthy left && store.isTruthy right)
  | .disjunction =>
    let store ← store
    return .charm (store.isTruthy left || store.isTruthy right)
  | .unknown spelling => blame (.unknownOperator spelling) place

def unary (place : Place) (op : UnaryOperator) (operand : Value) : Action Value := do
  match op with
  | .negation =>
    match operand.number? with
    | some quantity => newQuantity quantity.negate
    | none => blame .notNegatable place
  | .denial => return .charm (!(← truth operand))
  | .unknown spelling => blame (.unknownUnaryOperator spelling) place

/-! ## Items of collections -/

/-- The key of a grimoire must not be a collection. -/
def checkKey (key : Value) : Action Unit :=
  if key.isHashable then return else fault (.unhashable key.typeName)

/-- The position of an item that can be read, among so many. -/
def readable? (index : Int) (size : Nat) : Option Nat :=
  if 0 ≤ index && index < size then some index.toNat else none

def readItem (place : Place) (coll index : Value) : Action Value := do
  match coll with
  | .tome ref =>
    match index.integer? with
    | none => blame .tomeIndexType place
    | some integer =>
      let items ← items ref
      match (readable? integer items.size).bind fun pos => items[pos]? with
      | some item => return item
      | none => blame (.tomeIndexRange (← text index)) place
  | .grimoire ref =>
    checkKey index
    match (← entries ref).get? index with
    | some value => return value
    | none => blame (.keyNotFound (← text index)) place
  | .scroll words =>
    match index.integer? with
    | none => blame .scrollIndexType place
    | some integer =>
      match (readable? integer words.length).bind fun pos => words.toList[pos]? with
      | some char => return .scroll char.toString
      | none => blame (.scrollIndexRange (← text index)) place
  | _ => blame .notIndexable place

/-- The position of an item that can be written, among so many; negative ones count from the end. -/
def writable (index : Int) (size : Nat) : Except Fault Nat :=
  if (repetitionBound : Int) ≤ index || index < -(repetitionBound : Int) then
    .error .indexTooLarge
  else
    let pos := if index < 0 then index + size else index
    if 0 ≤ pos && pos < size then .ok pos.toNat else .error .assignmentOutOfRange

def writeItem (place : Place) (coll index value : Value) : Action Unit := do
  match coll with
  | .tome ref =>
    match index.integer? with
    | none => blame .tomeIndexType place
    | some integer =>
      let size := (← items ref).size
      let pos ← ofResult (writable integer size)
      modifyStore fun store => store.modifyTome ref (·.setIfInBounds pos value)
  | .grimoire ref =>
    checkKey index
    modifyStore fun store => store.modifyGrimoire ref (·.put index value)
  | _ => blame .notIndexable place

def readMember (place : Place) (object : Value) (name : String) : Action Value := do
  match object with
  | .grimoire ref =>
    match (← entries ref).get? (.scroll name) with
    | some value => return value
    | none => blame (.noMember name) place
  | _ => blame (.noMember name) place

end Spellbook.Operation

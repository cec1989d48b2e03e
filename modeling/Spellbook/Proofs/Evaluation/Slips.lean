import Spellbook.Proofs.Evaluation.Trace
import Spellbook.Proofs.Store.Descent

/-!
# When operations slip

An operation that the language refuses ends in an error of the language. Some operations end in a
fault instead: they slip. From its operands alone it is said of every operation whether it slips and
in which fault (`Labour.slip?`), and proved that it ends in that fault and in no other.
-/

namespace Spellbook

/-! ## The fault of an end -/

/-- The fault that a result is, if it is one. -/
def Fault.of? {α : Type} : Except Fault α → Option Fault
  | .ok _ => none
  | .error failure => some failure

def Trouble.fault? : Trouble → Option Fault
  | fault failure => some failure
  | error _ => none

namespace Action

variable {α β : Type}

/-- The fault in which an action ends in a world, if it ends in one. -/
def fault? (action : Action α) (world : World) : Option Fault :=
  match action world with
  | .ok _ _ => none
  | .error trouble _ => trouble.fault?

theorem fault?_bind {action : Action α} {world middle : World} {result : α}
    (ended : action world = .ok result middle) (next : α → Action β) :
    (action >>= next).fault? world = (next result).fault? middle := by
  simp only [fault?, Bind.bind, EStateM.bind, ended]

@[simp]
theorem fault?_pure (result : α) (world : World) : (pure result : Action α).fault? world = none :=
  rfl

@[simp]
theorem fault?_blame (cause : Cause) (place : Place) (world : World) :
    (Operation.blame cause place : Action α).fault? world = none :=
  rfl

theorem fault?_get_bind (next : World → Action β) (world : World) :
    (get >>= next).fault? world = (next world).fault? world :=
  rfl

@[simp]
theorem fault?_items_bind (ref : Nat) (next : Array Value → Action β) (world : World) :
    (items ref >>= next).fault? world = (next (world.store.tome ref)).fault? world :=
  rfl

@[simp]
theorem fault?_entries_bind (ref : Nat) (next : Entries → Action β) (world : World) :
    (entries ref >>= next).fault? world = (next (world.store.grimoire ref)).fault? world :=
  rfl

/-- What is bound to a result cannot end in a fault that the result itself is not. -/
theorem fault?_ofResult_bind {result : Except Fault α} {next : α → Action β} {world : World}
    (faultless : ∀ value, (next value).fault? world = none) :
    (ofResult result >>= next).fault? world = Fault.of? result := by
  cases result with
  | ok value => exact faultless value
  | error failure => rfl

end Action

/-! ## The slips of operators -/

namespace Quantity

/-- The slip of two quantities that are taken as floating point numbers. -/
def floatSlip? (slip : Float → Float → Option Fault) (left right : Quantity) : Option Fault :=
  match left.toFloat, right.toFloat with
  | .ok num, .ok number' => slip num number'
  | _, _ => some .integerTooLarge

def combineSlip? (left right : Quantity) : Option Fault :=
  match left, right with
  | whole _, whole _ => none
  | left, right => floatSlip? (fun _ _ => none) left right

def quotientSlip? (left right : Quantity) : Option Fault :=
  match left, right with
  | whole left, whole right =>
    if (Binary64.ofQuotient? left right).isNone then some .quotientTooLarge else none
  | left, right => floatSlip? (fun _ _ => none) left right

def remainderSlip? (left right : Quantity) : Option Fault :=
  match left, right with
  | whole _, whole right => if right = 0 then some .integerModuloZero else none
  | left, right =>
    floatSlip? (fun _ divisor => if divisor == 0 then some .floatModuloZero else none) left right

/-- The slip of a power.  Where it is an integer, it slips only if that has too many digits. -/
def powerSlip? (base exp : Quantity) : Option Fault :=
  match base, exp with
  | whole base, whole exp =>
    if 0 ≤ exp then
      if digitBound ≤ base.natAbs.log2 * exp.toNat then some .outOfMemory else none
    else floatSlip? (fun base exp => Fault.of? (floatPower base exp)) (whole base)
      (whole exp)
  | base, exp =>
    floatSlip? (fun base exp => Fault.of? (floatPower base exp)) base exp

end Quantity

/-- The slip of a value that is put into words. -/
def Store.textSlip? (store : Store) (value : Value) : Option Fault :=
  if (store.portray value).isOverlong then some .tooLongToWrite else none

namespace Operation

def numberSlip? (slip : Quantity → Quantity → Option Fault) (left right : Value) : Option Fault :=
  match left.number?, right.number? with
  | some quantity, some quantity' => slip quantity quantity'
  | _, _ => none

def joinSlip? (store : Store) (left right : Value) : Option Fault :=
  match left, right with
  | .scroll _, _ | _, .scroll _ => (store.textSlip? left).or (store.textSlip? right)
  | _, _ => none

def repetitionSlip? (count : Int) : Option Fault :=
  if (repetitionBound : Int) ≤ count || count < -(repetitionBound : Int) then
    some .repetitionTooLarge
  else none

def repeatTextSlip? (text : String) (count : Int) : Option Fault :=
  (repetitionSlip? count).or <|
    if text.isEmpty then none
    else if repetitionBound ≤ text.length * count.toNat then some .repeatedTextTooLong
    else if Store.capacity ≤ text.length * count.toNat then some .outOfMemory
    else none

def repeatItemsSlip? (items : Array Value) (count : Int) : Option Fault :=
  (repetitionSlip? count).or <|
    if items.isEmpty then none
    else if Store.capacity ≤ items.size * count.toNat then some .outOfMemory
    else none

def repeatSlip? (store : Store) (left right : Value) : Option Fault :=
  match left, right.integer?, left.integer?, right with
  | .scroll text, some count, _, _ => repeatTextSlip? text count
  | _, _, some count, .scroll text => repeatTextSlip? text count
  | .tome ref, some count, _, _ => repeatItemsSlip? (store.tome ref) count
  | _, _, _, _ => none

/-- The slip of an operator with its operands. -/
def slip? (store : Store) (op : Operator) (left right : Value) : Option Fault :=
  match op with
  | .add =>
    match left.number?, right.number? with
    | some quantity, some quantity' => quantity.combineSlip? quantity'
    | _, _ => joinSlip? store left right
  | .subtract => numberSlip? Quantity.combineSlip? left right
  | .multiply =>
    match left.number?, right.number? with
    | some quantity, some quantity' => quantity.combineSlip? quantity'
    | _, _ => repeatSlip? store left right
  | .divide =>
    numberSlip? (fun dividend divisor =>
      if divisor.isZero then none else dividend.quotientSlip? divisor) left right
  | .modulo => numberSlip? Quantity.remainderSlip? left right
  | .power => numberSlip? Quantity.powerSlip? left right
  | .greater => Fault.of? (store.compare .greater left right)
  | .less => Fault.of? (store.compare .less left right)
  | .atLeast => Fault.of? (store.compare .atLeast left right)
  | .atMost => Fault.of? (store.compare .atMost left right)
  | .equal | .unequal => Fault.of? (store.equal left right)
  | .conjunction | .disjunction | .unknown _ => none

/-! ## The slips of items and loops -/

def keySlip? (key : Value) : Option Fault :=
  if key.isHashable then none else some (.unhashable key.typeName)

/-- The slip of an index that is read: where it is out of range, the error tells it. -/
def indexSlip? (store : Store) (index : Value) (size : Nat) : Option Fault :=
  match index.integer? with
  | some int => if 0 ≤ int && int < size then none else store.textSlip? index
  | none => none

def readSlip? (store : Store) (coll index : Value) : Option Fault :=
  match coll with
  | .tome ref => indexSlip? store index (store.tome ref).size
  | .scroll words => indexSlip? store index words.length
  | .grimoire ref =>
    (keySlip? index).or <|
      if ((store.grimoire ref).get? index).isSome then none else store.textSlip? index
  | _ => none

/-- The slip of a position that is written, among so many. -/
def positionSlip? (index : Int) (size : Nat) : Option Fault :=
  if (repetitionBound : Int) ≤ index || index < -(repetitionBound : Int) then some .indexTooLarge
  else if -(size : Int) ≤ index && index < size then none
  else some .assignmentOutOfRange

def writeSlip? (store : Store) (coll index : Value) : Option Fault :=
  match coll with
  | .tome ref =>
    index.integer?.bind fun int => positionSlip? int (store.tome ref).size
  | .grimoire _ => keySlip? index
  | _ => none

end Operation

/-- The slip of a loop that turns to what comes next. -/
def Eval.Prey.slip? (world : World) : Eval.Prey → Option Fault
  | keys ref size _ =>
    if (world.store.grimoire ref).size == size then none else some .changedDuringIteration
  | lines ref =>
    match world.handles[ref]? with
    | none => some .closedFile
    | some handle => Fault.of? (handle.readLine (world.files.content handle.content)).2
  | items .. | characters _ => none

/-- The fault in which an operation ends in a world, if it slips. -/
def Labour.slip? (world : World) : Labour → Option Fault
  | binary op left right => Operation.slip? world.store op left right
  | readItem coll index => Operation.readSlip? world.store coll index
  | writeItem coll index => Operation.writeSlip? world.store coll index
  | takeKey key => Operation.keySlip? key
  | advance prey => prey.slip? world
  | utter result => world.store.textSlip? result
  | unary .. | readMember .. => none

/-! ## Operations end in their slips -/

namespace Quantity

/-- A quantity is out of the range of floating point numbers only as an integer. -/
theorem toFloat_cases (quantity : Quantity) :
    (∃ num pair, quantity.toFloat = .ok num ∧ quantity.parts = .ok pair) ∨
      (quantity.toFloat = .error .integerTooLarge ∧ quantity.parts = .error .integerTooLarge) := by
  cases quantity with
  | whole int =>
    simp only [parts, toFloat, Number.floatOfInteger]
    cases Binary64.ofInt? int with
    | some num => exact Or.inl ⟨num, (num, 0), rfl, rfl⟩
    | none => exact Or.inr ⟨rfl, rfl⟩
  | floating num => exact Or.inl ⟨num, (num, 0), rfl, rfl⟩
  | complex real imaginary => exact Or.inl ⟨real, (real, imaginary), rfl, rfl⟩

theorem fault_floats {slip : Float → Float → Option Fault}
    {next : Float → Float → Except Fault Quantity}
    (slips : ∀ num number', Fault.of? (next num number') = slip num number')
    (left right : Quantity) :
    Fault.of? (do next (← left.toFloat) (← right.toFloat)) = floatSlip? slip left right := by
  rw [floatSlip?]
  rcases left.toFloat_cases with ⟨num, -, converted, -⟩ | ⟨beyond, -⟩
  · rcases right.toFloat_cases with ⟨number', -, convertedAlso, -⟩ | ⟨beyond, -⟩
    · rw [converted, convertedAlso]
      exact slips num number'
    · rw [converted, beyond]
      rfl
  · rw [beyond]
    rfl

theorem fault_parts {next : Float × Float → Float × Float → Except Fault Quantity}
    (faultless : ∀ pair pair', Fault.of? (next pair pair') = none) (left right : Quantity) :
    Fault.of? (do next (← left.parts) (← right.parts)) =
      floatSlip? (fun _ _ => none) left right := by
  rw [floatSlip?]
  rcases left.toFloat_cases with ⟨num, pair, converted, parted⟩ | ⟨beyond, parted⟩
  · rcases right.toFloat_cases with
      ⟨number', pair', convertedAlso, partedAlso⟩ | ⟨beyond, partedAlso⟩
    · rw [converted, convertedAlso, parted, partedAlso]
      exact faultless pair pair'
    · rw [converted, beyond, parted, partedAlso]
      rfl
  · rw [beyond, parted]
    rfl

theorem fault_combine (onIntegers : Int → Int → Int) (onFloats : Float → Float → Float)
    (onComplex : Float × Float → Float × Float → Float × Float) (left right : Quantity) :
    Fault.of? (combine onIntegers onFloats onComplex left right) = left.combineSlip? right := by
  cases left with
  | complex real imaginary => exact fault_parts (fun _ _ => rfl) _ _
  | whole int =>
    cases right with
    | whole integer' => rfl
    | floating num => exact fault_floats (fun _ _ => rfl) _ _
    | complex real imaginary => exact fault_parts (fun _ _ => rfl) _ _
  | floating num =>
    cases right with
    | complex real imaginary => exact fault_parts (fun _ _ => rfl) _ _
    | _ => exact fault_floats (fun _ _ => rfl) _ _

theorem fault_divide (left right : Quantity) :
    Fault.of? (divide left right) = left.quotientSlip? right := by
  cases left with
  | whole int =>
    cases right with
    | whole integer' =>
      rw [divide, quotientSlip?]
      cases Binary64.ofQuotient? int integer' <;> rfl
    | _ => exact fault_floats (fun _ _ => rfl) _ _
  | _ => exact fault_floats (fun _ _ => rfl) _ _

theorem fault_modulo (left right : Quantity) :
    Fault.of? (modulo left right) = left.remainderSlip? right := by
  have floating (num number' : Float) :
      Fault.of? (if number' == 0 then .error .floatModuloZero
        else return Quantity.floating (Binary64.flooredRemainder num number')) =
      if number' == 0 then some .floatModuloZero else none := by
    split <;> rfl
  cases left with
  | whole int =>
    cases right with
    | whole integer' =>
      rw [modulo, remainderSlip?]
      split <;> rfl
    | _ => exact fault_floats floating _ _
  | _ => exact fault_floats floating _ _

theorem fault_power (base exp : Quantity) :
    Fault.of? (power base exp) = base.powerSlip? exp := by
  cases base with
  | whole int =>
    cases exp with
    | whole integer' =>
      rw [power, powerSlip?]
      split
      · split <;> rfl
      · exact fault_floats (fun _ _ => rfl) (whole int) (whole integer')
    | _ => exact fault_floats (fun _ _ => rfl) _ _
  | _ => exact fault_floats (fun _ _ => rfl) _ _
end Quantity

namespace Action

/-- Putting a value into words changes nothing, and fails only if the value slips. -/
theorem text_cases (value : Value) (world : World) :
    (∃ words, text value world = .ok words world ∧ world.store.textSlip? value = none) ∨
      (text value world = .error (.fault .tooLongToWrite) world ∧
        world.store.textSlip? value = some .tooLongToWrite) := by
  have outcome := world.store.plainText_failsIf value
  have unfolded : text value world = ofResult (world.store.plainText value) world := rfl
  rw [unfolded, Store.textSlip?]
  generalize (world.store.portray value).isOverlong = overlong,
    world.store.plainText value = written at outcome
  cases outcome with
  | fails => exact Or.inr ⟨rfl, rfl⟩
  | succeeds words => exact Or.inl ⟨words, rfl, rfl⟩

/-- What is bound to the text of a value slips after the value. -/
theorem fault?_text_bind {β : Type} {next : String → Action β} {world : World} {slip : Option Fault}
    (slips : ∀ words, (next words).fault? world = slip) (value : Value) :
    (text value >>= next).fault? world = (world.store.textSlip? value).or slip := by
  rcases text_cases value world with ⟨words, written, none⟩ | ⟨failed, slipped⟩
  · rw [fault?_bind written, none, slips]
    rfl
  · rw [slipped]
    simp only [fault?, Bind.bind, EStateM.bind, failed]
    rfl

end Action

namespace Operation

open Spellbook.Action

theorem fault?_calculate {operation : Quantity → Quantity → Except Fault Quantity}
    {slip : Quantity → Quantity → Option Fault}
    (slips : ∀ quantity quantity',
      Fault.of? (operation quantity quantity') = slip quantity quantity')
    (place : Place) (left right : Value) (world : World) :
    (calculate place operation left right).fault? world = numberSlip? slip left right := by
  rw [calculate, numberSlip?]
  cases left.number? with
  | none => rfl
  | some quantity =>
    cases right.number? with
    | none => rfl
    | some quantity' =>
      exact (fault?_ofResult_bind fun _ => rfl).trans (slips quantity quantity')

theorem fault?_join (place : Place) (left right : Value) (world : World) :
    (join place left right).fault? world = joinSlip? world.store left right := by
  have texts : (do
      let front ← text left
      return Value.scroll (front ++ (← text right))).fault? world =
        (world.store.textSlip? left).or (world.store.textSlip? right) := by
    apply fault?_text_bind
    intro front
    exact (fault?_text_bind (fun _ => fault?_pure _ world) right).trans Option.or_none
  cases left with
  | scroll words => exact texts
  | tome ref =>
    cases right with
    | scroll words => exact texts
    | _ => rfl
  | _ =>
    cases right with
    | scroll words => exact texts
    | _ => rfl

theorem fault?_add (place : Place) (left right : Value) (world : World) :
    (binary place .add left right).fault? world = slip? world.store .add left right := by
  rw [binary, add, slip?]
  cases left.number? with
  | none => exact fault?_join place left right world
  | some quantity =>
    cases right.number? with
    | none => exact fault?_join place left right world
    | some quantity' =>
      dsimp only
      rw [← Quantity.fault_combine]
      exact fault?_ofResult_bind fun _ => rfl

theorem fault?_repetitions_bind {β : Type} {next : Nat → Action β} {world : World}
    {slip : Option Fault} {count : Int} (slips : (next count.toNat).fault? world = slip) :
    (repetitions count >>= next).fault? world = (repetitionSlip? count).or slip := by
  rw [repetitions, repetitionSlip?]
  split
  · rfl
  · exact slips

theorem fault?_repeatText (text : String) (count : Int) (world : World) :
    (repeatText text count).fault? world = repeatTextSlip? text count := by
  apply fault?_repetitions_bind
  split
  · rfl
  · split
    · rfl
    · split <;> rfl

theorem fault?_repeatItems (items : Array Value) (count : Int) (world : World) :
    (repeatItems items.toList count).fault? world = repeatItemsSlip? items count := by
  rw [repeatItemsSlip?, ← Array.isEmpty_toList, ← Array.length_toList]
  apply fault?_repetitions_bind
  split
  · rfl
  · split <;> rfl

theorem fault?_replicate (place : Place) (left right : Value) (world : World) :
    (replicate place left right).fault? world = repeatSlip? world.store left right := by
  have repeated (text : String) (count : Int) : (repeatText text count).fault? world =
      repeatTextSlip? text count := fault?_repeatText text count world
  cases left with
  | scroll text =>
    cases right with
    | rune count => exact repeated text count
    | charm truth => exact repeated text _
    | _ => rfl
  | rune count =>
    cases right with
    | scroll text => exact repeated text count
    | _ => rfl
  | charm truth =>
    cases right with
    | scroll text => exact repeated text _
    | _ => rfl
  | tome ref =>
    have items (count : Int) : (do
        let items ← Action.items ref
        repeatItems items.toList count).fault? world =
          repeatItemsSlip? (world.store.tome ref) count :=
      fault?_repeatItems _ count world
    cases right with
    | rune count => exact items count
    | charm truth => exact items _
    | _ => rfl
  | _ => cases right <;> rfl

theorem fault?_multiply (place : Place) (left right : Value) (world : World) :
    (binary place .multiply left right).fault? world = slip? world.store .multiply left right := by
  rw [binary, multiply, slip?]
  cases left.number? with
  | none => exact fault?_replicate place left right world
  | some quantity =>
    cases right.number? with
    | none => exact fault?_replicate place left right world
    | some quantity' =>
      dsimp only
      rw [← Quantity.fault_combine]
      exact fault?_ofResult_bind fun _ => rfl

theorem fault?_divide (place : Place) (left right : Value) (world : World) :
    (binary place .divide left right).fault? world = slip? world.store .divide left right := by
  rw [binary, divide, slip?, numberSlip?]
  cases left.number? with
  | none => rfl
  | some quantity =>
    cases right.number? with
    | none => rfl
    | some quantity' =>
      dsimp only
      split
      · rfl
      · rw [← Quantity.fault_divide]
        exact fault?_ofResult_bind fun _ => rfl

theorem fault?_order (comparison : Comparison) (left right : Value) (world : World) :
    (order comparison left right).fault? world =
      Fault.of? (world.store.compare comparison left right) := by
  have unfolded : (order comparison left right).fault? world =
      (do return Value.charm (← ofResult (world.store.compare comparison left right))).fault?
        world := rfl
  rw [unfolded]
  exact fault?_ofResult_bind fun _ => rfl

theorem fault?_equal_bind {next : Bool → Action Value} {left right : Value} {world : World}
    (faultless : ∀ isEqual, (next isEqual).fault? world = none) :
    (equal left right >>= next).fault? world = Fault.of? (world.store.equal left right) := by
  have unfolded : (equal left right >>= next).fault? world =
      (ofResult (world.store.equal left right) >>= next).fault? world := rfl
  rw [unfolded]
  exact fault?_ofResult_bind faultless

/-- An operator ends in the fault that its operands say. -/
theorem fault?_binary (place : Place) (op : Operator) (left right : Value) (world : World) :
    (binary place op left right).fault? world = slip? world.store op left right := by
  cases op with
  | add => exact fault?_add place left right world
  | subtract =>
    exact fault?_calculate (Quantity.fault_combine _ _ _) place left right world
  | multiply => exact fault?_multiply place left right world
  | divide => exact fault?_divide place left right world
  | modulo => exact fault?_calculate Quantity.fault_modulo place left right world
  | power => exact fault?_calculate Quantity.fault_power place left right world
  | greater => exact fault?_order .greater left right world
  | less => exact fault?_order .less left right world
  | atLeast => exact fault?_order .atLeast left right world
  | atMost => exact fault?_order .atMost left right world
  | equal | unequal => exact fault?_equal_bind fun _ => rfl
  | conjunction | disjunction | unknown spelling => rfl

theorem fault?_unary (place : Place) (op : UnaryOperator) (operand : Value) (world : World) :
    (unary place op operand).fault? world = none := by
  cases op with
  | negation =>
    rw [unary]
    cases operand.number? <;> rfl
  | denial | unknown spelling => rfl

theorem fault?_checkKey_bind {β : Type} {next : Unit → Action β} {world : World}
    {slip : Option Fault} (slips : (next ()).fault? world = slip) (key : Value) :
    (checkKey key >>= next).fault? world = (keySlip? key).or slip := by
  rw [checkKey, keySlip?]
  split
  · exact slips
  · rfl

theorem fault?_checkKey (key : Value) (world : World) :
    (checkKey key).fault? world = keySlip? key := by
  rw [checkKey, keySlip?]
  split <;> rfl

theorem fault?_tell (cause : String → Cause) (place : Place) (index : Value) (world : World) :
    (text index >>= fun words => (blame (cause words) place : Action Value)).fault? world =
      world.store.textSlip? index :=
  (fault?_text_bind (fun _ => fault?_blame _ place world) index).trans Option.or_none

/-- An item is there exactly if its index is in range. -/
theorem isSome_readable?_bind {α : Type} {size : Nat} {item? : Nat → Option α}
    (present : ∀ pos, pos < size → (item? pos).isSome = true) (index : Int) :
    ((readable? index size).bind item?).isSome = (0 ≤ index && index < size) := by
  rw [readable?]
  split
  case isTrue inside =>
    rw [inside]
    apply present
    rw [Bool.and_eq_true, decide_eq_true_eq, decide_eq_true_eq] at inside
    omega
  case isFalse outside => exact (Bool.not_eq_true _ ▸ outside : _ = false).symm

theorem indexSlip?_eq {index : Value} {int : Int} (isInteger : index.integer? = some int)
    {α : Type} {size : Nat} {item? : Nat → Option α}
    (present : ∀ pos, pos < size → (item? pos).isSome = true) (store : Store) :
    indexSlip? store index size =
      if ((readable? int size).bind item?).isSome then none else store.textSlip? index := by
  rw [indexSlip?, isInteger, isSome_readable?_bind present]

theorem fault?_readItem (place : Place) (coll index : Value) (world : World) :
    (readItem place coll index).fault? world = readSlip? world.store coll index := by
  cases coll with
  | tome ref =>
    rw [readItem, readSlip?]
    cases isInteger : index.integer? with
    | none =>
      rw [indexSlip?, isInteger]
      rfl
    | some int =>
      have present (pos : Nat) (inside : pos < (world.store.tome ref).size) :
          (world.store.tome ref)[pos]?.isSome = true := by
        rw [Array.getElem?_eq_getElem inside]
        rfl
      rw [indexSlip?_eq isInteger present]
      dsimp only
      rw [fault?_items_bind]
      cases (readable? int _).bind _ with
      | some item => rfl
      | none => exact fault?_tell .tomeIndexRange place index world
  | scroll words =>
    rw [readItem, readSlip?]
    cases isInteger : index.integer? with
    | none =>
      rw [indexSlip?, isInteger]
      rfl
    | some int =>
      have present (pos : Nat) (inside : pos < words.length) :
          words.toList[pos]?.isSome = true := by
        rw [List.getElem?_eq_getElem (String.length_toList ▸ inside)]
        rfl
      rw [indexSlip?_eq isInteger present]
      dsimp only
      cases (readable? int _).bind _ with
      | some char => rfl
      | none => exact fault?_tell .scrollIndexRange place index world
  | grimoire ref =>
    apply fault?_checkKey_bind
    rw [fault?_entries_bind]
    cases (world.store.grimoire ref).get? index with
    | some value => rfl
    | none => exact fault?_tell .keyNotFound place index world
  | _ => rfl

theorem fault_writable (index : Int) (size : Nat) :
    Fault.of? (writable index size) = positionSlip? index size := by
  rw [writable, positionSlip?]
  split
  · rfl
  · have same : (0 ≤ (if index < 0 then index + size else index) &&
        (if index < 0 then index + size else index) < size) =
        (-(size : Int) ≤ index && index < size) := by
      rw [Bool.eq_iff_iff]
      simp only [Bool.and_eq_true, decide_eq_true_eq]
      split <;> omega
    simp only [same]
    split <;> rfl

theorem fault?_writeItem (place : Place) (coll index value : Value) (world : World) :
    (writeItem place coll index value).fault? world = writeSlip? world.store coll index := by
  cases coll with
  | tome ref =>
    rw [writeItem, writeSlip?]
    cases index.integer? with
    | none => rfl
    | some int =>
      exact (fault?_ofResult_bind fun _ => rfl).trans (fault_writable int _)
  | grimoire ref =>
    exact (fault?_checkKey_bind rfl index).trans Option.or_none
  | _ => rfl

theorem fault?_readMember (place : Place) (object : Value) (name : String) (world : World) :
    (readMember place object name).fault? world = none := by
  cases object with
  | grimoire ref =>
    rw [readMember, fault?_entries_bind]
    cases (world.store.grimoire ref).get? (.scroll name) <;> rfl
  | _ => rfl

end Operation

theorem Eval.Prey.fault?_next (prey : Eval.Prey) (world : World) :
    prey.next.fault? world = prey.slip? world := by
  cases prey with
  | items ref pos => rfl
  | keys ref size pos =>
    rw [next, Action.fault?_entries_bind, slip?]
    split <;> rfl
  | characters text => cases text <;> rfl
  | lines ref =>
    rw [next, Action.readHandleLine, Action.useHandle, bind_assoc, Action.fault?_get_bind, slip?]
    cases world.handles[ref]? with
    | none => rfl
    | some handle =>
      dsimp only
      generalize handle.readLine (world.files.content handle.content) = outcome
      rcases outcome with ⟨after, failure | line⟩ <;> rfl

namespace Action

/-- Trouble that is always mended is none. -/
theorem recover_ok {α : Type} (action : Action α) {mend : Trouble → Action α}
    (mended : ∀ trouble world, ∃ result after, mend trouble world = .ok result after)
    (world : World) : ∃ result after, recover action mend world = .ok result after := by
  change ∃ result after, EStateM.tryCatch action mend world = .ok result after
  delta EStateM.tryCatch
  dsimp only
  cases action world with
  | ok result after => exact ⟨result, after, rfl⟩
  | error trouble after => exact mended trouble _

/-- The engine for incantations is started without trouble, or not at all. -/
theorem startHerald_ok (world : World) :
    ∃ started after, startHerald world = .ok started after := by
  change ∃ started after, (if world.heraldStarted = true then pure true else _ : Action Bool)
    world = .ok started after
  split
  · exact ⟨true, world, rfl⟩
  · change ∃ started after,
      (if world.speech.isNone = true then pure false else recover _ fun _ => pure false)
        world = .ok started after
    split
    · exact ⟨false, world, rfl⟩
    · exact recover_ok _ (fun _ world => ⟨false, world, rfl⟩) world

theorem fault?_speakResult (words : String) (world : World) :
    (speakResult words).fault? world = none := by
  have printed (_ : Trouble) (world : World) :
      ∃ result after, printLine ("[Speaking]: " ++ words) world = .ok result after :=
    ⟨(), _, rfl⟩
  obtain ⟨started, after, ended⟩ := startHerald_ok world
  rw [speakResult, fault?_bind ended]
  cases started with
  | false => rfl
  | true =>
    obtain ⟨done, last, said⟩ := recover_ok (sayAloud words) printed after
    simp only [if_true, fault?, said]

theorem fault?_utter (result : Value) (world : World) :
    (do speakResult (← text result)).fault? world = world.store.textSlip? result :=
  (fault?_text_bind (fun words => fault?_speakResult words world) result).trans Option.or_none

end Action

end Spellbook

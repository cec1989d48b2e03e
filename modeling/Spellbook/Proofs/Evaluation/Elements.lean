import Spellbook.Proofs.Evaluation.Conduct

/-!
# Elements of tomes that are written and read

Reading an element of a tome refuses an index that is negative or too large, as an error of the
language. Writing counts a negative index from the end of the tome, and where it refuses one, that
is a fault below the language. So the two agree exactly on the indices that can be read.
-/

namespace Spellbook

/-! ## Positions in a tome -/

namespace Store

/-- The element of a tome at an index that is not negative, if there is one. -/
def element? (store : Store) (ref : Nat) (index : Int) : Option Value :=
  if 0 ≤ index then (store.tome ref)[index.toNat]? else none

variable {store : Store} {ref : Nat} {index : Int}

theorem isSome_element?_iff :
    (store.element? ref index).isSome = true ↔
      0 ≤ index ∧ index < (store.tome ref).size := by
  rw [element?]
  split
  case isTrue positive =>
    rw [isSome_getElem?]
    omega
  case isFalse negative =>
    constructor
    · rintro ⟨⟩
    · rintro ⟨positive, -⟩
      exact absurd positive negative

theorem tome_modifyTome (store : Store) (ref : Nat) {change : Array Value → Array Value}
    (empty : change #[] = #[]) :
    (store.modifyTome ref change).tome ref = change (store.tome ref) := by
  rw [tome, tome, modifyTome, Array.getElem?_modify, if_pos rfl]
  cases store.tomes[ref]? with
  | none => exact empty.symm
  | some items => rfl

/-- Once an element is written, it stands at its position, and the others stand where they were. -/
theorem element?_written {pos : Nat} (inside : pos < (store.tome ref).size)
    (value : Value) (index : Int) :
    (store.modifyTome ref (·.setIfInBounds pos value)).element? ref index =
      if index = pos then some value else store.element? ref index := by
  rw [element?, tome_modifyTome store ref rfl, Array.getElem?_setIfInBounds, element?]
  by_cases here : index = pos
  · subst here
    simp [inside]
  · rw [if_neg here]
    split
    · rw [if_neg (by omega)]
    · rfl

end Store

namespace Operation

/-- The element at an index that can be read. -/
theorem readable?_bind (store : Store) (ref : Nat) (index : Int) :
    ((readable? index (store.tome ref).size).bind fun pos =>
        (store.tome ref)[pos]?) = store.element? ref index := by
  rw [readable?, Store.element?]
  split
  case isTrue inside =>
    rw [Bool.and_eq_true, decide_eq_true_eq] at inside
    rw [if_pos inside.1]
    rfl
  case isFalse outside =>
    split
    case isTrue positive =>
      have large : (store.tome ref).size ≤ index.toNat := by
        simp only [Bool.and_eq_true, decide_eq_true_eq] at outside
        omega
      exact (Array.getElem?_eq_none large).symm
    case isFalse negative => rfl

/-- The position that is written lies at the index, counted from the end if that is negative. -/
theorem writable_eq_ok_iff {index : Int} {size pos : Nat} :
    writable index size = .ok pos ↔
      (-(repetitionBound : Int) ≤ index ∧ index < repetitionBound) ∧ pos < size ∧
        (pos : Int) = if index < 0 then index + size else index := by
  rw [writable]
  split
  case isTrue large =>
    simp only [Bool.or_eq_true, decide_eq_true_eq] at large
    constructor
    · rintro ⟨⟩
    · rintro ⟨small, -⟩
      omega
  case isFalse small =>
    simp only [Bool.or_eq_true, decide_eq_true_eq, not_or] at small
    dsimp only
    generalize (if index < 0 then index + size else index : Int) = target
    split
    case isTrue inside =>
      simp only [Bool.and_eq_true, decide_eq_true_eq] at inside
      constructor
      · rintro ⟨⟩
        omega
      · rintro ⟨-, -, same⟩
        rw [← same]
        rfl
    case isFalse outside =>
      simp only [Bool.and_eq_true, decide_eq_true_eq] at outside
      constructor
      · rintro ⟨⟩
      · rintro ⟨-, below, same⟩
        omega

theorem exists_writable_iff {index : Int} {size : Nat} :
    (∃ pos, writable index size = .ok pos) ↔
      (-(repetitionBound : Int) ≤ index ∧ index < repetitionBound) ∧
        -(size : Int) ≤ index ∧ index < size := by
  constructor
  · rintro ⟨pos, written⟩
    obtain ⟨small, below, same⟩ := writable_eq_ok_iff.mp written
    refine ⟨small, ?_⟩
    split at same <;> omega
  · rintro ⟨small, low, high⟩
    refine ⟨(if index < 0 then index + size else index : Int).toNat,
      writable_eq_ok_iff.mpr ⟨small, ?_⟩⟩
    split <;> omega

/-- A position that is refused is a fault of the class of indices. -/
theorem className_of_writable {index : Int} {size : Nat} {fault : Fault}
    (refused : writable index size = .error fault) : fault.className = "IndexError" := by
  have slips := fault_writable index size
  rw [refused, positionSlip?] at slips
  split at slips
  · cases slips
    rfl
  · split at slips
    · cases slips
    · cases slips
      rfl

/-! ## The two operations on a tome -/

/--
The trouble of reading at an index out of range: the language tells the index, unless it is too long
to be told.
-/
def rangeTrouble (place : Place) (index : Value) : Trouble :=
  match ({} : Store).plainText index with
  | .ok words => .caused (.tomeIndexRange words) place
  | .error fault => .fault fault

theorem plainText_rune (store : Store) (num : Int) :
    store.plainText (.rune num) = Number.textOfInteger num := rfl

theorem items_run (ref : Nat) (world : World) :
    Action.items ref world = .ok (world.store.tome ref) world := rfl

section Tome

variable {index : Value} {integer : Int} (isInteger : index.integer? = some integer)
  (place : Place) {ref : Nat} {world : World}
include isInteger

/-- The text of an integer does not depend on the store. -/
theorem text_of_integer (world : World) :
    Action.text index world = Action.ofResult (({} : Store).plainText index) world := by
  have told : Action.text index world = Action.ofResult (world.store.plainText index) world := rfl
  rw [told]
  cases index with
  | rune num =>
    rw [plainText_rune, plainText_rune]
  | charm truth => rfl
  | _ => cases isInteger

theorem className_rangeTrouble :
    (rangeTrouble place index).className =
      if Number.isWritable integer = true then "ForbiddenMagic" else "ValueError" := by
  cases index with
  | rune num =>
    obtain rfl : num = integer := Option.some.inj isInteger
    rw [rangeTrouble, plainText_rune, Number.textOfInteger]
    cases Number.isWritable num <;> rfl
  | charm truth =>
    have short : Number.isWritable integer = true := by
      cases isInteger
      rw [Number.isWritable, decide_eq_true_iff]
      have large {limit : Nat} (some : limit ≠ 0) : 1 < Nat.pow 10 limit :=
        Nat.one_lt_pow some (by decide)
      exact Nat.lt_of_le_of_lt (by cases truth <;> decide) (large (by decide))
    rw [if_pos short]
    rfl
  | _ => cases isInteger

theorem readItem_tome :
    readItem place (.tome ref) index world =
      (world.store.element? ref integer).elim (.error (rangeTrouble place index) world)
        (.ok · world) := by
  rw [← readable?_bind]
  simp only [readItem, isInteger, Bind.bind, EStateM.bind, items_run, rangeTrouble]
  generalize (readable? integer (world.store.tome ref).size).bind _ = found
  cases found with
  | some item => rfl
  | none =>
    simp only [EStateM.bind, text_of_integer isInteger]
    cases ({} : Store).plainText index <;> rfl

end Tome

end Operation

/-! ## Assignments and expressions -/

/-- The node stands for the value: evaluated in the machine it gives the value, changing nothing. -/
def Node.StandsFor (node : Node) (machine : Machine) (value : Value) : Prop :=
  ∀ fuel, Eval.run (fuel + 1) node machine = .ok value machine

theorem Node.standsFor_literal (place : Place) (machine : Machine) (value : Value) :
    (Node.literal place value).StandsFor machine value :=
  fun _ => rfl

namespace Eval

/-- Read the element of a tome at an index, as a script does. -/
def readElement (place : Place) (ref : Nat) (index : Value) : Eval Value :=
  run 2 (.index place (.literal place (.tome ref)) (.literal place index))

/-- Write a value at an index of a tome, as a script does. -/
def writeElement (place : Place) (ref : Nat) (index value : Value) : Eval Value :=
  run 2 (.indexAssignment place (.literal place (.tome ref)) (.literal place index)
    (.literal place value))

theorem readElement_eq (place : Place) (ref : Nat) (index : Value) :
    readElement place ref index =
      act (Operation.readItem place (.tome ref) index) := rfl

theorem writeElement_eq (place : Place) (ref : Nat) (index value : Value) :
    writeElement place ref index value = (do
      act (Operation.writeItem place (.tome ref) index value)
      return value) := rfl

/-- What comes of an evaluation, without the machine that it leaves. -/
def answer {α : Type} : EStateM.Result Halt Machine α → Except Halt α
  | .ok res _ => .ok res
  | .error halt _ => .error halt

def withStore (machine : Machine) (store : Store) : Machine :=
  { machine with world := { machine.world with store } }

section Operands

variable {machine : Machine} {ref : Nat} {index value : Value}
  {coll pos content : Node}

theorem run_index (collected : coll.StandsFor machine (.tome ref))
    (positioned : pos.StandsFor machine index) (place : Place) (fuel : Nat) :
    run (fuel + 2) (.index place coll pos) machine =
      readElement place ref index machine := by
  change (do
    let collectionValue ← run (fuel + 1) coll
    let index ← run (fuel + 1) pos
    act (Operation.readItem place collectionValue index)) machine = _
  simp only [Bind.bind, EStateM.bind, collected fuel, positioned fuel]
  rfl

theorem run_indexAssignment (collected : coll.StandsFor machine (.tome ref))
    (positioned : pos.StandsFor machine index) (valued : content.StandsFor machine value)
    (place : Place) (fuel : Nat) :
    run (fuel + 2) (.indexAssignment place coll pos content) machine =
      writeElement place ref index value machine := by
  change (do
    let collectionValue ← run (fuel + 1) coll
    let index ← run (fuel + 1) pos
    let res ← run (fuel + 1) content
    act (Operation.writeItem place collectionValue index res)
    return res) machine = _
  simp only [Bind.bind, EStateM.bind, collected fuel, positioned fuel, valued fuel]
  rfl

end Operands

section Element

variable {index : Value} {integer : Int} (isInteger : index.integer? = some integer)
  (place : Place) {ref : Nat} {machine : Machine}
include isInteger

theorem readElement_run :
    readElement place ref index machine =
      (machine.world.store.element? ref integer).elim
        (.error (.trouble (Operation.rangeTrouble place index)) machine) (.ok · machine) := by
  simp only [readElement_eq, act, Operation.readItem_tome isInteger place]
  cases machine.world.store.element? ref integer <;> rfl

theorem readElement_of_answer {item : Value}
    (answered : answer (readElement place ref index machine) = .ok item) :
    readElement place ref index machine = .ok item machine := by
  rw [readElement_run isInteger] at answered ⊢
  cases found : machine.world.store.element? ref integer with
  | some other =>
    rw [found] at answered
    cases answered
    rfl
  | none =>
    rw [found] at answered
    cases answered

theorem readElement_of_error {halt : Halt} {after : Machine}
    (ended : readElement place ref index machine = .error halt after) :
    after = machine ∧
      halt.className =
        if Number.isWritable integer = true then "ForbiddenMagic" else "ValueError" := by
  rw [readElement_run isInteger] at ended
  cases found : machine.world.store.element? ref integer with
  | some item =>
    rw [found] at ended
    cases ended
  | none =>
    rw [found] at ended
    cases ended
    exact ⟨rfl, Operation.className_rangeTrouble isInteger place⟩

theorem exists_readElement_iff :
    (∃ res after, readElement place ref index machine = .ok res after) ↔
      0 ≤ integer ∧ integer < (machine.world.store.tome ref).size := by
  rw [← Store.isSome_element?_iff, readElement_run isInteger]
  cases machine.world.store.element? ref integer with
  | some item => exact ⟨fun _ => rfl, fun _ => ⟨item, machine, rfl⟩⟩
  | none =>
    constructor
    · rintro ⟨_, _, ⟨⟩⟩
    · rintro ⟨⟩

end Element

/-! ## Where writing and reading agree -/

/--
Writing and reading the element of a tome at an index agree: one succeeds if the other does; then
the tome keeps its length, the written value is read at the index, and every other index is read as
before; otherwise both are refused in the same class of errors of the language, and nothing changes.
-/
structure ElementAgrees (machine : Machine) (place : Place) (ref : Nat)
    (index value : Value) : Prop where
  together :
    (∃ res after, writeElement place ref index value machine = .ok res after) ↔
      ∃ res after, readElement place ref index machine = .ok res after
  written : ∀ {res : Value} {after : Machine},
    writeElement place ref index value machine = .ok res after →
      (after.world.store.tome ref).size = (machine.world.store.tome ref).size ∧
        readElement place ref index after = .ok value after ∧
          ∀ other : Value, other.integer?.isSome = true → other.integer? ≠ index.integer? →
            answer (readElement place ref other after) =
              answer (readElement place ref other machine)
  refused : ∀ {halt : Halt} {after : Machine},
    writeElement place ref index value machine = .error halt after →
      after = machine ∧ halt.className = "ForbiddenMagic" ∧
        ∃ halt, readElement place ref index machine = .error halt machine ∧
          halt.className = "ForbiddenMagic"

section Agreement

variable {index : Value} {integer : Int} (isInteger : index.integer? = some integer)
  (place : Place) {ref : Nat} {machine : Machine} (value : Value)
include isInteger

/-- A write ends in one of two ways: with the element in its place, or with nothing changed. -/
theorem writeElement_cases :
    (∃ pos, Operation.writable integer (machine.world.store.tome ref).size =
        .ok pos ∧
      writeElement place ref index value machine =
        .ok value (withStore machine
          (machine.world.store.modifyTome ref (·.setIfInBounds pos value)))) ∨
    ∃ fault, fault.className = "IndexError" ∧
      (¬∃ pos, Operation.writable integer (machine.world.store.tome ref).size =
        .ok pos) ∧
      writeElement place ref index value machine =
        .error (.trouble (.fault fault)) machine := by
  simp only [writeElement_eq, Bind.bind, EStateM.bind, act, Operation.writeItem, isInteger,
    Operation.items_run]
  cases written : Operation.writable integer (machine.world.store.tome ref).size with
  | ok pos => exact .inl ⟨pos, rfl, rfl⟩
  | error fault =>
    refine .inr ⟨fault, Operation.className_of_writable written, ?_, rfl⟩
    rintro ⟨_, ⟨⟩⟩

theorem exists_writeElement_iff :
    (∃ res after, writeElement place ref index value machine = .ok res after) ↔
      ((-(Operation.repetitionBound : Int) ≤ integer ∧ integer < Operation.repetitionBound) ∧
        -((machine.world.store.tome ref).size : Int) ≤ integer ∧
          integer < (machine.world.store.tome ref).size) := by
  rw [← Operation.exists_writable_iff]
  rcases writeElement_cases isInteger place value with
    ⟨pos, written, ended⟩ | ⟨fault, -, refused, ended⟩
  · rw [ended]
    exact ⟨fun _ => ⟨pos, written⟩, fun _ => ⟨_, _, rfl⟩⟩
  · rw [ended]
    constructor
    · rintro ⟨_, _, ⟨⟩⟩
    · intro found
      exact absurd found refused

/-- After a write the tome is as long as before, and only one position is read differently. -/
theorem of_writeElement {res : Value} {after : Machine}
    (ended : writeElement place ref index value machine = .ok res after) :
    res = value ∧
      (after.world.store.tome ref).size = (machine.world.store.tome ref).size ∧
        ∃ pos : Nat,
          (pos : Int) = (if integer < 0
            then integer + (machine.world.store.tome ref).size else integer) ∧
          ∀ {other : Value} {num : Int}, other.integer? = some num → ∀ place' : Place,
            answer (readElement place' ref other after) =
              if num = pos then .ok value
              else answer (readElement place' ref other machine) := by
  rcases writeElement_cases isInteger place value with
    ⟨pos, written, found⟩ | ⟨fault, -, -, found⟩
  · obtain ⟨rfl, left⟩ := EStateM.Result.ok.inj (ended.symm.trans found)
    obtain ⟨-, inside, same⟩ := Operation.writable_eq_ok_iff.mp written
    have stored : after.world.store =
        machine.world.store.modifyTome ref (·.setIfInBounds pos res) := by
      rw [left, withStore]
    refine ⟨rfl, ?_, pos, same, ?_⟩
    · rw [stored, Store.tome_modifyTome _ _ rfl, Array.size_setIfInBounds]
    · intro other num isNumber place'
      rw [readElement_run isNumber, readElement_run isNumber, stored,
        Store.element?_written inside res num]
      by_cases here : num = pos
      · rw [if_pos here, if_pos here]
        rfl
      · rw [if_neg here, if_neg here]
        cases machine.world.store.element? ref num <;> rfl
  · rw [found] at ended
    cases ended

theorem of_writeElement_error {halt : Halt} {after : Machine}
    (ended : writeElement place ref index value machine = .error halt after) :
    after = machine ∧ halt.className = "IndexError" := by
  rcases writeElement_cases isInteger place value with
    ⟨pos, written, found⟩ | ⟨fault, sort, -, found⟩
  · rw [found] at ended
    cases ended
  · rw [found] at ended
    cases ended
    exact ⟨rfl, sort⟩

/-- Where an element can be read, it is written as well, and reading gives what was written. -/
theorem elementAgrees_of_readable (positive : 0 ≤ integer)
    (inside : integer < (machine.world.store.tome ref).size)
    (small : integer < Operation.repetitionBound) :
    ElementAgrees machine place ref index value := by
  have readable := (exists_readElement_iff isInteger place).mpr ⟨positive, inside⟩
  obtain ⟨res, after, ended⟩ := (exists_writeElement_iff isInteger place value).mpr
    ⟨⟨by omega, small⟩, by omega, inside⟩
  refine ⟨⟨fun _ => readable, fun _ => ⟨res, after, ended⟩⟩, ?_, ?_⟩
  · intro res after ended
    obtain ⟨-, size, pos, here, reads⟩ := of_writeElement isInteger place value ended
    rw [if_neg (by omega)] at here
    refine ⟨size, readElement_of_answer isInteger place ?_, ?_⟩
    · rw [reads isInteger place, if_pos here.symm]
    · intro other isNumber differ
      obtain ⟨num, isNumber⟩ := Option.isSome_iff_exists.mp isNumber
      have elsewhere : num ≠ pos := by
        rintro rfl
        exact differ (isNumber.trans (here ▸ isInteger.symm))
      rw [reads isNumber place, if_neg elsewhere]
  · intro halt last refused
    rw [refused] at ended
    cases ended

/--
Writing and reading an element agree exactly on the indices that can be read.  An element is written
also at a negative index, which counts from the end; a write that is refused is a fault of the class
of indices, never an error of the language, while a read that is refused is one, unless the index is
too long to be told.  Neither changes anything when it is refused.  All this holds whatever nodes
stand for the tome, the index and the value.
-/
theorem elementAgrees_iff_readable :
    (ElementAgrees machine place ref index value ↔
      0 ≤ integer ∧ integer < (machine.world.store.tome ref).size ∧
        integer < Operation.repetitionBound) ∧
    ((∃ res after, writeElement place ref index value machine = .ok res after) ↔
      (-(Operation.repetitionBound : Int) ≤ integer ∧ integer < Operation.repetitionBound) ∧
        -((machine.world.store.tome ref).size : Int) ≤ integer ∧
          integer < (machine.world.store.tome ref).size) ∧
    ((∃ res after, readElement place ref index machine = .ok res after) ↔
      0 ≤ integer ∧ integer < (machine.world.store.tome ref).size) ∧
    (∀ res after, writeElement place ref index value machine = .ok res after →
      res = value ∧
        (after.world.store.tome ref).size = (machine.world.store.tome ref).size ∧
          ∃ pos : Nat,
            (pos : Int) = (if integer < 0
              then integer + (machine.world.store.tome ref).size else integer) ∧
            ∀ {other : Value} {number : Int}, other.integer? = some number → ∀ place' : Place,
              answer (readElement place' ref other after) =
                if number = pos then .ok value
                else answer (readElement place' ref other machine)) ∧
    (∀ halt after, writeElement place ref index value machine = .error halt after →
      after = machine ∧ halt.className = "IndexError") ∧
    (∀ halt after, readElement place ref index machine = .error halt after →
      after = machine ∧ halt.className =
        if Number.isWritable integer = true then "ForbiddenMagic" else "ValueError") ∧
    ∀ {coll pos content : Node}, coll.StandsFor machine (.tome ref) →
      pos.StandsFor machine index → content.StandsFor machine value → ∀ fuel : Nat,
        run (fuel + 2) (.index place coll pos) machine =
            readElement place ref index machine ∧
          run (fuel + 2) (.indexAssignment place coll pos content) machine =
            writeElement place ref index value machine := by
  refine ⟨⟨?_, ?_⟩, exists_writeElement_iff isInteger place value,
    exists_readElement_iff isInteger place, fun _ _ => of_writeElement isInteger place value,
    fun _ _ => of_writeElement_error isInteger place value,
    fun _ _ => readElement_of_error isInteger place, ?_⟩
  · intro agrees
    cases ended : writeElement place ref index value machine with
    | ok res after =>
      have written := (exists_writeElement_iff isInteger place value).mp ⟨res, after, ended⟩
      have read := (exists_readElement_iff isInteger place).mp
        (agrees.together.mp ⟨res, after, ended⟩)
      exact ⟨read.1, read.2, written.1.2⟩
    | error halt after =>
      -- A refused write would have to be an error of the language.
      have sort := (agrees.refused ended).2.1
      rw [(of_writeElement_error isInteger place value ended).2] at sort
      exact absurd sort (by decide)
  · rintro ⟨positive, inside, small⟩
    exact elementAgrees_of_readable isInteger place value positive inside small
  · intro coll pos content collected positioned valued fuel
    exact ⟨run_index collected positioned place fuel,
      run_indexAssignment collected positioned valued place fuel⟩

end Agreement

/-- A machine whose store holds one tome of three runes. -/
def threeRunes : Machine :=
  Machine.start { store := { tomes := #[#[.rune 1, .rune 2, .rune 3]] } }

/-- The last of three elements is written at the index -1, at which nothing is read. -/
theorem elementAgrees_iff_readable_last :
    (Value.rune (-1)).integer? = some (-1) ∧
      ¬ ElementAgrees threeRunes .unknown 0 (.rune (-1)) (.rune 9) ∧
      (∃ res after,
        writeElement .unknown 0 (.rune (-1)) (.rune 9) threeRunes = .ok res after) ∧
      (¬ ∃ res after, readElement .unknown 0 (.rune (-1)) threeRunes = .ok res after) ∧
      ∀ fuel, run (fuel + 2) (.index .unknown (.literal (.known 1 1) (.tome 0))
        (.literal (.known 1 3) (.rune (-1)))) threeRunes =
          readElement .unknown 0 (.rune (-1)) threeRunes := by
  have facts := @elementAgrees_iff_readable (.rune (-1)) (-1) rfl .unknown 0 threeRunes (.rune 9)
  obtain ⟨agrees, written, read, -, -, -, nodes⟩ := facts
  refine ⟨rfl, fun h => absurd (agrees.mp h).1 (by decide), written.mpr ?_,
    fun h => absurd (read.mp h).1 (by decide), ?_⟩
  · decide
  · intro fuel
    exact (nodes (Node.standsFor_literal _ _ _) (Node.standsFor_literal _ _ _)
      (Node.standsFor_literal .unknown _ _) fuel).1

/-- Past the end an element is not read, in an error of the language; it is not written either, but
in a fault. -/
theorem write_past_end_faults :
    (Machine.halt? "[1, 2, 3][5]").map Halt.className = some "ForbiddenMagic" ∧
      (Machine.halt? "conjure t as [1, 2, 3]\ntransmute (t[5]) as 9").map Halt.className =
        some "IndexError" := by
  decide +kernel

end Eval

end Spellbook

import Spellbook.Datum
import Spellbook.Value.Equality

/-!
# The store of collections

Tomes and grimoires live in a store and are changed in place.  A reference is the position of a
collection in the store; positions are given out in order and never reused.

A grimoire keeps its entries in the order in which their keys were first written.
-/

namespace Spellbook

abbrev Entries := Array (Value × Value)

namespace Entries

def get? (entries : Entries) (key : Value) : Option Value :=
  (entries.find? fun entry => entry.1.sameKey key).map Prod.snd

def contains (entries : Entries) (key : Value) : Bool :=
  entries.any fun entry => entry.1.sameKey key

def put (entries : Entries) (key value : Value) : Entries :=
  match entries.findIdx? fun entry => entry.1.sameKey key with
  | some pos => entries.modify pos fun entry => (entry.1, value)
  | none => entries.push (key, value)

def keys (entries : Entries) : Array Value := entries.map Prod.fst

def values (entries : Entries) : Array Value := entries.map Prod.snd

end Entries

structure Store where
  tomes : Array (Array Value) := #[]
  grimoires : Array Entries := #[]
  /-- How many marks were given out to tell things apart. -/
  marks : Nat := 0

namespace Store

def tome (store : Store) (ref : Nat) : Array Value := store.tomes[ref]?.getD #[]

def grimoire (store : Store) (ref : Nat) : Entries := store.grimoires[ref]?.getD #[]

def addTome (store : Store) (items : Array Value) : Value × Store :=
  (.tome store.tomes.size, { store with tomes := store.tomes.push items })

def addGrimoire (store : Store) (entries : Entries) : Value × Store :=
  (.grimoire store.grimoires.size, { store with grimoires := store.grimoires.push entries })

def modifyTome (store : Store) (ref : Nat) (change : Array Value → Array Value) : Store :=
  { store with tomes := store.tomes.modify ref change }

def modifyGrimoire (store : Store) (ref : Nat) (change : Entries → Entries) : Store :=
  { store with grimoires := store.grimoires.modify ref change }

def newMark (store : Store) : Nat × Store :=
  (store.marks + 1, { store with marks := store.marks + 1 })

def addPotion (store : Store) (num : Float) : Value × Store :=
  if num.isNaN then
    let (mark, store) := store.newMark
    (.potion num mark, store)
  else (.potion num 0, store)

def addQuantity (store : Store) : Quantity → Value × Store
  | .whole integer => (.rune integer, store)
  | .floating num => store.addPotion num
  | .complex real imaginary => (.complex real imaginary, store)

/-- The bound below which the numbers of items of a tome and of characters of a text must stay. -/
def capacity : Nat := Nat.pow 2 60

/--
How deep collections can be nested without one containing itself.  Computations that descend into
collections stop at this depth.
-/
def depth (store : Store) : Nat := store.tomes.size + store.grimoires.size + 1

/-- Where data come from. -/
inductive Source where
  /-- A save file, in which a single word stands for what is not a number. -/
  | saved
  /-- Anywhere else, where every number is a thing of its own. -/
  | given

/--
A floating point number from a source as a value.  What is not a number is one thing wherever it
stands in save files; marks that are given out are positive, so none of them is taken for it.
-/
def addPotionFrom (source : Source) (store : Store) (num : Float) : Value × Store :=
  match source with
  | .saved => (.potion num 0, store)
  | .given => store.addPotion num

mutual

/-- Put a datum from a source into the store, each list and dictionary as a new collection. -/
def plantFrom (source : Source) (store : Store) : Datum → Value × Store
  | .void => (.void, store)
  | .charm truth => (.charm truth, store)
  | .rune integer => (.rune integer, store)
  | .potion num => store.addPotionFrom source num
  | .complex real imaginary => (.complex real imaginary, store)
  | .scroll text => (.scroll text, store)
  | .list items =>
    let (values, store) := plantListFrom source store items
    store.addTome values.toArray
  | .dict entries =>
    let (pairs, store) := plantEntriesFrom source store entries
    store.addGrimoire (pairs.foldl (fun entries (key, value) => entries.put key value) #[])
  | .function _ name =>
    let (mark, store) := store.newMark
    (.builtin name mark, store)
  | .device _ | .cycle _ => (.void, store)

def plantListFrom (source : Source) (store : Store) : List Datum → List Value × Store
  | [] => ([], store)
  | datum :: others =>
    let (value, store) := plantFrom source store datum
    let (values, store) := plantListFrom source store others
    (value :: values, store)

def plantEntriesFrom (source : Source) (store : Store) :
    List (Datum × Datum) → List (Value × Value) × Store
  | [] => ([], store)
  | (key, datum) :: others =>
    let (key, store) := plantFrom source store key
    let (value, store) := plantFrom source store datum
    let (entries, store) := plantEntriesFrom source store others
    ((key, value) :: entries, store)

end

def plant (store : Store) (datum : Datum) : Value × Store := plantFrom .given store datum

def plantList (store : Store) (data : List Datum) : List Value × Store :=
  plantListFrom .given store data

def plantSaved (store : Store) (datum : Datum) : Value × Store := plantFrom .saved store datum

/-- A collection on the way down from a value to a part of it. -/
inductive Ancestor where
  | tome (ref : Nat)
  | grimoire (ref : Nat)
  deriving DecidableEq

/-- Spread a value out as a tree, below the collections of `above`, the nearest first. -/
def portrayBelow (store : Store) : (budget : Nat) → (above : List Ancestor) → Value → Datum
  | _, _, .void => .void
  | _, _, .charm truth => .charm truth
  | _, _, .rune integer => .rune integer
  | _, _, .potion num _ => .potion num
  | _, _, .complex real imaginary => .complex real imaginary
  | _, _, .scroll text => .scroll text
  | _, _, .spell _ name aloud => .function (Value.spellKind aloud) name
  | _, _, .builtin name _ => .function "builtin" name
  | _, _, .handle .. => .device "TextIOWrapper"
  | _, _, .portal _ => .device "Socket"
  | _, _, .connection _ => .device "Connection"
  | 0, _, _ => .void
  | budget + 1, above, .tome ref =>
    match above.findIdx? (· == .tome ref) with
    | some levels => .cycle (levels + 1)
    | none => .list ((store.tome ref).toList.map
        (store.portrayBelow budget (.tome ref :: above)))
  | budget + 1, above, .grimoire ref =>
    match above.findIdx? (· == .grimoire ref) with
    | some levels => .cycle (levels + 1)
    | none => .dict ((store.grimoire ref).toList.map fun (key, value) =>
        (store.portrayBelow budget (.grimoire ref :: above) key,
          store.portrayBelow budget (.grimoire ref :: above) value))

def portray (store : Store) (value : Value) : Datum := store.portrayBelow (store.depth + 1) [] value

end Store

end Spellbook

import Spellbook.Store.Equality

/-!
# The order of values

Numbers are ordered by size, texts by their characters, tomes by the first items that differ.
Other values have no order, and comparing them is a fault, as is a comparison that never ends.
-/

namespace Spellbook

/-- The four ways to ask for the order of two values. -/
inductive Comparison where
  | less
  | atMost
  | greater
  | atLeast

namespace Comparison

def symbol : Comparison → String
  | less => "<"
  | atMost => "<="
  | greater => ">"
  | atLeast => ">="

/-- Does an order satisfy the comparison? -/
def admits : Comparison → Ordering → Bool
  | less, .lt => true
  | atMost, .lt | atMost, .eq => true
  | greater, .gt => true
  | atLeast, .gt | atLeast, .eq => true
  | _, _ => false

end Comparison

namespace Store

/-- The first two items at the same position that are not the same. -/
def firstDifference (store : Store) :
    List Value → List Value → Except Fault (Option (Value × Value))
  | left :: lefts, right :: rights => do
    if ← store.same left right then store.firstDifference lefts rights
    else return some (left, right)
  | _, _ => .ok none

/-- Compare two values, descending into tomes down to the given depth. -/
def compareTo (store : Store) (comparison : Comparison) :
    (depth : Nat) → Value → Value → Except Fault Bool
  | _, .scroll text, .scroll text' =>
    .ok (comparison.admits (compare text.toList text'.toList))
  | depth + 1, .tome ref, .tome ref' => do
    let items := (store.tome ref).toList
    let items' := (store.tome ref').toList
    match ← store.firstDifference items items' with
    | some (left, right) => store.compareTo comparison depth left right
    | none => return comparison.admits (compare items.length items'.length)
  | 0, .tome _, .tome _ => .error .endlessComparison
  | _, left, right =>
    match left.number?, right.number? with
    | some quantity, some quantity' =>
      match quantity.compare? quantity' with
      | some ordering => .ok (comparison.admits ordering)
      | none => .ok false
    | _, _ => .error (.unordered comparison.symbol left.typeName right.typeName)

def compare (store : Store) (comparison : Comparison) (left right : Value) : Except Fault Bool :=
  store.compareTo comparison store.pairings left right

end Store

end Spellbook

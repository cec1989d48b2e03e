import Spellbook.Store

/-!
# Equality of values that may be collections

Two tomes are equal when they have equal items in the same order, two grimoires when they have
equal values under the same keys.  Parts that are one thing count as equal.

A comparison goes down into the parts of both collections.  Where it meets the two collections again
that it is busy with, it never ends; this is a fault.
-/

namespace Spellbook.Store

/--
How many pairs of collections there are.  A comparison that goes down deeper has met a pair again.
-/
def pairings (store : Store) : Nat := store.depth * store.depth

/--
Are two values equal?  Collections are compared from their first parts on until two are not equal,
down to the given depth.
-/
def equalTo (store : Store) : (depth : Nat) → Value → Value → Except Fault Bool
  | depth + 1, .tome ref, .tome ref' =>
    let items := store.tome ref
    let items' := store.tome ref'
    if ref == ref' then .ok true
    else if items.size != items'.size then .ok false
    else
      (items.toList.zip items'.toList).allM fun (left, right) =>
        if left.identical right then .ok true else store.equalTo depth left right
  | depth + 1, .grimoire ref, .grimoire ref' =>
    let entries := store.grimoire ref
    let entries' := store.grimoire ref'
    if ref == ref' then .ok true
    else if entries.size != entries'.size then .ok false
    else
      entries.toList.allM fun (key, value) =>
        match entries'.get? key with
        | some value' =>
          if value.identical value' then .ok true else store.equalTo depth value value'
        | none => .ok false
  | 0, .tome _, .tome _ | 0, .grimoire _, .grimoire _ => .error .endlessComparison
  | _, left, right => .ok (left.scalarEqual right)

def equal (store : Store) (left right : Value) : Except Fault Bool :=
  store.equalTo store.pairings left right

/-- Are two values one thing, or else equal? -/
def same (store : Store) (left right : Value) : Except Fault Bool :=
  if left.identical right then .ok true else store.equal left right

/-- Is the value true as a condition?  Zero, void and whatever is empty are not. -/
def isTruthy (store : Store) : Value → Bool
  | .void => false
  | .charm truth => truth
  | .rune integer => integer != 0
  | .potion num _ => num != 0
  | .scroll text => !text.isEmpty
  | .tome ref => !(store.tome ref).isEmpty
  | .grimoire ref => !(store.grimoire ref).isEmpty
  | _ => true

end Spellbook.Store

import Mathlib.Data.List.Perm.Subperm
import Spellbook.Store.Display

/-!
# Going down through collections

Whoever goes down from a value through collections, and into none of them twice, comes to an end
before the bound on the way down is reached: there are only so many collections.

So it depends on integers only whether a value has a text.  It has none if the tree that it spreads
out to holds an integer of too many digits (`Store.plainText_failsIf`).
-/

namespace Spellbook

open List

/-! ## Failing for one reason -/

/-- A result that is a certain failure if something is wrong, and a value otherwise. -/
inductive FailsIf (failure : Fault) {α : Type} : Bool → Except Fault α → Prop where
  | fails : FailsIf failure true (.error failure)
  | succeeds (res : α) : FailsIf failure false (.ok res)

namespace FailsIf

variable {failure : Fault} {α β : Type}

theorem bind {wrong wrongNext : Bool} {begun : Except Fault α} {next : α → Except Fault β}
    (first : FailsIf failure wrong begun)
    (second : ∀ res, FailsIf failure wrongNext (next res)) :
    FailsIf failure (wrong || wrongNext) (begun >>= next) := by
  cases first with
  | fails => exact .fails
  | succeeds res => exact second res

theorem mapM {wrong : α → Bool} {make : α → Except Fault β} {items : List α}
    (each : ∀ item ∈ items, FailsIf failure (wrong item) (make item)) :
    FailsIf failure (items.any wrong) (items.mapM make) := by
  induction items with
  | nil => exact .succeeds []
  | cons item items ih =>
    rw [mapM_cons, any_cons]
    apply bind (each item mem_cons_self)
    intro res
    rw [← Bool.or_false (items.any wrong)]
    apply bind (ih fun other mem => each other (mem_cons_of_mem item mem))
    intro results
    exact .succeeds (res :: results)

end FailsIf

/-! ## Integers in data -/

namespace Datum

mutual

/-- Does an integer in the datum have too many digits to be written? -/
def isOverlong : Datum → Bool
  | rune int => !Number.isWritable int
  | list items => anyOverlong items
  | dict entries => anyEntryOverlong entries
  | void | charm _ | potion _ | complex .. | scroll _ | function .. | device _ | cycle _ => false

def anyOverlong : List Datum → Bool
  | [] => false
  | datum :: data => datum.isOverlong || anyOverlong data

def anyEntryOverlong : List (Datum × Datum) → Bool
  | [] => false
  | (key, value) :: entries => key.isOverlong || value.isOverlong || anyEntryOverlong entries

end

theorem anyOverlong_eq_any (data : List Datum) : anyOverlong data = data.any isOverlong := by
  induction data with
  | nil => rfl
  | cons datum data ih => rw [anyOverlong, ih, any_cons]

theorem anyEntryOverlong_eq_any (entries : List (Datum × Datum)) :
    anyEntryOverlong entries =
      entries.any fun entry => entry.1.isOverlong || entry.2.isOverlong := by
  induction entries with
  | nil => rfl
  | cons entry entries ih => rw [anyEntryOverlong, ih, any_cons]

end Datum

namespace Store

/-! ## The way down -/

def collections (store : Store) : List Ancestor :=
  (List.range store.tomes.size).map .tome ++ (List.range store.grimoires.size).map .grimoire

theorem depth_eq (store : Store) : store.depth = store.collections.length + 1 := by
  simp [collections, depth]

/-- The collections on a way down: none of them twice, and all of them in the store. -/
structure Descent (store : Store) (above : List Ancestor) : Prop where
  nodup : above.Nodup
  present : above ⊆ store.collections

namespace Descent

variable {store : Store} {above : List Ancestor}

theorem start (store : Store) : Descent store [] := ⟨nodup_nil, nil_subset _⟩

/-- A way down cannot be longer than there are collections. -/
theorem length_lt_depth (descent : Descent store above) : above.length < store.depth := by
  rw [depth_eq]
  exact Nat.lt_succ_of_le (descent.nodup.subperm descent.present).length_le

theorem further {ancestor : Ancestor} (descent : Descent store above)
    (present : ancestor ∈ store.collections) (fresh : ancestor ∉ above) :
    Descent store (ancestor :: above) :=
  ⟨nodup_cons.mpr ⟨fresh, descent.nodup⟩, cons_subset.mpr ⟨present, descent.present⟩⟩

end Descent

theorem tome_mem_collections {store : Store} {ref : Nat} :
    .tome ref ∈ store.collections ↔ ref < store.tomes.size := by
  simp [collections]

theorem grimoire_mem_collections {store : Store} {ref : Nat} :
    .grimoire ref ∈ store.collections ↔ ref < store.grimoires.size := by
  simp [collections]

/-- Nothing is in a tome that is not in the store. -/
theorem tome_mem_of_item {store : Store} {ref : Nat} {item : Value}
    (mem : item ∈ (store.tome ref).toList) : .tome ref ∈ store.collections := by
  rw [tome_mem_collections]
  by_contra absent
  rw [tome, Array.getElem?_eq_none (Nat.not_lt.mp absent)] at mem
  cases mem

theorem grimoire_mem_of_entry {store : Store} {ref : Nat} {entry : Value × Value}
    (mem : entry ∈ (store.grimoire ref).toList) :
    .grimoire ref ∈ store.collections := by
  rw [grimoire_mem_collections]
  by_contra absent
  rw [grimoire, Array.getElem?_eq_none (Nat.not_lt.mp absent)] at mem
  cases mem

/-! ## Texts -/

theorem findIdx?_isSome {above : List Ancestor} {ancestor : Ancestor} :
    (above.findIdx? (· == ancestor)).isSome = above.contains ancestor := by
  rw [List.findIdx?_isSome, contains_eq_any_beq]
  congr 1
  funext other
  exact Bool.beq_comm

theorem textOfInteger_failsIf (int : Int) :
    FailsIf .tooLongToWrite (!Number.isWritable int) (Number.textOfInteger int) := by
  rw [Number.textOfInteger]
  split
  case isTrue writable =>
    rw [writable]
    exact .succeeds _
  case isFalse overlong =>
    rw [Bool.not_eq_true] at overlong
    rw [overlong]
    exact .fails

/-- Below a way down there is room to go on, so the text fails for one reason only. -/
theorem innerText_failsIf (store : Store) {fuel : Nat} {above : List Ancestor}
    (descent : Descent store above) (room : store.depth < fuel + above.length) (value : Value) :
    FailsIf .tooLongToWrite (store.portrayBelow fuel above value).isOverlong
      (store.innerText fuel above value) := by
  induction fuel generalizing above value with
  | zero =>
    have short := descent.length_lt_depth
    omega
  | succ fuel ih =>
    unfold innerText portrayBelow
    cases value with
    | rune int =>
      rw [Datum.isOverlong]
      exact textOfInteger_failsIf int
    | tome ref =>
      dsimp only
      have met := @findIdx?_isSome above (.tome ref)
      cases found : above.findIdx? (· == .tome ref) with
      | some levels =>
        rw [found, Option.isSome_some] at met
        rw [if_pos met.symm]
        exact .succeeds _
      | none =>
        rw [found, Option.isSome_none] at met
        simp only [← met, Bool.false_eq_true, if_false, Datum.isOverlong,
          Datum.anyOverlong_eq_any, any_map]
        have fresh : .tome ref ∉ above :=
          mt contains_iff_mem.mpr (Bool.not_eq_true _ ▸ met.symm)
        rw [← Bool.or_false (List.any _ _)]
        apply FailsIf.bind
        · apply FailsIf.mapM
          intro item mem
          apply ih (descent.further (tome_mem_of_item mem) fresh)
          rw [length_cons]
          omega
        · intro texts
          exact .succeeds _
    | grimoire ref =>
      dsimp only
      have met := @findIdx?_isSome above (.grimoire ref)
      cases found : above.findIdx? (· == .grimoire ref) with
      | some levels =>
        rw [found, Option.isSome_some] at met
        rw [if_pos met.symm]
        exact .succeeds _
      | none =>
        rw [found, Option.isSome_none] at met
        simp only [← met, Bool.false_eq_true, if_false, Datum.isOverlong,
          Datum.anyEntryOverlong_eq_any, any_map]
        have fresh : .grimoire ref ∉ above :=
          mt contains_iff_mem.mpr (Bool.not_eq_true _ ▸ met.symm)
        rw [← Bool.or_false (List.any _ _)]
        apply FailsIf.bind
        · apply FailsIf.mapM
          intro entry mem
          have inside := descent.further (grimoire_mem_of_entry mem) fresh
          have roomInside : store.depth < fuel + (.grimoire ref :: above).length := by
            rw [length_cons]
            omega
          apply FailsIf.bind (ih inside roomInside entry.1)
          intro keyText
          rw [← Bool.or_false (Datum.isOverlong _)]
          apply FailsIf.bind (ih inside roomInside entry.2)
          intro valueText
          exact .succeeds _
        · intro texts
          exact .succeeds _
    | _ => exact .succeeds _

theorem plainText_failsIf (store : Store) (value : Value) :
    FailsIf .tooLongToWrite (store.portray value).isOverlong (store.plainText value) := by
  have quoted := store.innerText_failsIf (.start store) (Nat.lt_succ_self _) value
  cases value with
  | scroll text => exact .succeeds text
  | _ => exact quoted

end Store

end Spellbook

import Spellbook.Proofs.Store.Descent

/-!
# Portraits of plain values

If a value spreads out to a datum that can be typed, the text that is shown for it is written off
the datum (`Store.shown_eq`). Such a datum that is planted into a store is found there again
(`Store.portray_plant`): a collection is planted after everything that it contains.
-/

namespace Spellbook

open List

namespace Datum

/-! ## Data that can be typed -/

/-- The value of a datum that is no collection. -/
def scalar? : Datum → Option Value
  | void => some .void
  | charm truth => some (.charm truth)
  | rune int => some (.rune int)
  | scroll text => some (.scroll text)
  | _ => none

/-- Two data that are the same key of a dictionary. -/
def Clash (key key' : Datum) : Prop :=
  ∃ value ∈ key.scalar?, ∃ value' ∈ key'.scalar?, value.sameKey value' = true

/-- A character that ends a text between double quotes, or stands for something else there. -/
def isDelicate (char : Char) : Bool := char == '"' || char == '\\'

/-- A datum whose text can be typed, as far as the lengths of integers allow. -/
inductive Typeable : Datum → Prop where
  | void : Typeable .void
  | charm (truth : Bool) : Typeable (.charm truth)
  | rune (integer : Int) : Typeable (.rune integer)
  | scroll {text : String} (plain : text.toList.any isDelicate = false) : Typeable (.scroll text)
  | list {items : List Datum} (each : ∀ item ∈ items, Typeable item) : Typeable (.list items)
  | dict {entries : List (Datum × Datum)}
      (scalars : ∀ entry ∈ entries, entry.1.scalar?.isSome = true)
      (keys : ∀ entry ∈ entries, Typeable entry.1) (values : ∀ entry ∈ entries, Typeable entry.2)
      (distinct : entries.Pairwise fun earlier later => ¬Clash earlier.1 later.1) :
      Typeable (.dict entries)

/-! ## Their text -/

mutual

/-- The text by which data are displayed. -/
def text : Datum → String
  | void => "void"
  | charm truth => if truth then "true" else "false"
  | rune int => Number.integerText int
  | scroll text => "\"" ++ text ++ "\""
  | list items => "tome [" ++ String.intercalate ", " (texts items) ++ "]"
  | dict entries => "grimoire \x7b" ++ String.intercalate ", " (entryTexts entries) ++ "\x7d"
  | _ => ""

def texts : List Datum → List String
  | [] => []
  | datum :: data => datum.text :: texts data

def entryTexts : List (Datum × Datum) → List String
  | [] => []
  | (key, value) :: entries => (key.text ++ ": " ++ value.text) :: entryTexts entries

end

theorem texts_eq_map (data : List Datum) : texts data = data.map text := by
  induction data with
  | nil => rfl
  | cons datum data ih => rw [texts, ih, map_cons]

def entryText (entry : Datum × Datum) : String := entry.1.text ++ ": " ++ entry.2.text

theorem entryTexts_eq_map (entries : List (Datum × Datum)) :
    entryTexts entries = entries.map entryText := by
  induction entries with
  | nil => rfl
  | cons entry entries ih =>
    rw [entryTexts, ih, map_cons]
    rfl

end Datum

/-! ## The text that is shown -/

/-- A result that is there unless an integer has too many digits to be written. -/
def unlessOverlong {α : Type} (overlong : Bool) (res : α) : Except Fault α :=
  if overlong then .error .tooLongToWrite else .ok res

section Unless

variable {α β : Type} {overlong overlongNext : Bool}

theorem unlessOverlong_bind {res : α} {next : α → Except Fault β} {final : β}
    (goesOn : next res = unlessOverlong overlongNext final) :
    (unlessOverlong overlong res >>= next) =
      unlessOverlong (overlong || overlongNext) final := by
  cases overlong with
  | true => rfl
  | false => exact goesOn

theorem unlessOverlong_map (res : α) (change : α → β) :
    (do return change (← unlessOverlong overlong res)) =
      unlessOverlong overlong (change res) := by
  cases overlong <;> rfl

theorem mapM_unlessOverlong {isOverlong : α → Bool} {make : α → Except Fault β} {res : α → β}
    {items : List α}
    (each : ∀ item ∈ items, make item = unlessOverlong (isOverlong item) (res item)) :
    items.mapM make = unlessOverlong (items.any isOverlong) (items.map res) := by
  induction items with
  | nil => rfl
  | cons item items ih =>
    rw [mapM_cons, each item mem_cons_self, any_cons]
    apply unlessOverlong_bind
    rw [ih fun other mem => each other (mem_cons_of_mem item mem)]
    exact unlessOverlong_map _ _

theorem entry_unlessOverlong {keyShown valueShown : Except Fault String} {key value : Datum}
    (keyEq : keyShown = unlessOverlong key.isOverlong key.text)
    (valueEq : valueShown = unlessOverlong value.isOverlong value.text) :
    (do return (← keyShown) ++ ": " ++ (← valueShown)) =
      unlessOverlong (key.isOverlong || value.isOverlong) (Datum.entryText (key, value)) := by
  rw [keyEq, valueEq]
  apply unlessOverlong_bind
  exact unlessOverlong_map _ _

end Unless

namespace Store

variable {above : List Ancestor} {ancestor : Ancestor} {store later : Store} {fuel : Nat}
  {value : Value} {items : List Datum} {pairs : List (Value × Value)} {datum : Datum}

theorem findIdx?_eq_none_iff : above.findIdx? (· == ancestor) = none ↔ ancestor ∉ above := by
  rw [List.findIdx?_eq_none_iff]
  constructor
  · intro unlike mem
    exact absurd (unlike ancestor mem) (by simp)
  · intro fresh other mem
    rw [beq_eq_false_iff_ne]
    rintro rfl
    exact fresh mem

/-- Below a way down there is room to go on, so a value is shown as its portrait is written. -/
theorem shownTo_eq (descent : Descent store above) (room : store.depth < fuel + above.length)
    (typeable : (store.portrayBelow fuel above value).Typeable) :
    store.shownTo fuel value =
      unlessOverlong (store.portrayBelow fuel above value).isOverlong
        (store.portrayBelow fuel above value).text := by
  induction fuel generalizing above value with
  | zero =>
    have short := descent.length_lt_depth
    omega
  | succ fuel ih =>
    unfold portrayBelow at typeable ⊢
    cases value with
    | void | charm truth | scroll text => rfl
    | rune int =>
      change Number.textOfInteger int = _
      rw [Number.textOfInteger, Datum.isOverlong, Datum.text, unlessOverlong]
      cases Number.isWritable int <;> rfl
    | tome ref =>
      cases unseen : above.findIdx? (· == .tome ref) with
      | some levels =>
        simp only [unseen] at typeable
        cases typeable
      | none =>
        simp only [unseen] at typeable ⊢
        rcases typeable with - | - | - | - | each
        have shown := mapM_unlessOverlong fun item mem =>
          ih (descent.further (tome_mem_of_item mem) (findIdx?_eq_none_iff.mp unseen))
            (by rw [length_cons]; omega) (each _ (mem_map_of_mem mem))
        rw [shownTo, shown, unlessOverlong_map, Datum.isOverlong, Datum.text,
          Datum.anyOverlong_eq_any, Datum.texts_eq_map, any_map, map_map]
        rfl
    | grimoire ref =>
      cases unseen : above.findIdx? (· == .grimoire ref) with
      | some levels =>
        simp only [unseen] at typeable
        cases typeable
      | none =>
        simp only [unseen] at typeable ⊢
        rcases typeable with - | - | - | - | - | ⟨scalars, keys, values, distinct⟩
        have roomInside : store.depth < fuel + (.grimoire ref :: above).length := by
          rw [length_cons]
          omega
        have inside (entry) (mem : entry ∈ (store.grimoire ref).toList) :=
          descent.further (grimoire_mem_of_entry mem) (findIdx?_eq_none_iff.mp unseen)
        have shown := mapM_unlessOverlong fun entry mem => entry_unlessOverlong
          (ih (inside entry mem) roomInside (keys _ (mem_map_of_mem mem)))
          (ih (inside entry mem) roomInside (values _ (mem_map_of_mem mem)))
        rw [shownTo, shown, unlessOverlong_map, Datum.isOverlong, Datum.text,
          Datum.anyEntryOverlong_eq_any, Datum.entryTexts_eq_map, any_map, map_map]
        rfl
    | _ => cases typeable

/-- A value whose portrait can be typed is shown as its portrait is written. -/
theorem shown_eq (typeable : (store.portray value).Typeable) :
    store.shown value =
      unlessOverlong (store.portray value).isOverlong (store.portray value).text :=
  shownTo_eq (.start store) (Nat.lt_succ_self _) typeable

/-! ## Planting and finding again -/

/-- The later store keeps the collections of the earlier one. -/
structure Keeps (earlier later : Store) : Prop where
  tomesSize : earlier.tomes.size ≤ later.tomes.size
  grimoiresSize : earlier.grimoires.size ≤ later.grimoires.size
  tome : ∀ ref < earlier.tomes.size, later.tome ref = earlier.tome ref
  grimoire : ∀ ref < earlier.grimoires.size,
    later.grimoire ref = earlier.grimoire ref

namespace Keeps

variable {earlier middle later : Store}

theorem refl (store : Store) : store.Keeps store :=
  ⟨Nat.le_refl _, Nat.le_refl _, fun _ _ => rfl, fun _ _ => rfl⟩

theorem trans (first : earlier.Keeps middle) (second : middle.Keeps later) :
    earlier.Keeps later where
  tomesSize := Nat.le_trans first.tomesSize second.tomesSize
  grimoiresSize := Nat.le_trans first.grimoiresSize second.grimoiresSize
  tome ref inside := by
    rw [second.tome ref (Nat.lt_of_lt_of_le inside first.tomesSize),
      first.tome ref inside]
  grimoire ref inside := by
    rw [second.grimoire ref (Nat.lt_of_lt_of_le inside first.grimoiresSize),
      first.grimoire ref inside]

theorem addTome (store : Store) (items : Array Value) : store.Keeps (store.addTome items).2 where
  tomesSize := by simp [Store.addTome]
  grimoiresSize := Nat.le_refl _
  tome ref inside := by
    simp [Store.addTome, Store.tome, Array.getElem?_push, Nat.ne_of_lt inside]
  grimoire _ _ := rfl

theorem addGrimoire (store : Store) (entries : Entries) :
    store.Keeps (store.addGrimoire entries).2 where
  tomesSize := Nat.le_refl _
  grimoiresSize := by simp [Store.addGrimoire]
  tome _ _ := rfl
  grimoire ref inside := by
    simp [Store.addGrimoire, Store.grimoire, Array.getElem?_push, Nat.ne_of_lt inside]

theorem collections_subset (keeps : earlier.Keeps later) :
    earlier.collections ⊆ later.collections := by
  intro ancestor mem
  cases ancestor with
  | tome ref =>
    rw [tome_mem_collections] at mem ⊢
    exact Nat.lt_of_lt_of_le mem keeps.tomesSize
  | grimoire ref =>
    rw [grimoire_mem_collections] at mem ⊢
    exact Nat.lt_of_lt_of_le mem keeps.grimoiresSize

theorem depth_le (keeps : earlier.Keeps later) : earlier.depth ≤ later.depth :=
  Nat.succ_le_succ (Nat.add_le_add keeps.tomesSize keeps.grimoiresSize)

end Keeps

/--
What was planted up to a store can be found in a later one, below collections that were planted
after it.
-/
structure Room (store later : Store) (fuel : Nat) (above : List Ancestor) : Prop where
  keeps : store.Keeps later
  apart : ∀ ancestor ∈ above, ancestor ∉ store.collections
  enough : store.depth ≤ fuel

namespace Room

variable {store later : Store} {fuel : Nat} {above : List Ancestor}

theorem before {earlier : Store} (room : Room store later fuel above)
    (keeps : earlier.Keeps store) : Room earlier later fuel above where
  keeps := keeps.trans room.keeps
  apart ancestor member inside := room.apart ancestor member (keeps.collections_subset inside)
  enough := Nat.le_trans keeps.depth_le room.enough

/-- What was planted before a collection can be found below it. -/
theorem below {whole : Store} (room : Room whole later (fuel + 1) above)
    (keeps : store.Keeps whole) (deeper : store.depth < whole.depth)
    (fresh : ancestor ∉ store.collections) :
    Room store later fuel (ancestor :: above) where
  keeps := keeps.trans room.keeps
  apart := forall_mem_cons.mpr ⟨fresh, (room.before keeps).apart⟩
  enough := Nat.le_of_lt_succ (Nat.lt_of_lt_of_le deeper room.enough)

end Room

/-- A new tome whose items are found below it is found. -/
theorem portrayBelow_addTome {values : List Value}
    (room : Room (store.addTome values.toArray).2 later fuel above)
    (found : ∀ {fuel above}, Room store later fuel above →
      values.map (later.portrayBelow fuel above) = items) :
    later.portrayBelow fuel above (store.addTome values.toArray).1 = .list items := by
  cases fuel with
  | zero => exact absurd room.enough (Nat.not_succ_le_zero _)
  | succ fuel =>
    have present : .tome store.tomes.size ∈ (store.addTome values.toArray).2.collections := by
      rw [tome_mem_collections]
      simp [addTome]
    have unseen := findIdx?_eq_none_iff.mpr fun mem => room.apart _ mem present
    have inside := room.below (Keeps.addTome store _) (by simp [addTome, depth])
      fun inside => Nat.lt_irrefl _ (tome_mem_collections.mp inside)
    have items : later.tome store.tomes.size = values.toArray := by
      rw [room.keeps.tome _ (tome_mem_collections.mp present)]
      simp [addTome, tome]
    unfold portrayBelow
    simp only [addTome, unseen, items]
    rw [found inside]

/-- A new grimoire whose keys and values are found below it is found. -/
theorem portrayBelow_addGrimoire {entries : List (Datum × Datum)}
    (room : Room (store.addGrimoire pairs.toArray).2 later fuel above)
    (found : ∀ {fuel above}, Room store later fuel above →
      pairs.map (Prod.map (later.portrayBelow fuel above) (later.portrayBelow fuel above)) =
        entries) :
    later.portrayBelow fuel above (store.addGrimoire pairs.toArray).1 = .dict entries := by
  cases fuel with
  | zero => exact absurd room.enough (Nat.not_succ_le_zero _)
  | succ fuel =>
    have present :
        .grimoire store.grimoires.size ∈ (store.addGrimoire pairs.toArray).2.collections := by
      rw [grimoire_mem_collections]
      simp [addGrimoire]
    have unseen := findIdx?_eq_none_iff.mpr fun mem => room.apart _ mem present
    have inside := room.below (Keeps.addGrimoire store _)
      (by simp only [addGrimoire, depth, Array.size_push]; omega)
      fun inside => Nat.lt_irrefl _ (grimoire_mem_collections.mp inside)
    have items : later.grimoire store.grimoires.size = pairs.toArray := by
      rw [room.keeps.grimoire _ (grimoire_mem_collections.mp present)]
      simp [addGrimoire, grimoire]
    unfold portrayBelow
    simp only [addGrimoire, unseen, items]
    exact congrArg Datum.dict (found inside)

/-- A datum that is found wherever it was planted. -/
structure Found (datum : Datum) : Prop where
  keeps : ∀ store : Store, store.Keeps (store.plant datum).2
  portrayed : ∀ {store later : Store} {fuel : Nat} {above : List Ancestor},
    Room (store.plant datum).2 later fuel above →
      later.portrayBelow fuel above (store.plant datum).1 = datum

theorem plant_list (store : Store) (items : List Datum) :
    store.plant (.list items) =
      (store.plantList items).2.addTome (store.plantList items).1.toArray := by
  rw [plant, plantFrom]
  rfl

theorem Found.list (each : ∀ item ∈ items, Found item) (store : Store) :
    store.Keeps (store.plantList items).2 ∧
      ∀ {later : Store} {fuel : Nat} {above : List Ancestor},
        Room (store.plantList items).2 later fuel above →
          (store.plantList items).1.map (later.portrayBelow fuel above) = items := by
  induction items generalizing store with
  | nil => exact ⟨.refl store, fun _ => rfl⟩
  | cons item items ih =>
    obtain ⟨first, others⟩ := forall_mem_cons.mp each
    obtain ⟨keeps, portrayed⟩ := ih others (store.plant item).2
    rw [plantList, plantListFrom]
    refine ⟨(first.keeps store).trans keeps, ?_⟩
    intro later fuel above room
    exact congrArg₂ cons (first.portrayed (room.before keeps)) (portrayed room)

/-! ## Entries -/

/-- Writing under keys that are all different is writing one after the other. -/
theorem foldl_put {entries : Entries}
    (distinct : (entries.toList ++ pairs).Pairwise fun earlier later =>
      earlier.1.sameKey later.1 = false) :
    pairs.foldl (fun entries pair => entries.put pair.1 pair.2) entries =
      entries ++ pairs.toArray := by
  induction pairs generalizing entries with
  | nil => simp
  | cons pair pairs ih =>
    have absent : entries.findIdx? (fun entry => entry.1.sameKey pair.1) = none := by
      rw [Array.findIdx?_eq_none_iff]
      intro entry mem
      exact (pairwise_append.mp distinct).2.2 entry (Array.mem_toList_iff.mpr mem) pair
        mem_cons_self
    rw [foldl_cons, Entries.put, absent]
    dsimp only
    rw [ih]
    · simp
    · simpa using distinct

theorem plantEntries_cons (store : Store) (key value : Datum) (entries : List (Datum × Datum)) :
    plantEntriesFrom .given store ((key, value) :: entries) =
      let further := plantEntriesFrom .given ((store.plant key).2.plant value).2 entries
      (((store.plant key).1, ((store.plant key).2.plant value).1) :: further.1, further.2) := by
  rw [plantEntriesFrom]
  rfl

theorem plant_of_scalar (isScalar : datum.scalar? = some value) (store : Store) :
    store.plant datum = (value, store) := by
  cases datum with
  | void | charm | rune | scroll =>
    cases isScalar
    rw [plant, plantFrom]
  | _ => cases isScalar

/-- Keys are planted as they are. -/
theorem plantEntries_keys {entries : List (Datum × Datum)}
    (scalars : ∀ entry ∈ entries, entry.1.scalar?.isSome = true) (store : Store) :
    (plantEntriesFrom .given store entries).1.map (fun pair => some pair.1) =
      entries.map fun entry => entry.1.scalar? := by
  induction entries generalizing store with
  | nil => rfl
  | cons entry entries ih =>
    obtain ⟨first, others⟩ := forall_mem_cons.mp scalars
    obtain ⟨value, isScalar⟩ := Option.isSome_iff_exists.mp first
    rw [plantEntries_cons, map_cons, map_cons, ih others, isScalar, plant_of_scalar isScalar]

theorem plantEntries_distinct {entries : List (Datum × Datum)}
    (scalars : ∀ entry ∈ entries, entry.1.scalar?.isSome = true)
    (distinct : entries.Pairwise fun earlier later => ¬Datum.Clash earlier.1 later.1)
    (store : Store) :
    (plantEntriesFrom .given store entries).1.Pairwise fun earlier later =>
      earlier.1.sameKey later.1 = false := by
  have apart : (entries.map fun entry => entry.1.scalar?).Pairwise fun earlier later =>
      ¬∃ value ∈ earlier, ∃ value' ∈ later, value.sameKey value' = true :=
    pairwise_map.mpr distinct
  rw [← plantEntries_keys scalars store, pairwise_map] at apart
  apply apart.imp
  intro earlier later unlike
  rw [← Bool.not_eq_true]
  exact fun same => unlike ⟨_, rfl, _, rfl, same⟩

theorem plant_of_distinct {entries : List (Datum × Datum)}
    (scalars : ∀ entry ∈ entries, entry.1.scalar?.isSome = true)
    (distinct : entries.Pairwise fun earlier later => ¬Datum.Clash earlier.1 later.1)
    (store : Store) :
    store.plant (.dict entries) =
      (plantEntriesFrom .given store entries).2.addGrimoire
        (plantEntriesFrom .given store entries).1.toArray := by
  have written := @foldl_put _ #[] (plantEntries_distinct scalars distinct store)
  rw [Array.empty_append] at written
  rw [plant, plantFrom]
  exact congrArg (plantEntriesFrom .given store entries).2.addGrimoire written

theorem Found.entries {entries : List (Datum × Datum)} (keys : ∀ entry ∈ entries, Found entry.1)
    (values : ∀ entry ∈ entries, Found entry.2) (store : Store) :
    store.Keeps (plantEntriesFrom .given store entries).2 ∧
      ∀ {later : Store} {fuel : Nat} {above : List Ancestor},
        Room (plantEntriesFrom .given store entries).2 later fuel above →
          (plantEntriesFrom .given store entries).1.map
            (Prod.map (later.portrayBelow fuel above) (later.portrayBelow fuel above)) =
              entries := by
  induction entries generalizing store with
  | nil => exact ⟨.refl store, fun _ => rfl⟩
  | cons entry entries ih =>
    obtain ⟨key, otherKeys⟩ := forall_mem_cons.mp keys
    obtain ⟨value, otherValues⟩ := forall_mem_cons.mp values
    rcases ih otherKeys otherValues ((store.plant entry.1).2.plant entry.2).2 with
      ⟨keeps, portrayed⟩
    have keepsValue := value.keeps (store.plant entry.1).2
    rw [plantEntries_cons]
    refine ⟨((key.keeps store).trans keepsValue).trans keeps, ?_⟩
    intro later fuel above room
    have roomValue := room.before keeps
    rw [map_cons, portrayed room, Prod.map_apply, value.portrayed roomValue,
      key.portrayed (roomValue.before keepsValue)]

/-! ## All data that can be typed -/

namespace Found

theorem scalar (isScalar : datum.scalar? = some value)
    (portrayed : ∀ later : Store, ∀ fuel above, later.portrayBelow fuel above value = datum) :
    Found datum where
  keeps store := by
    rw [plant_of_scalar isScalar]
    exact .refl store
  portrayed {store later fuel above} _ := by
    rw [plant_of_scalar isScalar, portrayed]

theorem tome (each : ∀ item ∈ items, Found item) :
    Found (.list items) where
  keeps store := by
    rw [plant_list]
    exact (Found.list each store).1.trans (.addTome _ _)
  portrayed {store later fuel above} room := by
    rw [plant_list] at room ⊢
    exact portrayBelow_addTome room (Found.list each store).2

theorem grimoire {entries : List (Datum × Datum)}
    (scalars : ∀ entry ∈ entries, entry.1.scalar?.isSome = true)
    (keys : ∀ entry ∈ entries, Found entry.1) (values : ∀ entry ∈ entries, Found entry.2)
    (distinct : entries.Pairwise fun earlier later => ¬Datum.Clash earlier.1 later.1) :
    Found (.dict entries) where
  keeps store := by
    rw [plant_of_distinct scalars distinct]
    exact (Found.entries keys values store).1.trans (.addGrimoire _ _)
  portrayed {store later fuel above} room := by
    rw [plant_of_distinct scalars distinct] at room ⊢
    exact portrayBelow_addGrimoire room (Found.entries keys values store).2

/-- What is found wherever it was planted is found in the store that is left. -/
theorem portray (found : Found datum) (store : Store) :
    (store.plant datum).2.portray (store.plant datum).1 = datum := by
  apply found.portrayed
  constructor
  · exact .refl _
  · intro ancestor mem
    cases mem
  · exact Nat.le_succ _

end Found

theorem found_of_typeable (typeable : datum.Typeable) : Found datum := by
  induction typeable with
  | void | charm | rune | scroll =>
    apply Found.scalar rfl
    intro later fuel above
    rw [portrayBelow]
  | list _ each => exact .tome each
  | dict scalars _ _ distinct keys values => exact .grimoire scalars keys values distinct

/-- A datum that can be typed is found where it was planted. -/
theorem portray_plant (typeable : datum.Typeable) (store : Store) :
    (store.plant datum).2.portray (store.plant datum).1 = datum :=
  (found_of_typeable typeable).portray store

end Store

end Spellbook

import Spellbook.Scope

/-!
# What evaluation may do to scopes

Evaluation keeps the current scope and the parents of scopes; none gains a name or a constant,
except that the current one may gain those that are declared (`Scopes.Grows`). This is one of the
relations that hold of every single operation on scopes and of operations one after the other
(`Scopes.Change.Closed`).
-/

namespace Spellbook

open List

variable {frame : Frame} {name : String}

/-! ## Frames -/

namespace Frame

variable {other : String} {value : Value} {constant : Bool}

theorem lookup_setIn {name : String} {bindings : List (String × Value)}
    (bound : (bindings.lookup name).isSome = true) (value : Value) (other : String) :
    (setIn name value bindings).lookup other =
      if other = name then some value else bindings.lookup other := by
  induction bindings with
  | nil => cases bound
  | cons binding bindings ih =>
    obtain ⟨first, old⟩ := binding
    rw [setIn]
    by_cases same : first = name
    · subst same
      rw [if_pos (beq_self_eq_true first), lookup_cons, lookup_cons]
      by_cases here : other = first
      · rw [if_pos here, beq_iff_eq.mpr here]
      · rw [if_neg here, beq_eq_false_iff_ne.mpr here]
    · have further : (bindings.lookup name).isSome = true := by
        rwa [lookup_cons, beq_eq_false_iff_ne.mpr (Ne.symm same)] at bound
      rw [if_neg (mt beq_iff_eq.mp same), lookup_cons, lookup_cons, ih further]
      by_cases here : other = first
      · subst here
        rw [beq_self_eq_true]
        exact (if_neg same).symm
      · rw [beq_eq_false_iff_ne.mpr here]

theorem get?_set (frame : Frame) (name : String) (value : Value) (other : String) :
    (frame.set name value).get? other = if other = name then some value else frame.get? other := by
  unfold set
  split
  case isTrue bound => exact lookup_setIn bound value other
  case isFalse =>
    rw [get?, lookup_cons]
    by_cases same : other = name
    · rw [if_pos same, beq_iff_eq.mpr same]
    · rw [if_neg same, beq_eq_false_iff_ne.mpr same]
      rfl

theorem get?_define (frame : Frame) (name : String) (value : Value) (constant : Bool)
    (other : String) :
    (frame.define name value constant).get? other =
      if other = name then some value else frame.get? other := by
  rw [← get?_set]
  unfold define
  dsimp only
  split <;> rfl

theorem get?_erase (frame : Frame) (name other : String) :
    (frame.erase name).get? other = if other = name then none else frame.get? other := by
  obtain ⟨bindings, constants⟩ := frame
  simp only [erase, get?]
  induction bindings with
  | nil => split <;> rfl
  | cons binding bindings ih =>
    rw [filter_cons, lookup_cons]
    by_cases same : other = name
    · rw [if_pos same] at ih ⊢
      split
      case isTrue kept =>
        have unlike : other ≠ binding.1 := same ▸ (bne_iff_ne.mp kept).symm
        rw [lookup_cons, beq_eq_false_iff_ne.mpr unlike, ih]
      case isFalse => exact ih
    · rw [if_neg same] at ih ⊢
      split
      case isTrue => rw [lookup_cons, ih]
      case isFalse erased =>
        have first : binding.1 = name := Decidable.not_not.mp (mt bne_iff_ne.mpr erased)
        rw [ih, first, beq_eq_false_iff_ne.mpr same]

theorem binds_set (bound : (frame.set name value).binds other = true) :
    other = name ∨ frame.binds other = true := by
  rw [binds, get?_set] at bound
  split at bound
  case isTrue same => exact Or.inl same
  case isFalse => exact Or.inr bound

theorem constants_set (frame : Frame) (name : String) (value : Value) :
    (frame.set name value).constants = frame.constants := by
  unfold set
  split <;> rfl

theorem binds_define (bound : (frame.define name value constant).binds other = true) :
    other = name ∨ frame.binds other = true := by
  rw [binds, get?_define, ← get?_set] at bound
  exact binds_set bound

/-- Defining a name makes no other name constant, and that name only if it is to be. -/
theorem holdsConstant_define
    (held : (frame.define name value constant).holdsConstant other = true) :
    other = name ∧ constant = true ∨ frame.holdsConstant other = true := by
  unfold define at held
  dsimp only at held
  split at held
  case isTrue marks =>
    have isConstant : constant = true := (Bool.and_eq_true_iff.mp marks).1
    rw [holdsConstant, constants_set, contains_cons, Bool.or_eq_true] at held
    rcases held with same | held
    · exact Or.inl ⟨beq_iff_eq.mp same, isConstant⟩
    · exact Or.inr held
  case isFalse =>
    rw [holdsConstant, constants_set] at held
    exact Or.inr held

theorem binds_erase (bound : (frame.erase name).binds other = true) : frame.binds other = true := by
  rw [binds, get?_erase] at bound
  split at bound
  · cases bound
  · exact bound

end Frame

/-- The frame where a name is changed binds it, and not as a constant. -/
theorem Chain.frame_of_site {chain : Chain} {depth : Nat} (found : chain.site name = .ok depth) :
    ∃ frame, chain[depth]? = some frame ∧ frame.binds name = true ∧
      frame.holdsConstant name = false := by
  induction chain generalizing depth with
  | nil => cases found
  | cons frame outer ih =>
    rw [site] at found
    split at found
    · cases found
    case isFalse free =>
      split at found
      case isTrue bound =>
        cases found
        exact ⟨frame, rfl, bound, Bool.eq_false_iff.mpr free⟩
      case isFalse =>
        split at found
        · cases found
        · cases inner : Chain.site outer name with
          | error refusal =>
            rw [inner] at found
            cases found
          | ok further =>
            rw [inner] at found
            cases found
            exact ih inner

namespace Scopes

variable {scopes : Scopes} {pos : Nat}

def parent? (scopes : Scopes) (pos : Nat) : Option Nat :=
  scopes.all[pos]?.bind Scope.parent

/-! ## Changing and adding frames -/

theorem frame_modifyFrame (scopes : Scopes) (pos other : Nat) (change : Frame → Frame)
    (inside : other < scopes.all.size) :
    (scopes.modifyFrame pos change).frame other =
      if pos = other then change (scopes.frame other) else scopes.frame other := by
  simp only [frame, modifyFrame, Array.getElem?_modify, Array.getElem?_eq_getElem inside]
  split <;> rfl

theorem parent?_modifyFrame (scopes : Scopes) (pos other : Nat) (change : Frame → Frame) :
    (scopes.modifyFrame pos change).parent? other = scopes.parent? other := by
  simp only [parent?, modifyFrame, Array.getElem?_modify]
  split
  · cases scopes.all[other]? <;> rfl
  · rfl

section Push

variable (scopes : Scopes) (parent : Nat) (frame : Frame) {pos : Nat}
  (inside : pos < scopes.all.size)

include inside

theorem lt_size_push : pos < (scopes.push parent frame).all.size := by
  simp only [push, Array.size_push]
  exact Nat.lt_succ_of_lt inside

theorem getElem?_push : (scopes.push parent frame).all[pos]? = scopes.all[pos]? :=
  Array.getElem?_push_lt inside ▸ (Array.getElem?_eq_getElem inside).symm

theorem frame_push : (scopes.push parent frame).frame pos = scopes.frame pos := by
  rw [Scopes.frame, getElem?_push scopes parent frame inside, Scopes.frame]

theorem parent?_push : (scopes.push parent frame).parent? pos = scopes.parent? pos := by
  rw [parent?, getElem?_push scopes parent frame inside, parent?]

end Push

theorem frame_of_site (found : scopes.site name = .ok pos) :
    (scopes.frame pos).binds name = true ∧ (scopes.frame pos).holdsConstant name = false := by
  unfold site at found
  split at found
  case h_1 depth inner =>
    cases found
    obtain ⟨frame, present, bound, free⟩ := Chain.frame_of_site inner
    rw [chain, List.getElem?_map] at present
    obtain ⟨pos, there, rfl⟩ := Option.map_eq_some_iff.mp present
    rw [getD_eq_getElem?_getD, there]
    exact ⟨bound, free⟩
  case h_2 => cases found

/-! ## Relations that every operation keeps -/

/-- How scopes may change, if names are declared; each comes with whether it is a constant. -/
abbrev Change := List (String × Bool) → Scopes → Scopes → Prop

/--
Every operation of evaluation changes scopes like this, and so do operations one after the other.
What happens in a scope that was added counts as the doing of the scope that was current before.
-/
structure Change.Closed (change : Change) : Prop where
  refl (declared : List (String × Bool)) (scopes : Scopes) : change declared scopes scopes
  weaken {declared more : List (String × Bool)} {before after : Scopes} :
    change declared before after → declared ⊆ more → change more before after
  trans {declared : List (String × Bool)} {before middle after : Scopes} :
    change declared before middle → change declared middle after → change declared before after
  define (scopes : Scopes) (name : String) (value : Value) (constant : Bool) :
    change [(name, constant)] scopes (scopes.define name value constant)
  set {scopes : Scopes} {name : String} {position : Nat} (found : scopes.site name = .ok position)
    (value : Value) :
    change [] scopes (scopes.modifyFrame position fun frame => frame.set name value)
  erase {scopes : Scopes} {name : String} {position : Nat}
    (found : scopes.site name = .ok position) :
    change [] scopes (scopes.modifyFrame position fun frame => frame.erase name)
  within {declared more : List (String × Bool)} {before after : Scopes} {parent : Nat}
    {frame : Frame} :
    change more { before.push parent frame with current := before.all.size } after →
      change declared before { after with current := before.current }

/-! ## Growth -/

/--
What evaluation may make of the scopes before it, if it declares the names at its own level.  Every
declared name comes with whether it is declared as a constant.
-/
structure Grows (declared : List (String × Bool)) (before after : Scopes) : Prop where
  current_eq : after.current = before.current
  size_le : before.all.size ≤ after.all.size
  parent_eq : ∀ position < before.all.size, after.parent? position = before.parent? position
  name_of : ∀ position < before.all.size, ∀ name,
    (after.frame position).binds name = true →
      (before.frame position).binds name = true ∨
        position = before.current ∧ ∃ constant, (name, constant) ∈ declared
  constant_of : ∀ position < before.all.size, ∀ name,
    (after.frame position).holdsConstant name = true →
      (before.frame position).holdsConstant name = true ∨
        position = before.current ∧ (name, true) ∈ declared

namespace Grows

variable {declared more : List (String × Bool)} {before middle after : Scopes}

theorem refl (scopes : Scopes) : Grows declared scopes scopes where
  current_eq := rfl
  size_le := Nat.le_refl _
  parent_eq _ _ := rfl
  name_of _ _ _ bound := Or.inl bound
  constant_of _ _ _ held := Or.inl held

theorem weaken (grows : Grows declared before after) (subset : declared ⊆ more) :
    Grows more before after where
  current_eq := grows.current_eq
  size_le := grows.size_le
  parent_eq := grows.parent_eq
  name_of pos inside name bound := by
    rcases grows.name_of pos inside name bound with old | ⟨here, constant, mem⟩
    · exact Or.inl old
    · exact Or.inr ⟨here, constant, subset mem⟩
  constant_of pos inside name held := by
    rcases grows.constant_of pos inside name held with old | ⟨here, mem⟩
    · exact Or.inl old
    · exact Or.inr ⟨here, subset mem⟩

theorem trans (first : Grows declared before middle) (second : Grows declared middle after) :
    Grows declared before after where
  current_eq := second.current_eq.trans first.current_eq
  size_le := Nat.le_trans first.size_le second.size_le
  parent_eq pos inside :=
    (second.parent_eq pos (Nat.lt_of_lt_of_le inside first.size_le)).trans
      (first.parent_eq pos inside)
  name_of pos inside name bound := by
    rcases second.name_of pos (Nat.lt_of_lt_of_le inside first.size_le) name bound with
      old | ⟨here, declares⟩
    · exact first.name_of pos inside name old
    · exact Or.inr ⟨here.trans first.current_eq, declares⟩
  constant_of pos inside name held := by
    rcases second.constant_of pos (Nat.lt_of_lt_of_le inside first.size_le) name held with
      old | ⟨here, declares⟩
    · exact first.constant_of pos inside name old
    · exact Or.inr ⟨here.trans first.current_eq, declares⟩

/-- A changed frame grows if the change adds nothing but what is declared. -/
theorem modifyFrame {change : Frame → Frame}
    (names : ∀ name, (change (before.frame pos)).binds name = true →
      (before.frame pos).binds name = true ∨
        pos = before.current ∧ ∃ constant, (name, constant) ∈ declared)
    (constants : ∀ name, (change (before.frame pos)).holdsConstant name = true →
      (before.frame pos).holdsConstant name = true ∨
        pos = before.current ∧ (name, true) ∈ declared) :
    Grows declared before (before.modifyFrame pos change) where
  current_eq := rfl
  size_le := Nat.le_of_eq (Array.size_modify ..).symm
  parent_eq other _ := parent?_modifyFrame before pos other change
  name_of other inside name bound := by
    rw [frame_modifyFrame before pos other change inside] at bound
    split at bound
    case isTrue same =>
      subst same
      exact names name bound
    case isFalse => exact Or.inl bound
  constant_of other inside name held := by
    rw [frame_modifyFrame before pos other change inside] at held
    split at held
    case isTrue same =>
      subst same
      exact constants name held
    case isFalse => exact Or.inl held

theorem define (scopes : Scopes) (name : String) (value : Value) (constant : Bool) :
    Grows [(name, constant)] scopes (scopes.define name value constant) := by
  refine modifyFrame ?_ ?_
  · intro other bound
    rcases Frame.binds_define bound with rfl | old
    · exact Or.inr ⟨rfl, constant, mem_singleton_self _⟩
    · exact Or.inl old
  · intro other held
    rcases Frame.holdsConstant_define held with ⟨rfl, rfl⟩ | old
    · exact Or.inr ⟨rfl, mem_singleton_self _⟩
    · exact Or.inl old

/-- Changing the value of a name adds nothing, since it is bound where it is changed. -/
theorem set (found : scopes.site name = .ok pos) (value : Value) :
    Grows declared scopes (scopes.modifyFrame pos fun frame => frame.set name value) := by
  refine modifyFrame ?_ ?_
  · intro other bound
    rcases Frame.binds_set bound with rfl | old
    · exact Or.inl (frame_of_site found).1
    · exact Or.inl old
  · intro other held
    rw [Frame.holdsConstant, Frame.constants_set] at held
    exact Or.inl held

theorem erase (scopes : Scopes) (name : String) (pos : Nat) :
    Grows declared scopes (scopes.modifyFrame pos fun frame => frame.erase name) := by
  refine modifyFrame ?_ ?_
  · exact fun other bound => Or.inl (Frame.binds_erase bound)
  · exact fun other held => Or.inl held

/--
Whatever happens in a scope that was added, the scopes before it gain nothing, once the current
scope is the same again.
-/
theorem within {parent : Nat}
    (grows : Grows more { before.push parent frame with current := before.all.size } after) :
    Grows declared before { after with current := before.current } where
  current_eq := rfl
  size_le := by
    refine Nat.le_trans ?_ grows.size_le
    simp only [push, Array.size_push]
    exact Nat.le_succ _
  parent_eq pos inside :=
    (grows.parent_eq pos (lt_size_push before parent frame inside)).trans
      (parent?_push before parent frame inside)
  name_of pos inside name bound := by
    rcases grows.name_of pos (lt_size_push before parent frame inside) name bound with
      old | ⟨here, -⟩
    · exact Or.inl (frame_push before parent frame inside ▸ old)
    · exact (Nat.ne_of_lt inside here).elim
  constant_of pos inside name held := by
    rcases grows.constant_of pos (lt_size_push before parent frame inside) name held with
      old | ⟨here, -⟩
    · exact Or.inl (frame_push before parent frame inside ▸ old)
    · exact (Nat.ne_of_lt inside here).elim

/-- Every operation makes scopes grow by what is declared at most. -/
theorem closed : Change.Closed Grows where
  refl _ scopes := refl scopes
  weaken := weaken
  trans := trans
  define := define
  set := set
  erase _ := erase _ _ _
  within := within

end Grows

end Scopes

end Spellbook

import Spellbook.Proofs.Evaluation.Discipline

/-!
# What keeps a constant, and what does not

A frame holds a constant when it marks a name and binds it. From then on no operation removes the
binding or the mark, and the name is neither changed nor removed in that scope or inside it. Its
value stays too, with one exception: defining the name once more in that very scope binds it anew.

The same holds of every evaluation.
-/

namespace Spellbook

open List

namespace Frame

/-! ## Constants in a frame -/

/-- The frame marks the name as constant and binds it to the value. -/
structure Holds (frame : Frame) (name : String) (value : Value) : Prop where
  marked : frame.holdsConstant name = true
  bound : frame.get? name = some value

theorem holds_define (frame : Frame) (name : String) (value : Value) :
    (frame.define name value true).Holds name value where
  marked := by
    unfold define
    dsimp only
    split
    case isTrue => exact contains_cons.trans (by rw [beq_self_eq_true, Bool.true_or])
    case isFalse held =>
      rw [Bool.true_and, Bool.not_eq_true', Bool.not_eq_false] at held
      exact held
  bound := by rw [get?_define, if_pos rfl]

namespace Holds

variable {frame : Frame} {name other : String} {value : Value}

theorem ne_of_free (held : frame.Holds name value) (free : frame.holdsConstant other = false) :
    other ≠ name := by
  rintro rfl
  exact Bool.false_ne_true (free.symm.trans held.marked)

/-- A definition leaves the mark where it is, and the value of every other name. -/
theorem define (held : frame.Holds name value) (other : String) (given : Value) (constant : Bool) :
    (frame.define other given constant).Holds name (if other = name then given else value) where
  marked := by
    have kept : (frame.set other given).holdsConstant name = true := by
      rw [holdsConstant, constants_set]
      exact held.marked
    unfold Frame.define
    dsimp only
    split
    case isTrue => exact contains_cons.trans (Bool.or_eq_true_iff.mpr (Or.inr kept))
    case isFalse => exact kept
  bound := by
    rw [get?_define]
    by_cases same : name = other
    · rw [if_pos same, if_pos same.symm]
    · rw [if_neg same, if_neg (Ne.symm same)]
      exact held.bound

theorem set (held : frame.Holds name value) (differ : other ≠ name) (given : Value) :
    (frame.set other given).Holds name value where
  marked := by
    rw [holdsConstant, constants_set]
    exact held.marked
  bound := by
    rw [get?_set, if_neg differ.symm]
    exact held.bound

theorem erase (held : frame.Holds name value) (differ : other ≠ name) :
    (frame.erase other).Holds name value where
  marked := held.marked
  bound := by
    rw [get?_erase, if_neg differ.symm]
    exact held.bound

end Holds

end Frame

namespace Scopes

/-! ## Constants in the scopes of a run -/

section Holding

variable {scopes : Scopes} {pos : Nat} {name other : String} {value : Value}
  (held : (scopes.frame pos).Holds name value) (inside : pos < scopes.all.size)

include held inside

theorem holds_modifyFrame {site : Nat} {change : Frame → Frame}
    (kept : site = pos → (change (scopes.frame pos)).Holds name value) :
    ((scopes.modifyFrame site change).frame pos).Holds name value := by
  rw [frame_modifyFrame scopes site pos change inside]
  split
  case isTrue same => exact kept same
  case isFalse => exact held

omit inside in
/-- A name that can be changed in the scope of a constant is another one. -/
theorem ne_of_site (found : scopes.site other = .ok pos) : other ≠ name :=
  held.ne_of_free (frame_of_site found).2

theorem holds_set {site : Nat} (found : scopes.site other = .ok site) (given : Value) :
    ((scopes.modifyFrame site fun frame => frame.set other given).frame pos).Holds
      name value := by
  refine holds_modifyFrame held inside ?_
  rintro rfl
  exact held.set (ne_of_site held found) given

theorem holds_erase {site : Nat} (found : scopes.site other = .ok site) :
    ((scopes.modifyFrame site fun frame => frame.erase other).frame pos).Holds name value := by
  refine holds_modifyFrame held inside ?_
  rintro rfl
  exact held.erase (ne_of_site held found)

/-- Only a definition of the same name in the same scope gives a constant another value. -/
theorem holds_define (other : String) (given : Value) (constant : Bool) :
    ((scopes.define other given constant).frame pos).Holds name
      (if scopes.current = pos ∧ other = name then given else value) := by
  rw [define, frame_modifyFrame scopes _ pos _ inside]
  split
  case isTrue same =>
    simp only [same, true_and]
    exact held.define other given constant
  case isFalse elsewhere =>
    rw [if_neg fun both => elsewhere both.1]
    exact held

end Holding

/-! ## Operations on any scope -/

/-- An operation on the scope at a position, or the making of a scope inside the one there. -/
inductive Deed where
  | define (pos : Nat) (name : String) (value : Value) (constant : Bool)
  | assign (pos : Nat) (name : String) (value : Value)
  | delete (pos : Nat) (name : String)
  | enter (parent : Nat) (frame : Frame)

namespace Deed

/-- The scopes after a deed; one that is refused leaves them as they are. -/
def perform (scopes : Scopes) : Deed → Scopes
  | define pos name value constant =>
    { scopes with current := pos }.define name value constant
  | assign pos name value =>
    match { scopes with current := pos }.assign name value with
    | .ok after => after
    | .error _ => scopes
  | delete pos name =>
    match { scopes with current := pos }.delete name with
    | .ok after => after
    | .error _ => scopes
  | enter parent frame => scopes.push parent frame

/-- The value that a deed binds a name to by a definition in the scope at a position. -/
def bindsAnew? (pos : Nat) (name : String) : Deed → Option Value
  | define site other value _ => if site = pos ∧ other = name then some value else none
  | assign .. | delete .. | enter .. => none

/-- The value of a constant in the scope at a position after further deeds. -/
def latest (pos : Nat) (name : String) (value : Value) (deeds : List Deed) : Value :=
  deeds.foldl (fun value deed => (deed.bindsAnew? pos name).getD value) value

theorem perform_holds {scopes : Scopes} {pos : Nat} {name : String} {value : Value}
    (inside : pos < scopes.all.size) (held : (scopes.frame pos).Holds name value)
    (deed : Deed) :
    pos < (deed.perform scopes).all.size ∧
      ((deed.perform scopes).frame pos).Holds name
        ((deed.bindsAnew? pos name).getD value) := by
  have moved : ∀ site, ({ scopes with current := site }.frame pos).Holds name value :=
    fun _ => held
  cases deed with
  | define site other given constant =>
    constructor
    · exact Nat.lt_of_lt_of_eq inside (Array.size_modify ..).symm
    · have defined := holds_define (moved site) inside other given constant
      rw [bindsAnew?]
      split at defined
      case isTrue same => rwa [if_pos same]
      case isFalse differ => rwa [if_neg differ]
  | assign site other given =>
    cases found : { scopes with current := site }.site other with
    | ok changed =>
      rw [perform, Scopes.assign, found]
      constructor
      · exact Nat.lt_of_lt_of_eq inside (Array.size_modify ..).symm
      · exact holds_set (moved site) inside found given
    | error refusal =>
      rw [perform, Scopes.assign, found]
      exact ⟨inside, held⟩
  | delete site other =>
    cases found : { scopes with current := site }.site other with
    | ok changed =>
      rw [perform, Scopes.delete, found]
      constructor
      · exact Nat.lt_of_lt_of_eq inside (Array.size_modify ..).symm
      · exact holds_erase (moved site) inside found
    | error refusal =>
      rw [perform, Scopes.delete, found]
      exact ⟨inside, held⟩
  | enter parent frame =>
    constructor
    · exact lt_size_push scopes parent frame inside
    · rw [perform, frame_push scopes parent frame inside]
      exact held

theorem foldl_perform_holds {scopes : Scopes} {pos : Nat} {name : String} {value : Value}
    (inside : pos < scopes.all.size) (held : (scopes.frame pos).Holds name value)
    (deeds : List Deed) :
    ((deeds.foldl perform scopes).frame pos).Holds name
      (latest pos name value deeds) := by
  induction deeds generalizing scopes value with
  | nil => exact held
  | cons deed deeds ih =>
    obtain ⟨insideAfter, heldAfter⟩ := perform_holds inside held deed
    exact ih insideAfter heldAfter

end Deed

/-! ## Evaluation -/

/--
What evaluation may make of the constants in the scopes before it, if it declares the names at its
own level.
-/
structure Honours (declared : List (String × Bool)) (before after : Scopes) : Prop where
  current_eq : after.current = before.current
  size_le : before.all.size ≤ after.all.size
  held : ∀ pos < before.all.size, ∀ name value, (before.frame pos).Holds name value →
    ∃ later, (after.frame pos).Holds name later ∧
      (later = value ∨ pos = before.current ∧ ∃ constant, (name, constant) ∈ declared)

namespace Honours

variable {declared more : List (String × Bool)} {before middle after : Scopes}

theorem trans (first : Honours declared before middle) (second : Honours declared middle after) :
    Honours declared before after where
  current_eq := second.current_eq.trans first.current_eq
  size_le := Nat.le_trans first.size_le second.size_le
  held pos inside name value holds := by
    obtain ⟨between, heldBetween, kept⟩ := first.held pos inside name value holds
    rcases second.held pos (Nat.lt_of_lt_of_le inside first.size_le) name between heldBetween
      with ⟨later, heldLater, rfl | ⟨here, declares⟩⟩
    · exact ⟨later, heldLater, kept⟩
    · exact ⟨later, heldLater, Or.inr ⟨here.trans first.current_eq, declares⟩⟩

theorem define (scopes : Scopes) (name : String) (value : Value) (constant : Bool) :
    Honours [(name, constant)] scopes (scopes.define name value constant) where
  current_eq := rfl
  size_le := Nat.le_of_eq (Array.size_modify ..).symm
  held pos inside other old holds := by
    refine ⟨_, holds_define holds inside name value constant, ?_⟩
    split
    case isTrue same =>
      obtain ⟨rfl, rfl⟩ := same
      exact Or.inr ⟨rfl, constant, mem_singleton_self _⟩
    case isFalse => exact Or.inl rfl

/-- What happens in a scope that was added does not touch the constants that there were. -/
theorem within {parent : Nat} {frame : Frame}
    (honours : Honours more { before.push parent frame with current := before.all.size } after) :
    Honours declared before { after with current := before.current } where
  current_eq := rfl
  size_le := by
    refine Nat.le_trans ?_ honours.size_le
    simp only [push, Array.size_push]
    exact Nat.le_succ _
  held pos inside name value holds := by
    rw [← frame_push before parent frame inside] at holds
    rcases honours.held pos (lt_size_push before parent frame inside) name value holds with
      ⟨later, heldLater, same | ⟨here, -⟩⟩
    · exact ⟨later, heldLater, Or.inl same⟩
    · exact (Nat.ne_of_lt inside here).elim

theorem closed : Change.Closed Honours where
  refl _ scopes := ⟨rfl, Nat.le_refl _, fun _ _ _ value holds => ⟨value, holds, Or.inl rfl⟩⟩
  weaken honours subset :=
    { current_eq := honours.current_eq
      size_le := honours.size_le
      held := by
        intro pos inside name value holds
        rcases honours.held pos inside name value holds with
          ⟨later, heldLater, same | ⟨here, constant, mem⟩⟩
        · exact ⟨later, heldLater, Or.inl same⟩
        · exact ⟨later, heldLater, Or.inr ⟨here, constant, subset mem⟩⟩ }
  trans := trans
  define := define
  set found given :=
    { current_eq := rfl
      size_le := Nat.le_of_eq (Array.size_modify ..).symm
      held := fun _ inside _ value holds =>
        ⟨value, holds_set holds inside found given, Or.inl rfl⟩ }
  erase found :=
    { current_eq := rfl
      size_le := Nat.le_of_eq (Array.size_modify ..).symm
      held := fun _ inside _ value holds => ⟨value, holds_erase holds inside found, Or.inl rfl⟩ }
  within := within

end Honours

end Scopes

namespace Machine

/--
Once the scope at a position holds a constant, no operation on any scope, however many there are,
removes the binding or the mark; the value is the last one that a definition of the name in that
very scope gave it, and the first one if there was none.  Nor does any evaluation, however it ends:
it leaves the value as it is, unless it declares the name at its own level while the scope is
current.
-/
theorem constant_stays {machine : Machine} {pos : Nat} {name : String} {value : Value}
    (inside : pos < machine.scopes.all.size)
    (held : (machine.scopes.frame pos).Holds name value) :
    (∀ deeds : List Scopes.Deed,
      ((deeds.foldl Scopes.Deed.perform machine.scopes).frame pos).Holds name
        (Scopes.Deed.latest pos name value deeds)) ∧
    ∀ fuel (node : Node), ∃ later,
      (((Eval.run fuel node).after machine).scopes.frame pos).Holds name later ∧
        (later = value ∨
          pos = machine.scopes.current ∧ ∃ constant, (name, constant) ∈ node.declares) := by
  constructor
  · exact Scopes.Deed.foldl_perform_holds inside held
  · intro fuel node
    have honours := Eval.run_obeys Scopes.Honours.closed fuel node machine
    exact honours.held pos inside name value held

/-- A machine whose only scope holds a constant. -/
def withConstant : Machine where
  scopes := ({} : Scopes).define "x" (.rune 1) true

theorem constant_stays_shadowed :
    0 < withConstant.scopes.all.size ∧ (withConstant.scopes.frame 0).Holds "x" (.rune 1) ∧
      (([Scopes.Deed.delete 0 "x", .enter 0 {}, .define 1 "x" (.rune 2) false].foldl
        Scopes.Deed.perform withConstant.scopes).frame 0).Holds "x" (.rune 1) ∧
      (((Eval.run 3 (.assignment .unknown "x" (.literal .unknown (.rune 2)))).after
        withConstant).scopes.frame 0).Holds "x" (.rune 1) := by
  have inside : 0 < withConstant.scopes.all.size := Nat.one_pos
  have held : (withConstant.scopes.frame 0).Holds "x" (.rune 1) := Frame.holds_define {} "x" _
  refine ⟨inside, held, (constant_stays inside held).1 _, ?_⟩
  rcases (constant_stays inside held).2 3 (.assignment .unknown "x" (.literal .unknown (.rune 2)))
    with ⟨later, heldLater, rfl | ⟨-, _, declares⟩⟩
  · exact heldLater
  · cases declares

/--
A constant gets another value by a second definition in its scope, and so by a declaration or a
spell of its name.
-/
theorem constant_redefined :
    (withConstant.scopes.frame 0).Holds "x" (.rune 1) ∧
      (Scopes.Deed.perform withConstant.scopes (.define 0 "x" (.rune 2) false)).get? "x" =
        some (.rune 2) ∧
      ((Eval.run 3 (.declaration .unknown "x" (.literal .unknown (.rune 2)) none false)).after
        withConstant).scopes.get? "x" = some (.rune 2) ∧
      ((Eval.run 3 (.spell .unknown "x" [] [] false)).after withConstant).scopes.get? "x" =
        some (.spell 0 "x" false) :=
  ⟨Frame.holds_define {} "x" _, rfl, rfl, rfl⟩

end Machine

end Spellbook

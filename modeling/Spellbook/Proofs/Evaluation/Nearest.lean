import Spellbook.Proofs.Evaluation.Constants

/-!
# The nearest scope that binds a name

The nearest scope that binds a name is the first one to do so on the way outwards from the current
scope. The name is read there, and it can only be changed or removed there.

All this rests on what operations on scopes keep up (`Reached.sound`): parents are older than the
scopes inside them, and the constants of a frame are bound in it.
-/

namespace Spellbook

open List

/-! ## Frames -/

namespace Frame

/-- Every constant of the frame is bound in it. -/
def Sound (frame : Frame) : Prop :=
  ∀ name, frame.holdsConstant name = true → frame.binds name = true

theorem sound_empty : Sound {} := by
  intro name held
  cases held

namespace Sound

variable {frame : Frame} {name : String} (sound : frame.Sound)

include sound

theorem free_of_unbound (unbound : frame.binds name = false) :
    frame.holdsConstant name = false := by
  rw [Bool.eq_false_iff]
  intro held
  exact Bool.false_ne_true (unbound.symm.trans (sound name held))

theorem define (name : String) (value : Value) (constant : Bool) :
    (frame.define name value constant).Sound := by
  intro other held
  rw [binds, get?_define]
  split
  case isTrue => rfl
  case isFalse differ =>
    rcases holdsConstant_define held with ⟨same, -⟩ | old
    · exact absurd same differ
    · exact sound other old

theorem set (name : String) (value : Value) : (frame.set name value).Sound := by
  intro other held
  rw [holdsConstant, constants_set] at held
  rw [binds, get?_set]
  split
  case isTrue => rfl
  case isFalse => exact sound other held

theorem erase (free : frame.holdsConstant name = false) : (frame.erase name).Sound := by
  intro other held
  have differ : name ≠ other := by
    rintro rfl
    exact Bool.false_ne_true (free.symm.trans held)
  rw [binds, get?_erase, if_neg differ.symm]
  exact sound other held

end Sound

end Frame

/-! ## Chains -/

namespace Chain

variable {chain : Chain}

variable {name : String} {inner outer : Chain} {frame : Frame}

theorem get?_cons_of_bound (bound : frame.binds name = true) (outer : Chain) :
    get? (frame :: outer) name = frame.get? name := by
  obtain ⟨value, found⟩ := Option.isSome_iff_exists.mp bound
  rw [get?, found]

/-- Frames that do not bind a name are passed over. -/
theorem get?_append_of_unbound (unbound : ∀ frame ∈ inner, frame.binds name = false)
    (outer : Chain) : get? (inner ++ outer) name = get? outer name := by
  induction inner with
  | nil => rfl
  | cons frame inner ih =>
    obtain ⟨here, more⟩ := forall_mem_cons.mp unbound
    have missing : frame.get? name = none :=
      Option.isNone_iff_eq_none.mp (Option.isSome_eq_false_iff.mp here)
    rw [cons_append, get?, missing]
    exact ih more

theorem get?_of_unbound (unbound : ∀ frame ∈ chain, frame.binds name = false) :
    get? chain name = none := by
  have passed := get?_append_of_unbound unbound []
  rwa [append_nil] at passed

section Unmarked

variable (sound : ∀ frame ∈ inner, frame.Sound)
  (unbound : ∀ frame ∈ inner, frame.binds name = false)

include sound unbound

theorem isConstant_append_of_unbound (outer : Chain) :
    isConstant (inner ++ outer) name = isConstant outer name := by
  induction inner with
  | nil => rfl
  | cons frame inner ih =>
    obtain ⟨soundHere, soundFurther⟩ := forall_mem_cons.mp sound
    obtain ⟨here, more⟩ := forall_mem_cons.mp unbound
    rw [cons_append, isConstant, soundHere.free_of_unbound here, Bool.false_or,
      ih soundFurther more]

/--
A name is changed in the nearest frame that binds it, unless it is constant there, or further out
and the change comes from further in.
-/
theorem site_of_nearest (bound : frame.binds name = true) (outer : Chain) :
    site (inner ++ frame :: outer) name =
      if frame.holdsConstant name || !inner.isEmpty && isConstant outer name then
        .error .constant
      else .ok inner.length := by
  induction inner with
  | nil =>
    rw [nil_append, site, if_pos bound, isEmpty_nil, Bool.not_true, Bool.false_and, Bool.or_false]
    rfl
  | cons first inner ih =>
    obtain ⟨soundHere, soundFurther⟩ := forall_mem_cons.mp sound
    obtain ⟨here, more⟩ := forall_mem_cons.mp unbound
    rw [cons_append, site, soundHere.free_of_unbound here, here,
      isConstant_append_of_unbound soundFurther more, isConstant, ih soundFurther more,
      isEmpty_cons, Bool.not_false, Bool.true_and, if_neg Bool.false_ne_true,
      if_neg Bool.false_ne_true]
    -- What bars the name from `first` on also bars it further out, or nothing does.
    split
    case isTrue => rfl
    case isFalse free =>
      obtain ⟨freeHere, freeFurther⟩ := Bool.or_eq_false_iff.mp (Bool.eq_false_iff.mpr free)
      rw [freeHere, freeFurther, Bool.and_false, Bool.or_false, if_neg Bool.false_ne_true]
      rfl

end Unmarked

theorem site_of_unbound (sound : ∀ frame ∈ chain, frame.Sound)
    (unbound : ∀ frame ∈ chain, frame.binds name = false) :
    site chain name = .error .unbound := by
  induction chain with
  | nil => rfl
  | cons frame outer ih =>
    obtain ⟨soundHere, soundFurther⟩ := forall_mem_cons.mp sound
    obtain ⟨here, more⟩ := forall_mem_cons.mp unbound
    have plain : isConstant outer name = false := by
      have passed := isConstant_append_of_unbound soundFurther more []
      rwa [append_nil] at passed
    rw [site, soundHere.free_of_unbound here, here, plain, ih soundFurther more]
    rfl

end Chain

/-! ## Scopes -/

namespace Scopes

variable {pos : Nat} {scopes : Scopes} {change : Frame → Frame} {path : List Nat}

/-- The positions of a scope and of all the scopes around it, from parent to parent. -/
inductive Ancestry (scopes : Scopes) : (position : Nat) → (path : List Nat) → Prop where
  | outermost {position : Nat} (inside : position < scopes.all.size)
      (alone : scopes.parent? position = none) : Ancestry scopes position [position]
  | inside {position parent : Nat} {path : List Nat} (inside : position < scopes.all.size)
      (around : scopes.parent? position = some parent) (more : Ancestry scopes parent path) :
      Ancestry scopes position (position :: path)

/--
The nearest scope that binds a name, with the scopes between it and the current one and those around
it.
-/
structure Nearest (scopes : Scopes) (name : String) (inner : List Nat) (position : Nat)
    (outer : List Nat) : Prop where
  ancestry : scopes.Ancestry scopes.current (inner ++ position :: outer)
  unbound : ∀ other ∈ inner, (scopes.frame other).binds name = false
  bound : (scopes.frame position).binds name = true

/-- No scope around the current one, itself included, binds the name. -/
def Unbound (scopes : Scopes) (name : String) : Prop :=
  ∃ path, scopes.Ancestry scopes.current path ∧ ∀ pos ∈ path, (scopes.frame pos).binds name = false

/--
The name is constant in its nearest scope, or the current scope lies inside that one and the name is
constant further out.
-/
def Barred (scopes : Scopes) (name : String) (inner : List Nat) (pos : Nat)
    (outer : List Nat) : Prop :=
  (scopes.frame pos).holdsConstant name = true ∨
    inner ≠ [] ∧ ∃ other ∈ outer, (scopes.frame other).holdsConstant name = true

/-- Scopes that differ in what one name is bound to in one of them, and in nothing else. -/
structure DifferAt (position : Nat) (name : String) (value : Option Value)
    (before after : Scopes) : Prop where
  current_eq : after.current = before.current
  size_eq : after.all.size = before.all.size
  parent_eq : ∀ other, after.parent? other = before.parent? other
  frame_eq : ∀ other, other ≠ position → after.frame other = before.frame other
  constants_eq : (after.frame position).constants = (before.frame position).constants
  get?_eq : ∀ other, (after.frame position).get? other =
    if other = name then value else (before.frame position).get? other

/-- Scopes in which parents are older than what is inside them, and all constants are bound. -/
structure Sound (scopes : Scopes) : Prop where
  current_lt : scopes.current < scopes.all.size
  parent_lt : ∀ position parent, scopes.parent? position = some parent → parent < position
  frames : ∀ position, (scopes.frame position).Sound

/--
Scopes that operations make: entering a new scope inside any other, going on in any scope (such as
the one around the current one), and defining, changing and removing names in the current one.
-/
inductive Reached : Scopes → Prop where
  | start : Reached {}
  | enter {scopes : Scopes} (reached : Reached scopes) {parent : Nat}
      (inside : parent < scopes.all.size) :
      Reached { scopes.push parent {} with current := scopes.all.size }
  | turn {scopes : Scopes} (reached : Reached scopes) {position : Nat}
      (inside : position < scopes.all.size) : Reached { scopes with current := position }
  | define {scopes : Scopes} (reached : Reached scopes) (name : String) (value : Value)
      (constant : Bool) : Reached (scopes.define name value constant)
  | assign {scopes after : Scopes} (reached : Reached scopes) {name : String} {value : Value}
      (done : scopes.assign name value = .ok after) : Reached after
  | delete {scopes after : Scopes} (reached : Reached scopes) {name : String}
      (done : scopes.delete name = .ok after) : Reached after

/-! ### Sound scopes -/

theorem eq_ok_of_map {site : Except Refusal Nat} {update : Nat → Scopes} {after : Scopes}
    (done : site.map update = .ok after) :
    ∃ pos, site = .ok pos ∧ update pos = after := by
  cases site with
  | error refusal => cases done
  | ok pos =>
    cases done
    exact ⟨pos, rfl, rfl⟩

theorem frame_modifyFrame_of_ne (scopes : Scopes) {other : Nat} (change : Frame → Frame)
    (differ : other ≠ pos) :
    (scopes.modifyFrame pos change).frame other = scopes.frame other := by
  rw [frame, modifyFrame, Array.getElem?_modify, if_neg differ.symm, frame]

theorem frame_of_size_le (outside : scopes.all.size ≤ pos) : scopes.frame pos = {} := by
  rw [frame, Array.getElem?_eq_none outside]
  rfl

namespace Sound

variable {scopes : Scopes} (sound : scopes.Sound)

include sound

theorem modifyFrame (kept : (change (scopes.frame pos)).Sound) :
    (scopes.modifyFrame pos change).Sound where
  current_lt := Nat.lt_of_lt_of_eq sound.current_lt (Array.size_modify ..).symm
  parent_lt other parent around := by
    rw [parent?_modifyFrame] at around
    exact sound.parent_lt other parent around
  frames other := by
    by_cases inside : other < scopes.all.size
    · rw [frame_modifyFrame scopes pos other change inside]
      split
      case isTrue same =>
        subst same
        exact kept
      case isFalse => exact sound.frames other
    · have outside : (scopes.modifyFrame pos change).all.size ≤ other :=
        Nat.le_trans (Nat.le_of_eq (Array.size_modify ..)) (Nat.not_lt.mp inside)
      rw [frame_of_size_le outside]
      exact Frame.sound_empty

theorem enter {parent : Nat} (inside : parent < scopes.all.size) :
    Sound { scopes.push parent {} with current := scopes.all.size } where
  current_lt := Nat.lt_of_lt_of_eq (Nat.lt_succ_self _) (Array.size_push ..).symm
  parent_lt pos outer around := by
    change (scopes.push parent {}).parent? pos = some outer at around
    rw [parent?, push, Array.getElem?_push] at around
    split at around
    case isTrue newest =>
      cases around
      exact newest ▸ inside
    case isFalse => exact sound.parent_lt pos outer around
  frames pos := by
    change ((scopes.push parent {}).frame pos).Sound
    rw [frame, push, Array.getElem?_push]
    split
    case isTrue => exact Frame.sound_empty
    case isFalse => exact sound.frames pos

end Sound

/-- Every operation keeps scopes sound. -/
theorem Reached.sound (reached : Reached scopes) : scopes.Sound := by
  induction reached with
  | start =>
    refine ⟨Nat.one_pos, ?_, ?_⟩
    · intro pos parent around
      cases pos <;> cases around
    · intro pos
      cases pos <;> exact Frame.sound_empty
  | enter _ inside sound => exact sound.enter inside
  | turn _ inside sound => exact ⟨inside, sound.parent_lt, sound.frames⟩
  | define _ name value constant sound =>
    exact sound.modifyFrame ((sound.frames _).define name value constant)
  | assign _ done sound =>
    obtain ⟨pos, -, rfl⟩ := eq_ok_of_map done
    exact sound.modifyFrame ((sound.frames pos).set _ _)
  | delete _ done sound =>
    obtain ⟨pos, found, rfl⟩ := eq_ok_of_map done
    exact sound.modifyFrame ((sound.frames pos).erase (frame_of_site found).2)

/-! ### The way outwards -/

section Ways

variable {scopes : Scopes}

/-- The way outwards is found with a budget that suffices for its length. -/
theorem Ancestry.path_eq (ancestry : scopes.Ancestry pos path) {budget : Nat}
    (enough : path.length ≤ budget) :
    scopes.path budget pos = path := by
  induction ancestry generalizing budget with
  | @outermost pos inside alone =>
    cases budget with
    | zero => cases enough
    | succ budget =>
      rw [parent?, Array.getElem?_eq_getElem inside] at alone
      rw [Scopes.path, Array.getElem?_eq_getElem inside]
      change scopes.all[pos].parent = none at alone
      simp only [alone]
  | @inside pos parent path inside around _ ih =>
    cases budget with
    | zero => cases enough
    | succ budget =>
      rw [parent?, Array.getElem?_eq_getElem inside] at around
      rw [Scopes.path, Array.getElem?_eq_getElem inside]
      change scopes.all[pos].parent = some parent at around
      simp only [around, ih (Nat.le_of_succ_le_succ enough)]

theorem Ancestry.lt_size (ancestry : scopes.Ancestry pos path) :
    ∀ other ∈ path, other < scopes.all.size := by
  induction ancestry with
  | outermost inside => exact forall_mem_singleton.mpr inside
  | inside inside _ _ ih => exact forall_mem_cons.mpr ⟨inside, ih⟩

theorem Ancestry.modifyFrame (ancestry : scopes.Ancestry pos path) (site : Nat)
    (change : Frame → Frame) :
    (scopes.modifyFrame site change).Ancestry pos path := by
  have size_eq : (scopes.modifyFrame site change).all.size = scopes.all.size := Array.size_modify ..
  induction ancestry with
  | outermost inside alone =>
    exact .outermost (size_eq ▸ inside) ((parent?_modifyFrame ..).trans alone)
  | inside inside around _ ih =>
    exact .inside (size_eq ▸ inside) ((parent?_modifyFrame ..).trans around) ih

namespace Sound

variable (sound : scopes.Sound)

include sound

theorem ancestry_le (ancestry : scopes.Ancestry pos path) :
    ∀ other ∈ path, other ≤ pos := by
  induction ancestry with
  | outermost =>
    intro other mem
    exact Nat.le_of_eq (mem_singleton.mp mem)
  | @inside pos parent path _ around _ ih =>
    intro other mem
    rcases mem_cons.mp mem with rfl | more
    · exact Nat.le_refl _
    · exact Nat.le_trans (ih other more) (Nat.le_of_lt (sound.parent_lt pos parent around))

/-- On the way outwards no scope comes twice. -/
theorem ancestry_nodup (ancestry : scopes.Ancestry pos path) : path.Nodup := by
  induction ancestry with
  | outermost => exact pairwise_singleton _ _
  | @inside pos parent path _ around more ih =>
    refine nodup_cons.mpr ⟨?_, ih⟩
    intro mem
    exact Nat.not_le_of_lt (sound.parent_lt pos parent around) (sound.ancestry_le more pos mem)

theorem ancestry_length (ancestry : scopes.Ancestry pos path) :
    path.length ≤ pos + 1 := by
  induction ancestry with
  | outermost => exact Nat.le_add_left _ _
  | @inside pos parent path _ around _ ih =>
    exact Nat.succ_le_succ (Nat.le_trans ih (sound.parent_lt pos parent around))

theorem exists_ancestry (inside : pos < scopes.all.size) :
    ∃ path, scopes.Ancestry pos path := by
  induction pos using Nat.strongRecOn with
  | ind pos ih =>
    cases around : scopes.parent? pos with
    | none => exact ⟨_, .outermost inside around⟩
    | some parent =>
      have older := sound.parent_lt pos parent around
      obtain ⟨path, more⟩ := ih parent older (Nat.lt_trans older inside)
      exact ⟨_, .inside inside around more⟩

theorem currentPath_eq (ancestry : scopes.Ancestry scopes.current path) :
    scopes.currentPath = path :=
  ancestry.path_eq (Nat.le_trans (sound.ancestry_length ancestry) sound.current_lt)

end Sound

end Ways

/-! ### The nearest scope -/

section AtNearest

variable {name : String}

variable {scopes : Scopes} {name : String}

theorem exists_nearest_of_path (mem : pos ∈ path) (bound : (scopes.frame pos).binds name = true) :
    ∃ inner nearest outer, path = inner ++ nearest :: outer ∧
      (∀ other ∈ inner, (scopes.frame other).binds name = false) ∧
        (scopes.frame nearest).binds name = true := by
  induction path with
  | nil => cases mem
  | cons first path ih =>
    by_cases here : (scopes.frame first).binds name = true
    · exact ⟨[], first, path, rfl, fun _ none => absurd none not_mem_nil, here⟩
    · rcases mem_cons.mp mem with rfl | more
      · exact absurd bound here
      · obtain ⟨inner, nearest, outer, rfl, unbound, found⟩ := ih more
        exact ⟨first :: inner, nearest, outer, rfl,
          forall_mem_cons.mpr ⟨Bool.eq_false_iff.mpr here, unbound⟩, found⟩

variable (sound : scopes.Sound)

include sound

/-- A name has a nearest scope, or no scope binds it. -/
theorem Sound.nearest_or_unbound (name : String) :
    (∃ inner pos outer, scopes.Nearest name inner pos outer) ∨ scopes.Unbound name := by
  obtain ⟨path, ancestry⟩ := sound.exists_ancestry sound.current_lt
  by_cases found : ∃ pos ∈ path, (scopes.frame pos).binds name = true
  · obtain ⟨pos, mem, bound⟩ := found
    rcases exists_nearest_of_path mem bound with
      ⟨inner, nearest, outer, rfl, unbound, here⟩
    exact Or.inl ⟨inner, nearest, outer, ancestry, unbound, here⟩
  · refine Or.inr ⟨path, ancestry, fun pos mem => Bool.eq_false_iff.mpr fun bound => ?_⟩
    exact found ⟨pos, mem, bound⟩

theorem Unbound.site_eq (unbound : scopes.Unbound name) :
    scopes.site name = .error .unbound := by
  obtain ⟨path, ancestry, none⟩ := unbound
  have refused : Chain.site scopes.chain name = .error .unbound := by
    rw [chain, sound.currentPath_eq ancestry]
    exact Chain.site_of_unbound (forall_mem_map.mpr fun pos _ => sound.frames pos)
      (forall_mem_map.mpr none)
  rw [site, refused]

theorem Unbound.get?_eq (unbound : scopes.Unbound name) : scopes.get? name = none := by
  obtain ⟨path, ancestry, none⟩ := unbound
  rw [get?, chain, sound.currentPath_eq ancestry]
  exact Chain.get?_of_unbound (forall_mem_map.mpr none)

namespace Nearest

variable {inner outer : List Nat} {pos : Nat} (nearest : scopes.Nearest name inner pos outer)

include nearest

theorem chain_eq :
    scopes.chain = inner.map scopes.frame ++ scopes.frame pos :: outer.map scopes.frame := by
  rw [chain, sound.currentPath_eq nearest.ancestry, map_append, map_cons]

/-- A name is read in its nearest scope. -/
theorem get?_eq : scopes.get? name = (scopes.frame pos).get? name := by
  rw [get?, nearest.chain_eq sound,
    Chain.get?_append_of_unbound (forall_mem_map.mpr nearest.unbound),
    Chain.get?_cons_of_bound nearest.bound]

theorem chainSite_eq :
    Chain.site scopes.chain name =
      if (scopes.frame pos).holdsConstant name ||
          !inner.isEmpty && Chain.isConstant (outer.map scopes.frame) name then
        .error .constant
      else .ok inner.length := by
  have located := Chain.site_of_nearest
    (forall_mem_map.mpr fun other (_ : other ∈ inner) => sound.frames other)
    (forall_mem_map.mpr nearest.unbound) nearest.bound (outer.map scopes.frame)
  rwa [isEmpty_map, length_map, ← nearest.chain_eq sound] at located

omit sound nearest in
theorem barred_iff :
    scopes.Barred name inner pos outer ↔
      ((scopes.frame pos).holdsConstant name ||
        !inner.isEmpty && Chain.isConstant (outer.map scopes.frame) name) = true := by
  have more : Chain.isConstant (outer.map scopes.frame) name = true ↔
      ∃ other ∈ outer, (scopes.frame other).holdsConstant name = true := by
    induction outer with
    | nil => simp [Chain.isConstant]
    | cons first outer ih => simp [Chain.isConstant, ih]
  simp [Barred, more]

theorem site_of_barred (barred : scopes.Barred name inner pos outer) :
    scopes.site name = .error .constant := by
  rw [site, nearest.chainSite_eq sound, if_pos (barred_iff.mp barred)]

theorem site_of_free (free : ¬scopes.Barred name inner pos outer) :
    scopes.site name = .ok pos := by
  have found : scopes.currentPath.getD inner.length 0 = pos := by
    rw [sound.currentPath_eq nearest.ancestry, getD_eq_getElem?_getD,
      List.getElem?_append_right (Nat.le_refl _), Nat.sub_self]
    rfl
  rw [site, nearest.chainSite_eq sound, if_neg (mt barred_iff.mpr free), ← found]

/-- The name is refused as a constant exactly if it is barred. -/
theorem site_eq_constant_iff :
    scopes.site name = .error .constant ↔ scopes.Barred name inner pos outer := by
  refine ⟨fun refused => Classical.byContradiction fun free => ?_, nearest.site_of_barred sound⟩
  cases refused.symm.trans (nearest.site_of_free sound free)

omit sound in
theorem lt_size : pos < scopes.all.size :=
  nearest.ancestry.lt_size pos (mem_append_right _ mem_cons_self)

/-- What a change of the nearest frame does to the chain. -/
theorem chain_modifyFrame (change : Frame → Frame) :
    (scopes.modifyFrame pos change).chain =
      inner.map scopes.frame ++ change (scopes.frame pos) :: outer.map scopes.frame := by
  have path_eq : (scopes.modifyFrame pos change).currentPath = inner ++ pos :: outer := by
    apply (nearest.ancestry.modifyFrame pos change).path_eq
    rw [modifyFrame, Array.size_modify]
    exact Nat.le_trans (sound.ancestry_length nearest.ancestry) sound.current_lt
  have changed : (scopes.modifyFrame pos change).frame pos =
      change (scopes.frame pos) := by
    rw [frame_modifyFrame scopes pos pos change nearest.lt_size, if_pos rfl]
  -- No scope comes twice on the way, so the others on it keep their frames.
  obtain ⟨-, nodup, apart⟩ := nodup_append.mp (sound.ancestry_nodup nearest.ancestry)
  have kept (others : List Nat) (differ : ∀ other ∈ others, other ≠ pos) :
      others.map (scopes.modifyFrame pos change).frame = others.map scopes.frame :=
    map_congr_left fun other mem =>
      frame_modifyFrame_of_ne scopes change (differ other mem)
  rw [chain, path_eq, map_append, map_cons, changed, kept inner, kept outer]
  · rintro other mem rfl
    exact (nodup_cons.mp nodup).1 mem
  · intro other mem
    exact apart other mem pos mem_cons_self

theorem get?_set (value : Value) :
    (scopes.modifyFrame pos fun frame => frame.set name value).get? name = some value := by
  have found : ((scopes.frame pos).set name value).get? name = some value := by
    rw [Frame.get?_set, if_pos rfl]
  have bound : ((scopes.frame pos).set name value).binds name = true := by
    rw [Frame.binds, found]
    rfl
  rw [get?, nearest.chain_modifyFrame sound,
    Chain.get?_append_of_unbound (forall_mem_map.mpr nearest.unbound),
    Chain.get?_cons_of_bound bound, found]

/-- After its removal from its nearest scope, a name has the value that scopes around give it. -/
theorem get?_erase :
    (scopes.modifyFrame pos fun frame => frame.erase name).get? name =
      Chain.get? (outer.map scopes.frame) name := by
  have gone : ((scopes.frame pos).erase name).binds name = false := by
    rw [Frame.binds, Frame.get?_erase, if_pos rfl]
    rfl
  rw [get?, nearest.chain_modifyFrame sound,
    Chain.get?_append_of_unbound (forall_mem_map.mpr nearest.unbound)]
  exact Chain.get?_append_of_unbound (forall_mem_singleton.mpr gone) _

omit sound in
/-- A change of the nearest frame at one name makes a difference there only. -/
theorem differAt_modifyFrame {value : Option Value}
    (sameConstants : (change (scopes.frame pos)).constants = (scopes.frame pos).constants)
    (changes : ∀ other, (change (scopes.frame pos)).get? other =
      if other = name then value else (scopes.frame pos).get? other) :
    DifferAt pos name value scopes (scopes.modifyFrame pos change) where
  current_eq := rfl
  size_eq := Array.size_modify ..
  parent_eq other := parent?_modifyFrame ..
  frame_eq other differ := frame_modifyFrame_of_ne scopes _ differ
  constants_eq := by
    rw [frame_modifyFrame _ _ _ _ nearest.lt_size, if_pos rfl, sameConstants]
  get?_eq other := by
    rw [frame_modifyFrame _ _ _ _ nearest.lt_size, if_pos rfl, changes]

omit sound in
theorem differAt_set (value : Value) :
    DifferAt pos name (some value) scopes
      (scopes.modifyFrame pos fun frame => frame.set name value) :=
  nearest.differAt_modifyFrame (Frame.constants_set ..) fun _ => Frame.get?_set ..

omit sound in
theorem differAt_erase :
    DifferAt pos name none scopes (scopes.modifyFrame pos fun frame => frame.erase name) :=
  nearest.differAt_modifyFrame rfl fun _ => Frame.get?_erase ..

end Nearest

theorem Sound.site_cases (name : String) :
    (scopes.Unbound name ∧ scopes.site name = .error .unbound) ∨
      ∃ inner pos outer, scopes.Nearest name inner pos outer ∧
        (scopes.site name = .error .constant ∨ scopes.site name = .ok pos) := by
  rcases sound.nearest_or_unbound name with ⟨inner, pos, outer, nearest⟩ | unbound
  · refine Or.inr ⟨inner, pos, outer, nearest, ?_⟩
    by_cases barred : scopes.Barred name inner pos outer
    · exact Or.inl (nearest.site_of_barred sound barred)
    · exact Or.inr (nearest.site_of_free sound barred)
  · exact Or.inl ⟨unbound, unbound.site_eq sound⟩

theorem Sound.site_eq_unbound_iff : scopes.site name = .error .unbound ↔ scopes.Unbound name := by
  refine ⟨fun refused => ?_, fun unbound => unbound.site_eq sound⟩
  rcases sound.site_cases name with
    ⟨unbound, -⟩ | ⟨inner, pos, outer, nearest, barred | found⟩
  · exact unbound
  · cases refused.symm.trans barred
  · cases refused.symm.trans found

/-- The scope in which a name is changed is its nearest one. -/
theorem Sound.nearest_of_site (found : scopes.site name = .ok pos) :
    ∃ inner outer, scopes.Nearest name inner pos outer := by
  rcases sound.site_cases name with
    ⟨-, refused⟩ | ⟨inner, site, outer, nearest, barred | here⟩
  · cases found.symm.trans refused
  · cases found.symm.trans barred
  · cases found.symm.trans here
    exact ⟨inner, outer, nearest⟩

theorem Sound.get?_eq_none_iff : scopes.get? name = none ↔ scopes.Unbound name := by
  refine ⟨fun missing => ?_, fun unbound => unbound.get?_eq sound⟩
  rcases sound.nearest_or_unbound name with ⟨inner, pos, outer, nearest⟩ | unbound
  · have bound := nearest.bound
    rw [Frame.binds, ← nearest.get?_eq sound, missing] at bound
    cases bound
  · exact unbound

end AtNearest

end Scopes

end Spellbook

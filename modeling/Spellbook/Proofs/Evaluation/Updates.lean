import Spellbook.Proofs.Evaluation.Nearest

/-!
# Changing and removing names

A change or a removal of a name takes place in the nearest scope that binds it and touches nothing
else. It is refused if the name is a constant there. From a scope inside that one the name is also
barred if it is constant anywhere further out, though the nearest scope may hide that constant
behind a variable.
-/

namespace Spellbook

/-! ## Errors of refusals -/

def Refusal.errorClass : Refusal → ErrorClass
  | unbound => .unknownIncantation
  | constant => .prophecyViolation

namespace Refusal

theorem errorClass_assignmentCause (refusal : Refusal) (name : String) :
    (refusal.assignmentCause name).errorClass = refusal.errorClass := by
  cases refusal <;> rfl

theorem errorClass_deletionCause (refusal : Refusal) (name : String) :
    (refusal.deletionCause name).errorClass = refusal.errorClass := by
  cases refusal <;> rfl

theorem errorClass_inj {refusal other : Refusal} :
    refusal.errorClass = other.errorClass ↔ refusal = other := by
  cases refusal <;> cases other <;> decide

end Refusal

namespace Eval

/-- Evaluation ends in an error of a class. -/
def Raises {α : Type} (body : Eval α) (errorClass : ErrorClass) (machine : Machine) : Prop :=
  ∃ failure after, body machine = .error (.trouble (.error failure)) after ∧
    failure.cause.errorClass = errorClass

section Raising

variable {α : Type} {body : Eval α} {machine after : Machine}

theorem not_raises_of_ok {res : α} (ended : body machine = .ok res after)
    (errorClass : ErrorClass) : ¬Raises body errorClass machine := by
  rintro ⟨failure, left, raised, -⟩
  cases ended.symm.trans raised

theorem raises_iff_of_error {cause : Cause} {place : Place}
    (ended : body machine = .error (.trouble (.caused cause place)) after)
    (errorClass : ErrorClass) :
    Raises body errorClass machine ↔ cause.errorClass = errorClass := by
  constructor
  · rintro ⟨failure, left, raised, same⟩
    cases ended.symm.trans raised
    exact same
  · intro same
    exact ⟨_, after, ended, same⟩

end Raising

/-! ## What an alteration does -/

section Altering

variable {machine : Machine} {name : String} {update : Frame → Frame}
  {cause : Refusal → String → Cause} {place : Place}

/-- An alteration raises the class of a refusal exactly if it is refused so. -/
theorem raises_alter_iff (told : ∀ refusal, (cause refusal name).errorClass = refusal.errorClass)
    (refusal : Refusal) :
    Raises (alter name update cause place) refusal.errorClass machine ↔
      machine.scopes.site name = .error refusal := by
  cases found : machine.scopes.site name with
  | ok pos =>
    simp only [reduceCtorEq, iff_false]
    exact not_raises_of_ok (alter_of_site found update cause place) _
  | error other =>
    rw [raises_iff_of_error (alter_of_refusal found update cause place), told,
      Refusal.errorClass_inj, Except.error.injEq]

theorem raises_assign_iff (refusal : Refusal) (value : Value) (place : Place) :
    Raises (assign name value place) refusal.errorClass machine ↔
      machine.scopes.site name = .error refusal :=
  raises_alter_iff (fun refusal => refusal.errorClass_assignmentCause name) refusal

theorem raises_delete_iff (refusal : Refusal) (place : Place) :
    Raises (delete name place) refusal.errorClass machine ↔
      machine.scopes.site name = .error refusal :=
  raises_alter_iff (fun refusal => refusal.errorClass_deletionCause name) refusal

/-- A name is unknown to reading exactly if it has no value. -/
theorem raises_lookUp_iff (place : Place) :
    Raises (lookUp name place) .unknownIncantation machine ↔ machine.scopes.get? name = none := by
  cases found : machine.scopes.get? name with
  | some value =>
    have ended : lookUp name place machine = .ok value machine := by
      simp only [lookUp, get_bind, found]
      rfl
    simp only [reduceCtorEq, iff_false]
    exact not_raises_of_ok ended _
  | none =>
    have ended : lookUp name place machine =
        .error (.trouble (.caused (.undefined name) place)) machine := by
      simp only [lookUp, get_bind, found]
      rfl
    exact iff_of_true ((raises_iff_of_error ended _).mpr rfl) rfl

theorem alter_eq_ok {after : Machine}
    (done : alter name update cause place machine = .ok () after) :
    ∃ pos, machine.scopes.site name = .ok pos ∧
      after = { machine with scopes := machine.scopes.modifyFrame pos update } := by
  cases found : machine.scopes.site name with
  | ok pos =>
    cases (alter_of_site found update cause place).symm.trans done
    exact ⟨pos, rfl, rfl⟩
  | error refusal => cases (alter_of_refusal found update cause place).symm.trans done

theorem eq_of_alter_error {halt : Halt} {after : Machine}
    (refused : alter name update cause place machine = .error halt after) : after = machine := by
  cases found : machine.scopes.site name with
  | ok pos => cases (alter_of_site found update cause place).symm.trans refused
  | error refusal =>
    cases (alter_of_refusal found update cause place).symm.trans refused
    rfl

end Altering

/-! ## Changes and removals -/

/--
A name that some scope binds is read in the nearest such scope.  Its change and its removal raise a
violation exactly if it is constant in that scope, or is so further out and the current scope lies
inside the nearest one; otherwise they take place in that scope.
-/
theorem change_raises_iff_barred {machine : Machine} (reached : machine.scopes.Reached)
    {name : String} {inner outer : List Nat} {pos : Nat}
    (nearest : machine.scopes.Nearest name inner pos outer) (value : Value) (place : Place) :
    machine.scopes.get? name = (machine.scopes.frame pos).get? name ∧
      (Raises (assign name value place) .prophecyViolation machine ↔
        machine.scopes.Barred name inner pos outer) ∧
      (Raises (delete name place) .prophecyViolation machine ↔
        machine.scopes.Barred name inner pos outer) ∧
      (¬machine.scopes.Barred name inner pos outer →
        assign name value place machine =
            .ok () { machine with
              scopes := machine.scopes.modifyFrame pos fun frame => frame.set name value } ∧
          delete name place machine =
            .ok () { machine with
              scopes := machine.scopes.modifyFrame pos fun frame => frame.erase name }) := by
  have sound := reached.sound
  have refused_iff := nearest.site_eq_constant_iff sound
  refine ⟨nearest.get?_eq sound, ?_, ?_, fun free => ?_⟩
  · exact (raises_assign_iff .constant value place).trans refused_iff
  · exact (raises_delete_iff .constant place).trans refused_iff
  · have found := nearest.site_of_free sound free
    exact ⟨alter_of_site found _ Refusal.assignmentCause place,
      alter_of_site found _ Refusal.deletionCause place⟩

/-- A constant, a variable that hides it in a scope inside its own, and a scope inside that one. -/
def hidden : Scopes :=
  let outermost := ({} : Scopes).define "x" (.rune 1) true
  let middle := { outermost.push 0 {} with current := 1 }.define "x" (.rune 2) false
  { middle.push 1 {} with current := 2 }

theorem reached_hidden : hidden.Reached := by
  have outermost : (({} : Scopes).define "x" (.rune 1) true).Reached := .define .start _ _ _
  have middle := Scopes.Reached.define (.enter outermost (show 0 < _ by decide)) "x" (.rune 2) false
  exact .enter middle (show 1 < _ by decide)

theorem nearest_hidden : hidden.Nearest "x" [2] 1 [0] where
  ancestry := .inside (by decide) rfl (.inside (by decide) rfl (.outermost (by decide) rfl))
  unbound := List.forall_mem_singleton.mpr rfl
  bound := rfl

theorem change_raises_iff_barred_fromInside :
    hidden.Reached ∧ hidden.Nearest "x" [2] 1 [0] ∧ hidden.Barred "x" [2] 1 [0] ∧
      Raises (assign "x" (.rune 3) .unknown) .prophecyViolation { scopes := hidden } ∧
      Raises (delete "x" .unknown) .prophecyViolation { scopes := hidden } := by
  have barred : hidden.Barred "x" [2] 1 [0] :=
    Or.inr ⟨List.cons_ne_nil 2 [], 0, List.mem_singleton_self 0, rfl⟩
  have raised := @change_raises_iff_barred { scopes := hidden } reached_hidden _ _ _ _
    nearest_hidden (.rune 3) .unknown
  exact ⟨reached_hidden, nearest_hidden, barred, raised.2.1.mpr barred, raised.2.2.1.mpr barred⟩

/--
The variable that hides a constant is read, but from a scope inside its own it can be neither
changed nor removed, though it can from its own scope.
-/
theorem hidden_variable_refused :
    hidden.Reached ∧ hidden.Nearest "x" [2] 1 [0] ∧
      (hidden.frame 1).holdsConstant "x" = false ∧ hidden.get? "x" = some (.rune 2) ∧
      Raises (assign "x" (.rune 3) .unknown) .prophecyViolation { scopes := hidden } ∧
      Raises (delete "x" .unknown) .prophecyViolation { scopes := hidden } ∧
      ¬Raises (assign "x" (.rune 3) .unknown) .prophecyViolation
        { scopes := { hidden with current := 1 } } := by
  have refused : hidden.site "x" = .error .constant := rfl
  have found : { hidden with current := 1 }.site "x" = .ok 1 := rfl
  refine ⟨reached_hidden, nearest_hidden, rfl, rfl, ?_, ?_, ?_⟩
  · exact (raises_assign_iff .constant (.rune 3) .unknown).mpr refused
  · exact (raises_delete_iff .constant .unknown).mpr refused
  · intro raised
    cases found.symm.trans ((raises_assign_iff .constant (.rune 3) .unknown).mp raised)

/--
In all scopes that operations make, the constants of every frame are bound in it.  A change or a
removal that is refused leaves the machine as it is.  One that is carried out touches nothing but
the name in the nearest scope that binds it; afterwards the name has the new value, or the one that
the scopes around that scope give it.  Reading, changing and removing a name that no scope binds,
and no other, raise that it is unknown.
-/
theorem updates_stay_local {machine : Machine} (reached : machine.scopes.Reached) (name : String)
    (value : Value) (place : Place) :
    (∀ pos other, (machine.scopes.frame pos).holdsConstant other = true →
      (machine.scopes.frame pos).binds other = true) ∧
    (∀ halt after, assign name value place machine = .error halt after → after = machine) ∧
    (∀ halt after, delete name place machine = .error halt after → after = machine) ∧
    (∀ after, assign name value place machine = .ok () after →
      ∃ inner pos outer, machine.scopes.Nearest name inner pos outer ∧
        after = { machine with scopes := after.scopes } ∧
        Scopes.DifferAt pos name (some value) machine.scopes after.scopes ∧
        after.scopes.get? name = some value) ∧
    (∀ after, delete name place machine = .ok () after →
      ∃ inner pos outer, machine.scopes.Nearest name inner pos outer ∧
        after = { machine with scopes := after.scopes } ∧
        Scopes.DifferAt pos name none machine.scopes after.scopes ∧
        after.scopes.get? name = Chain.get? (outer.map machine.scopes.frame) name) ∧
    (Raises (lookUp name place) .unknownIncantation machine ↔ machine.scopes.Unbound name) ∧
    (Raises (assign name value place) .unknownIncantation machine ↔
      machine.scopes.Unbound name) ∧
    (Raises (delete name place) .unknownIncantation machine ↔ machine.scopes.Unbound name) := by
  have sound := reached.sound
  refine ⟨sound.frames, fun halt after => eq_of_alter_error, fun halt after => eq_of_alter_error,
    ?_, ?_, ?_, ?_, ?_⟩
  · intro after done
    obtain ⟨pos, found, rfl⟩ := alter_eq_ok done
    obtain ⟨inner, outer, nearest⟩ := sound.nearest_of_site found
    exact ⟨inner, pos, outer, nearest, rfl, nearest.differAt_set value,
      nearest.get?_set sound value⟩
  · intro after done
    obtain ⟨pos, found, rfl⟩ := alter_eq_ok done
    obtain ⟨inner, outer, nearest⟩ := sound.nearest_of_site found
    exact ⟨inner, pos, outer, nearest, rfl, nearest.differAt_erase, nearest.get?_erase sound⟩
  · exact (raises_lookUp_iff place).trans sound.get?_eq_none_iff
  · exact (raises_assign_iff .unbound value place).trans sound.site_eq_unbound_iff
  · exact (raises_delete_iff .unbound place).trans sound.site_eq_unbound_iff

theorem updates_stay_local_uncovering :
    { hidden with current := 1 }.Reached ∧
      ∃ after, delete "x" .unknown { scopes := { hidden with current := 1 } } = .ok () after ∧
        after.scopes.get? "x" = some (.rune 1) ∧
        ∃ inner pos outer, { hidden with current := 1 }.Nearest "x" inner pos outer ∧
          Scopes.DifferAt pos "x" none { hidden with current := 1 } after.scopes := by
  have reached : { hidden with current := 1 }.Reached := .turn reached_hidden (by decide)
  have removes := (@updates_stay_local { scopes := { hidden with current := 1 } } reached "x" .void
    .unknown).2.2.2.2.1
  obtain ⟨inner, pos, outer, nearest, -, differ, -⟩ := removes _ rfl
  exact ⟨reached, _, rfl, rfl, inner, pos, outer, nearest, differ⟩

end Eval

end Spellbook

import Spellbook.Builtin.Quest
import Spellbook.Proofs.World.Record

/-!
# Experience and levels

The numbers of a hero stand in the fields of a record.  As long as these are integers, whatever
their sizes and signs, experience is turned into levels by calculating with them
(`Stats.settled`), and the bound on the number of levels is never reached
(`gainExperience_writes`).
-/

namespace Spellbook.Quest

open Spellbook.Action

/-! ## Numbers of heroes -/

/-- The numbers of a hero. -/
structure Stats where
  level : Int
  experience : Int
  health : Int
  maxHealth : Int
  mana : Int
  maxMana : Int
  strength : Int
  agility : Int
  wisdom : Int
  vitality : Int

namespace Stats

/-- The names of the fields in which the numbers stand. -/
def names : List String :=
  ["level", "experience", "health", "max_health", "mana", "max_mana", "strength", "agility",
    "wisdom", "vitality"]

/-- The numbers stand in the fields of a record. -/
structure In (stats : Stats) (entries : Entries) : Prop where
  level : entries.field? "level" = some (.rune stats.level)
  experience : entries.field? "experience" = some (.rune stats.experience)
  health : entries.field? "health" = some (.rune stats.health)
  maxHealth : entries.field? "max_health" = some (.rune stats.maxHealth)
  mana : entries.field? "mana" = some (.rune stats.mana)
  maxMana : entries.field? "max_mana" = some (.rune stats.maxMana)
  strength : entries.field? "strength" = some (.rune stats.strength)
  agility : entries.field? "agility" = some (.rune stats.agility)
  wisdom : entries.field? "wisdom" = some (.rune stats.wisdom)
  vitality : entries.field? "vitality" = some (.rune stats.vitality)

/-- The numbers with more experience. -/
def learning (stats : Stats) (amount : Int) : Stats :=
  { stats with experience := stats.experience + amount }

theorem In.learning {stats : Stats} {entries : Entries} (standing : stats.In entries)
    (amount : Int) :
    (stats.learning amount).In
      (entries.writing "experience" (.rune (stats.learning amount).experience)) := by
  constructor <;> simp [Stats.learning, standing.level, standing.health, standing.maxHealth,
    standing.mana, standing.maxMana, standing.strength, standing.agility, standing.wisdom,
    standing.vitality]

/-- The numbers after one more level, which is paid for with experience. -/
def raised (stats : Stats) : Stats where
  level := stats.level + 1
  experience := stats.experience - stats.level * 100
  health := stats.maxHealth + 5
  maxHealth := stats.maxHealth + 5
  mana := stats.maxMana + 3
  maxMana := stats.maxMana + 3
  strength := stats.strength + 1
  agility := stats.agility + 1
  wisdom := stats.wisdom + 1
  vitality := stats.vitality + 1

def raising (stats : Stats) (entries : Entries) : Entries :=
  entries
    |>.writing "experience" (.rune stats.raised.experience)
    |>.writing "level" (.rune stats.raised.level)
    |>.writing "max_health" (.rune stats.raised.maxHealth)
    |>.writing "health" (.rune stats.raised.health)
    |>.writing "max_mana" (.rune stats.raised.maxMana)
    |>.writing "mana" (.rune stats.raised.mana)
    |>.writing "strength" (.rune stats.raised.strength)
    |>.writing "agility" (.rune stats.raised.agility)
    |>.writing "wisdom" (.rune stats.raised.wisdom)
    |>.writing "vitality" (.rune stats.raised.vitality)

theorem raised_in (stats : Stats) (entries : Entries) :
    stats.raised.In (stats.raising entries) := by
  constructor <;> simp [raising]

theorem field?_raising (stats : Stats) (entries : Entries) {name : String}
    (other : name ∉ names) : (stats.raising entries).field? name = entries.field? name := by
  simp only [names, List.mem_cons, List.not_mem_nil, or_false, not_or] at other
  simp [raising, eq_comm, other]

/-! ## How many levels are gained -/

/-- How many levels there are up to the first positive one. -/
def debt (stats : Stats) : Nat := (1 - stats.level).toNat

/--
At least the number of levels that are gained: those up to the first positive one, which add the
experience that the square stands for, and one for every hundred points.
-/
def ceiling (stats : Stats) : Nat :=
  stats.debt + (stats.experience.toNat + 50 * (stats.debt * (stats.debt - 1))) / 100

theorem ceiling_raised_lt {stats : Stats} (enough : stats.level * 100 ≤ stats.experience) :
    stats.raised.ceiling < stats.ceiling := by
  have level : stats.raised.level = stats.level + 1 := rfl
  have experience : stats.raised.experience = stats.experience - stats.level * 100 := rfl
  rcases Int.lt_or_le 0 stats.level with positive | owing
  · have none : stats.debt = 0 := by
      rw [debt]
      omega
    have none' : stats.raised.debt = 0 := by
      rw [debt, level]
      omega
    rw [ceiling, ceiling, none, none', experience]
    omega
  · obtain ⟨more, here⟩ : ∃ more, stats.debt = more + 1 := ⟨stats.debt - 1, by rw [debt]; omega⟩
    have less : stats.raised.debt = more := by
      rw [debt] at here ⊢
      rw [level]
      omega
    have square : (more + 1) * more = more * (more - 1) + 2 * more := by
      cases more with
      | zero => rfl
      | succ more =>
        rw [Nat.add_sub_cancel, Nat.succ_mul, Nat.mul_succ]
        omega
    rw [ceiling, ceiling, here, less, Nat.add_sub_cancel, square, experience]
    rw [debt] at here
    generalize more * (more - 1) = product
    omega

/-- The bound that is used is not reached. -/
theorem ceiling_lt_levelBudget (stats : Stats) :
    stats.ceiling < Builtin.levelBudget (.rune stats.level) (.rune stats.experience) := by
  have size : stats.debt ≤ stats.level.natAbs + 1 := by
    rw [debt]
    omega
  have square : stats.debt * (stats.debt - 1) ≤ Nat.pow (stats.level.natAbs + 1) 2 :=
    calc stats.debt * (stats.debt - 1)
      _ ≤ (stats.level.natAbs + 1) * (stats.level.natAbs + 1) :=
        Nat.mul_le_mul size (Nat.le_trans (Nat.sub_le _ _) size)
      _ = Nat.pow (stats.level.natAbs + 1) 2 := (Nat.pow_two _).symm
  change stats.ceiling < 2 + stats.level.natAbs +
    (stats.experience.natAbs + 100 * Nat.pow (stats.level.natAbs + 1) 2) / 100
  rw [ceiling]
  generalize Nat.pow (stats.level.natAbs + 1) 2 = bound at square ⊢
  generalize stats.debt * (stats.debt - 1) = product at square ⊢
  omega

/-! ## Gaining levels -/

/-- The numbers after all levels for which there is enough experience. -/
def settled (stats : Stats) : Stats :=
  if stats.level * 100 ≤ stats.experience then stats.raised.settled else stats
termination_by stats.ceiling
decreasing_by
  exact ceiling_raised_lt (by assumption)

def settling (stats : Stats) (entries : Entries) : Entries :=
  if stats.level * 100 ≤ stats.experience then stats.raised.settling (stats.raising entries)
  else entries
termination_by stats.ceiling
decreasing_by
  exact ceiling_raised_lt (by assumption)

theorem settled_in (stats : Stats) {entries : Entries} (standing : stats.In entries) :
    stats.settled.In (stats.settling entries) := by
  fun_induction settled generalizing entries with
  | case1 stats enough ih =>
    rw [settling, if_pos enough]
    exact ih (stats.raised_in entries)
  | case2 stats short =>
    rw [settling, if_neg short]
    exact standing

theorem field?_settling (stats : Stats) (entries : Entries) {name : String}
    (other : name ∉ names) : (stats.settling entries).field? name = entries.field? name := by
  fun_induction settling with
  | case1 stats entries enough ih => rw [ih, field?_raising stats entries other]
  | case2 stats entries short => rfl

/-- Whoever gains a level has full health, and more of it than before. -/
theorem settled_health (stats : Stats) :
    stats.settled.health = stats.health ∧ stats.settled.maxHealth = stats.maxHealth ∨
      stats.settled.health = stats.settled.maxHealth ∧
        stats.maxHealth < stats.settled.maxHealth := by
  fun_induction settled with
  | case1 stats enough ih =>
    have health : stats.raised.health = stats.maxHealth + 5 := rfl
    have maxHealth : stats.raised.maxHealth = stats.maxHealth + 5 := rfl
    omega
  | case2 stats short => exact .inl ⟨rfl, rfl⟩

end Stats

/-! ## What the builtin does -/

section Arithmetic

variable {ref : Nat} {entries : Entries}

theorem increase_writes {name : String} {num : Int} (amount : Int)
    (found : entries.field? name = some (.rune num)) :
    Writes ref entries (Builtin.increase ref name amount) ()
      (entries.writing name (.rune (num + amount))) := by
  refine .bind (.field found) ?_
  exact .bind (.pure (Quantity.whole (num + amount))) (.bind (.newQuantity _) (.put _ _))

theorem lessBy_writes (sign : String) (num amount : Int) :
    Writes ref entries (Builtin.lessBy sign (.rune num) (.rune amount))
      (.rune (num - amount)) entries :=
  .bind (.pure (Quantity.whole (num - amount))) (.newQuantity _)

theorem plusInteger_writes (num amount : Int) :
    Writes ref entries (Builtin.plusInteger (.rune num) amount) (.rune (num + amount)) entries :=
  .bind (.pure (Quantity.whole (num + amount))) (.newQuantity _)

theorem timesNumber_writes (num : Int) (count : Nat) :
    Writes ref entries (Builtin.timesNumber (.rune num) count) (.rune (num * count)) entries :=
  .bind (.pure (Quantity.whole (num * count))) (.newQuantity _)

end Arithmetic

section Levels

variable {ref : Nat} {entries : Entries} {stats : Stats}

theorem raiseLevel_writes (standing : stats.In entries) :
    Writes ref (entries.writing "experience" (.rune stats.raised.experience))
      (Builtin.raiseLevel ref) () (stats.raising entries) := by
  refine .bind (increase_writes 1 ?_) <| .bind (increase_writes 5 ?_) <|
    .bind (.field ?_) <| .bind (.put _ _) <| .bind (increase_writes 3 ?_) <|
    .bind (.field ?_) <| .bind (.put _ _) <| .bind (increase_writes 1 ?_) <|
    .bind (increase_writes 1 ?_) <| .bind (increase_writes 1 ?_) (increase_writes 1 ?_)
  all_goals simp [standing.level, standing.maxHealth, standing.maxMana, standing.strength,
    standing.agility, standing.wisdom, standing.vitality, Stats.raised]

theorem gainLevels_writes {fuel : Nat} (standing : stats.In entries)
    (room : stats.ceiling < fuel) :
    Writes ref entries (Builtin.gainLevels ref fuel) () (stats.settling entries) := by
  induction fuel generalizing stats entries with
  | zero => exact absurd room (Nat.not_lt_zero _)
  | succ fuel ih =>
    refine .bind (.field standing.level) <| .bind (timesNumber_writes _ _) <|
      .bind (.field standing.experience) <| .bind (.compare _ _ _) ?_
    rw [Stats.settling]
    by_cases enough : stats.level * 100 ≤ stats.experience
    · have affordable : Comparison.atLeast.holds stats.experience (stats.level * (100 : Nat)) =
          true :=
        decide_eq_true enough
      rw [if_pos enough, affordable]
      have further := ih (stats.raised_in entries)
        (Nat.lt_of_lt_of_le (Stats.ceiling_raised_lt enough) (Nat.le_of_lt_succ room))
      exact .bind (lessBy_writes _ _ _) <| .bind (.put _ _) <|
        .bind (raiseLevel_writes standing) further
    · have short : Comparison.atLeast.holds stats.experience (stats.level * (100 : Nat)) =
          false :=
        decide_eq_false enough
      rw [if_neg enough, short]
      exact .pure ()

theorem gainExperience_writes (standing : stats.In entries) (amount : Int) :
    Writes ref entries (Builtin.gainExperience [.grimoire ref, .rune amount]) (.grimoire ref)
      ((stats.learning amount).settling
        (entries.writing "experience" (.rune (stats.learning amount).experience))) := by
  have learned := standing.learning amount
  refine .bind (.integer amount) <| .bind (.field? _) ?_
  rw [standing.experience]
  exact .bind (increase_writes amount standing.experience) <| .bind (.field learned.level) <|
    .bind (.field learned.experience) <|
      .bind (gainLevels_writes learned (Stats.ceiling_lt_levelBudget _)) (.pure _)

end Levels

end Spellbook.Quest

import Spellbook.Proofs.Quest.Experience

/-!
# What experience comes to

Reaching a level from the one before costs a hundred points for each level already reached, so all
the points that a hero ever gained are told by the level and by what is left of them
(`Stats.Risen.conserved`).  It does not matter in how many parts they come, as long as no part takes
points away: the hero is the same in the end (`gainExperience_adds_up`).
-/

namespace Spellbook.Quest

open Spellbook.Action

namespace Stats

/-! ## What levels cost and bring -/

/-- The points that are used up when a hero stands on a level, counted from the first one. -/
def cost (level : Int) : Int := 50 * level * (level - 1)

theorem cost_succ (level : Int) : cost (level + 1) = cost level + level * 100 := by
  unfold cost
  grind

/-- How the numbers of a hero change who gains so much experience. -/
structure Risen (before : Stats) (amount : Int) (after : Stats) : Prop where
  level : before.level ≤ after.level
  short : after.experience < 100 * after.level
  conserved : after.experience + cost after.level = before.experience + amount + cost before.level
  maxHealth : after.maxHealth = before.maxHealth + 5 * (after.level - before.level)
  maxMana : after.maxMana = before.maxMana + 3 * (after.level - before.level)
  strength : after.strength = before.strength + (after.level - before.level)
  agility : after.agility = before.agility + (after.level - before.level)
  wisdom : after.wisdom = before.wisdom + (after.level - before.level)
  vitality : after.vitality = before.vitality + (after.level - before.level)
  restored : before.level < after.level →
    after.health = after.maxHealth ∧ after.mana = after.maxMana
  untouched : after.level = before.level → after.health = before.health ∧ after.mana = before.mana

/-- A level that is gained first is paid for and brings what a level brings. -/
theorem Risen.of_raised {before after : Stats} (risen : Risen before.raised 0 after) :
    Risen before 0 after := by
  obtain ⟨level, short, conserved, maxHealth, maxMana, strength, agility, wisdom, vitality,
    restored, untouched⟩ := risen
  simp only [raised, cost_succ] at *
  constructor <;> omega

theorem settled_risen (stats : Stats) : Risen stats 0 stats.settled := by
  fun_induction settled with
  | case1 stats enough ih => exact ih.of_raised
  | case2 stats short => constructor <;> omega

theorem settled_learning_risen (stats : Stats) (amount : Int) :
    Risen stats amount (stats.learning amount).settled := by
  have risen := (stats.learning amount).settled_risen
  have conserved := risen.conserved
  rw [Int.add_zero] at conserved
  exact { risen with conserved }

/-! ## Experience in parts -/

theorem learning_learning (stats : Stats) (amount more : Int) :
    (stats.learning amount).learning more = stats.learning (amount + more) := by
  rw [learning, learning, learning, Int.add_assoc]

/-- A level is gained before or after more experience comes. -/
theorem raised_learning (stats : Stats) (more : Int) :
    (stats.learning more).raised = stats.raised.learning more := by
  simp only [raised, learning, Stats.mk.injEq, true_and, and_true]
  omega

/-- The record, too, is the same whether a level is gained before or after. -/
theorem raising_learning (stats : Stats) (entries : Entries) (more : Int) (value : Value) :
    (stats.learning more).raising (entries.writing "experience" value) =
      (stats.raising entries).writing "experience"
        (.rune (stats.raised.learning more).experience) := by
  have inward (entries : Entries) {other : String} (value otherValue : Value)
      (there : (entries.field? "experience").isSome = true) (unlike : "experience" ≠ other) :
      (entries.writing other otherValue).writing "experience" value =
        (entries.writing "experience" value).writing other otherValue :=
    (Entries.put_comm unlike there value otherValue).symm
  unfold raising
  rw [raised_learning]
  simp (disch := simp) only [inward, Entries.writing_writing_self]
  rfl

variable {stats : Stats} {more : Int}

/-- The record of a hero who gains experience in two parts is that of one who gains it at once. -/
theorem settling_learning {entries : Entries} (gained : 0 ≤ more) :
    (stats.settled.learning more).settling
        ((stats.settling entries).writing "experience"
          (.rune (stats.settled.learning more).experience)) =
      (stats.learning more).settling
        (entries.writing "experience" (.rune (stats.learning more).experience)) := by
  fun_induction settled generalizing entries with
  | case1 stats enough ih =>
    have still : (stats.learning more).level * 100 ≤ (stats.learning more).experience :=
      Int.le_trans enough (Int.le_add_of_nonneg_right gained)
    rw [settling.eq_def stats, if_pos enough, ih, settling.eq_def (stats.learning more),
      if_pos still, raised_learning, raising_learning]
  | case2 stats short => rw [settling.eq_def stats, if_neg short]

end Stats

/-! ## What the builtin does to a hero -/

/--
A hero whose numbers are integers, of whatever size and sign, gains experience.  The call returns
the hero.  The level has not fallen, less experience is left than the next level costs, and level
and experience together account for all that was there and all that came; every level has brought
its gifts, and nothing else of the record has changed.  If more experience follows, the outcome is
the one of a single call with both amounts.
-/
theorem gainExperience_adds_up {world : World} {ref : Nat} {stats : Stats}
    (present : world.HasRecord ref) (standing : stats.In (world.record ref))
    (amount : Int) :
    ∃ later after,
      Builtin.gainExperience [.grimoire ref, .rune amount] world =
          .ok (.grimoire ref) (world.rewriting ref later) ∧
        after.In later ∧ stats.Risen amount after ∧
          (∀ name ∉ Stats.names, later.field? name = (world.record ref).field? name) ∧
            ∀ more ≥ 0,
              Builtin.gainExperience [.grimoire ref, .rune more]
                  (world.rewriting ref later) =
                Builtin.gainExperience [.grimoire ref, .rune (amount + more)] world := by
  have learned := standing.learning amount
  have settled := (stats.learning amount).settled_in learned
  refine ⟨_, _, (gainExperience_writes standing amount).ended present rfl, settled,
    stats.settled_learning_risen amount, fun name other => ?_, fun more gained => ?_⟩
  · have unlike : "experience" ≠ name := by
      rintro rfl
      exact other (by decide)
    rw [Stats.field?_settling _ _ other, Entries.field?_writing, if_neg unlike]
  · rw [(gainExperience_writes settled more).ended (World.hasRecord_rewriting present ref)
        (World.record_rewriting present),
      (gainExperience_writes standing (amount + more)).ended present rfl,
      World.rewriting_rewriting, Stats.settling_learning gained, Entries.writing_writing_self,
      Stats.learning_learning]

/-- The numbers of a hero whose level is below zero. -/
def outcast : Stats where
  level := -2
  experience := 30
  health := 5
  maxHealth := 80
  mana := 0
  maxMana := 40
  strength := 9
  agility := 9
  wisdom := 8
  vitality := 8

/-- A world with that hero, who also has a name. -/
def wilderness : World where
  store :=
    { grimoires := #[#[(.scroll "name", .scroll "Nobody"), (.scroll "level", .rune (-2)),
        (.scroll "experience", .rune 30), (.scroll "health", .rune 5),
        (.scroll "max_health", .rune 80), (.scroll "mana", .rune 0), (.scroll "max_mana", .rune 40),
        (.scroll "strength", .rune 9), (.scroll "agility", .rune 9), (.scroll "wisdom", .rune 8),
        (.scroll "vitality", .rune 8)]] }

theorem gainExperience_adds_up_wilderness :
    wilderness.HasRecord 0 ∧ outcast.In (wilderness.record 0) ∧
      ∃ later after,
        Builtin.gainExperience [.grimoire 0, .rune (-45)] wilderness =
            .ok (.grimoire 0) (wilderness.rewriting 0 later) ∧
          after.In later ∧ outcast.Risen (-45) after ∧
            Builtin.gainExperience [.grimoire 0, .rune 500] (wilderness.rewriting 0 later) =
              Builtin.gainExperience [.grimoire 0, .rune 455] wilderness := by
  have present : wilderness.HasRecord 0 := Nat.zero_lt_one
  have standing : outcast.In (wilderness.record 0) := by constructor <;> rfl
  rcases gainExperience_adds_up present standing (-45) with
    ⟨later, after, gained, settled, risen, -, adds⟩
  exact ⟨present, standing, later, after, gained, settled, risen, adds 500 (by decide)⟩

end Spellbook.Quest

import Spellbook.Proofs.Quest.Experience

/-!
# Life and health

Wounds, healing and experience keep the health between zero and the greatest health. Whoever is said
to be alive has health. The converse fails for the undead: a hero who gains a level while dead is
given full health but is not said to be alive again.
-/

namespace Spellbook.Quest

open Spellbook.Action

/-! ## Deeds -/

/-- Who has health. -/
inductive Being where
  | hero
  | creature

/-- What changes health, or the greatest health. -/
inductive Deed where
  | wound (damage : Nat)
  | heal (amount : Nat)
  | learn (amount : Nat)

def Deed.isHealing : Deed → Bool
  | heal _ => true
  | _ => false

/-- Do a deed to the being whose record it is. -/
def Deed.act (ref : Nat) : Deed → Action Value
  | wound damage => Builtin.inflictWound [.grimoire ref, .rune damage]
  | heal amount => Builtin.restoreVigor [.grimoire ref, .rune amount]
  | learn amount => Builtin.gainExperience [.grimoire ref, .rune amount]

/-- Only heroes learn. -/
def Being.allows : Being → Deed → Bool
  | creature, .learn _ => false
  | _, _ => true

/-- Do deeds one after the other, of which the latest stands first. -/
def perform (ref : Nat) : List Deed → Action Unit
  | [] => return
  | deed :: former => do
    perform ref former
    let _ ← deed.act ref

/-! ## What deeds make of the numbers -/

/-- The numbers of a being, and whether it is said to be alive. -/
structure Life where
  stats : Stats
  alive : Bool

namespace Life

/-- The life stands in the fields of a record. -/
structure In (being : Being) (life : Life) (entries : Entries) : Prop where
  health : entries.field? "health" = some (.rune life.stats.health)
  maxHealth : entries.field? "max_health" = some (.rune life.stats.maxHealth)
  alive : entries.field? "alive" = some (.charm life.alive)
  stats : being = .hero → life.stats.In entries

def ofHealth (life : Life) (health : Int) : Life :=
  { life with stats := { life.stats with health } }

def after (life : Life) : Deed → Life
  | .wound damage =>
    let health := max 0 (life.stats.health - damage)
    { life.ofHealth health with alive := life.alive && 0 < health }
  | .heal amount =>
    let health := min life.stats.maxHealth (life.stats.health + amount)
    { life.ofHealth health with alive := life.alive || 0 < health }
  | .learn amount => ⟨(life.stats.learning amount).settled, life.alive⟩

def afterAll (life : Life) : List Deed → Life
  | [] => life
  | deed :: former => (life.afterAll former).after deed

end Life

section Writes

variable {being : Being} {life : Life} {ref : Nat} {entries : Entries}

theorem withHealth_writes (standing : life.In being entries) :
    Writes ref entries (Builtin.withHealth (.grimoire ref)) ref entries := by
  refine .bind (.field? _) ?_
  rw [standing.health]
  exact .pure _

theorem Life.In.writing_health (standing : life.In being entries) (health : Int) :
    (life.ofHealth health).In being (entries.writing "health" (.rune health)) := by
  constructor
  · simp [ofHealth]
  · simp [ofHealth, standing.maxHealth]
  · simp [ofHealth, standing.alive]
  · intro hero
    have stats := standing.stats hero
    constructor <;> simp [ofHealth, stats.level, stats.experience, stats.maxHealth, stats.mana,
      stats.maxMana, stats.strength, stats.agility, stats.wisdom, stats.vitality]

theorem Life.In.writing_alive (standing : life.In being entries) (alive : Bool) :
    { life with alive }.In being (entries.writing "alive" (.charm alive)) := by
  constructor
  · simp [standing.health]
  · simp [standing.maxHealth]
  · simp
  · intro hero
    have stats := standing.stats hero
    constructor <;> simp [stats.level, stats.experience, stats.health, stats.maxHealth, stats.mana,
      stats.maxMana, stats.strength, stats.agility, stats.wisdom, stats.vitality]

theorem wound_achieves (standing : life.In being entries) (damage : Nat) :
    Achieves ref entries ((Deed.wound damage).act ref) (.grimoire ref)
      ((life.after (.wound damage)).In being) := by
  refine .after (.integer _) <| .after (withHealth_writes standing) <|
    .after (.field standing.health) <| .after (lessBy_writes _ _ _) <| .after (.compare _ _ _) ?_
  by_cases lives : 0 < life.stats.health - damage
  · have above : Comparison.greater.holds (life.stats.health - damage) 0 = true :=
      decide_eq_true lives
    have notBelow : Comparison.atMost.holds (life.stats.health - damage) 0 = false :=
      decide_eq_false (Int.not_le.mpr lives)
    have same : life.after (.wound damage) = life.ofHealth (life.stats.health - damage) := by
      have spared : damage < life.stats.health := by omega
      simp [Life.after, Life.ofHealth, Int.max_eq_right (Int.le_of_lt lives), spared]
    rw [above, same]
    refine .after (.put _ _) <| .after (.compare .atMost _ 0) ?_
    rw [notBelow]
    exact ⟨_, .pure _, standing.writing_health _⟩
  · have notAbove : Comparison.greater.holds (life.stats.health - damage) 0 = false :=
      decide_eq_false lives
    have same : life.after (.wound damage) = { life.ofHealth 0 with alive := false } := by
      simp [Life.after, Life.ofHealth, Int.max_eq_left (Int.not_lt.mp lives)]
    rw [notAbove, same]
    exact .after (.put _ _) <| .after (.compare .atMost 0 0) <| .after (.put _ _)
      ⟨_, .pure _, (standing.writing_health 0).writing_alive false⟩

theorem heal_achieves (standing : life.In being entries) (amount : Nat) :
    Achieves ref entries ((Deed.heal amount).act ref) (.grimoire ref)
      ((life.after (.heal amount)).In being) := by
  have chosen (greatest healed : Int) :
      (if Comparison.less.holds healed greatest = true then Value.rune healed else .rune greatest) =
        .rune (min greatest healed) := by
    by_cases less : healed < greatest
    · simp [Comparison.holds, less, Int.min_eq_right (Int.le_of_lt less)]
    · simp [Comparison.holds, less, Int.min_eq_left (Int.not_lt.mp less)]
  refine .after (.integer _) <| .after (withHealth_writes standing) <|
    .after (.field standing.health) <| .after (.fieldOr _ _) <| .after (.field standing.health) <|
    .after (plusInteger_writes _ _) ?_
  rw [standing.maxHealth, Option.getD_some]
  refine .after (.compare _ _ _) ?_
  rw [chosen]
  refine .after (.put _ _) <| .after (.compare .greater _ 0) ?_
  have healed : life.after (.heal amount) =
      { life.ofHealth (min life.stats.maxHealth (life.stats.health + amount)) with
        alive := life.alive || 0 < min life.stats.maxHealth (life.stats.health + amount) } := rfl
  rw [healed]
  generalize min life.stats.maxHealth (life.stats.health + amount) = health
  by_cases lives : 0 < health
  · have above : Comparison.greater.holds health 0 = true := decide_eq_true lives
    rw [above, decide_eq_true lives, Bool.or_true]
    exact .after (.put _ _) ⟨_, .pure _, (standing.writing_health _).writing_alive true⟩
  · have notAbove : Comparison.greater.holds health 0 = false := decide_eq_false lives
    rw [notAbove, decide_eq_false lives, Bool.or_false]
    exact ⟨_, .pure _, standing.writing_health _⟩

theorem learn_achieves (standing : life.In .hero entries) (amount : Nat) :
    Achieves ref entries ((Deed.learn amount).act ref) (.grimoire ref)
      ((life.after (.learn amount)).In .hero) := by
  have learned := (life.stats.learning amount).settled_in ((standing.stats rfl).learning amount)
  refine ⟨_, gainExperience_writes (standing.stats rfl) amount, ?_⟩
  refine ⟨learned.health, learned.maxHealth, ?_, fun _ => learned⟩
  rw [Stats.field?_settling _ _ (by decide), Entries.field?_writing, if_neg (by decide)]
  exact standing.alive

theorem deed_achieves {deed : Deed} (allowed : being.allows deed = true)
    (standing : life.In being entries) :
    Achieves ref entries (deed.act ref) (.grimoire ref)
      ((life.after deed).In being) := by
  cases deed with
  | wound damage => exact wound_achieves standing damage
  | heal amount => exact heal_achieves standing amount
  | learn amount =>
    cases being with
    | hero => exact learn_achieves standing amount
    | creature => cases allowed

theorem perform_achieves {deeds : List Deed}
    (allowed : ∀ deed ∈ deeds, being.allows deed = true) (standing : life.In being entries) :
    Achieves ref entries (perform ref deeds) () ((life.afterAll deeds).In being) := by
  induction deeds with
  | nil => exact ⟨entries, .pure (), standing⟩
  | cons deed former ih =>
    rw [List.forall_mem_cons] at allowed
    obtain ⟨middle, begun, standing⟩ := ih allowed.2
    obtain ⟨later, done, standing⟩ := deed_achieves allowed.1 standing
    exact ⟨later, begun.bind (done.bind (.pure ())), standing⟩

end Writes

/-! ## Health within bounds -/

namespace Life

/-- Health is between zero and the greatest health, and whoever is said to be alive has some. -/
structure Sound (life : Life) : Prop where
  nonneg : 0 ≤ life.stats.health
  bounded : life.stats.health ≤ life.stats.maxHealth
  positive : 0 < life.stats.maxHealth
  healthy : life.alive = true → 0 < life.stats.health

theorem Sound.after {life : Life} (sound : life.Sound) (deed : Deed) : (life.after deed).Sound := by
  have nonneg := sound.nonneg
  have bounded := sound.bounded
  have positive := sound.positive
  cases deed with
  | wound damage =>
    constructor
    · change 0 ≤ max 0 (life.stats.health - damage)
      omega
    · change max 0 (life.stats.health - damage) ≤ life.stats.maxHealth
      omega
    · exact positive
    · intro alive
      exact of_decide_eq_true (Bool.and_eq_true_iff.mp alive).2
  | heal amount =>
    constructor
    · change 0 ≤ min life.stats.maxHealth (life.stats.health + amount)
      omega
    · change min life.stats.maxHealth (life.stats.health + amount) ≤ life.stats.maxHealth
      omega
    · exact positive
    · intro alive
      rcases Bool.or_eq_true_iff.mp alive with alive | lives
      · have healthy := sound.healthy alive
        change 0 < min life.stats.maxHealth (life.stats.health + amount)
        omega
      · exact of_decide_eq_true lives
  | learn amount =>
    have learned : (life.stats.learning amount).settled.health = life.stats.health ∧
        (life.stats.learning amount).settled.maxHealth = life.stats.maxHealth ∨
          (life.stats.learning amount).settled.health =
            (life.stats.learning amount).settled.maxHealth ∧
          life.stats.maxHealth < (life.stats.learning amount).settled.maxHealth :=
      (life.stats.learning amount).settled_health
    have healthy := sound.healthy
    constructor
    · change 0 ≤ (life.stats.learning amount).settled.health
      omega
    · change (life.stats.learning amount).settled.health ≤
        (life.stats.learning amount).settled.maxHealth
      omega
    · change 0 < (life.stats.learning amount).settled.maxHealth
      omega
    · intro alive
      have before := healthy alive
      change 0 < (life.stats.learning amount).settled.health
      omega

theorem Sound.afterAll {life : Life} (sound : life.Sound) (deeds : List Deed) :
    (life.afterAll deeds).Sound := by
  induction deeds with
  | nil => exact sound
  | cons deed former ih => exact ih.after deed

end Life

/-! ## The undead -/

/-- The health of a being after deeds. -/
def healthAfter (ref : Nat) (born : World) (deeds : List Deed) : Int :=
  match ((left (perform ref deeds born)).record ref).field? "health" with
  | some (.rune health) => health
  | _ => 0

/--
After deeds, of which the latest stands first, someone is undead who gained health by learning while
having none, and has neither been healed nor lost that health since.
-/
inductive Undead (ref : Nat) (born : World) : List Deed → Prop where
  | raised {amount : Nat} {former : List Deed} (dead : healthAfter ref born former = 0)
      (risen : 0 < healthAfter ref born (.learn amount :: former)) :
      Undead ref born (.learn amount :: former)
  | kept {deed : Deed} {former : List Deed} (unhealed : deed.isHealing = false)
      (healthy : 0 < healthAfter ref born (deed :: former))
      (undead : Undead ref born former) : Undead ref born (deed :: former)

section Undead

variable {being : Being} {life : Life} {ref : Nat} {born : World}

theorem healthAfter_eq (present : born.HasRecord ref)
    (standing : life.In being (born.record ref)) {deeds : List Deed}
    (allowed : ∀ deed ∈ deeds, being.allows deed = true) :
    healthAfter ref born deeds = (life.afterAll deeds).stats.health := by
  obtain ⟨later, writes, standing⟩ := perform_achieves allowed standing
  rw [healthAfter, writes.ended present rfl, left, World.record_rewriting present, standing.health]

theorem undead_iff (present : born.HasRecord ref)
    (standing : life.In being (born.record ref)) (sound : life.Sound)
    (begun : life.alive = true) {deeds : List Deed}
    (allowed : ∀ deed ∈ deeds, being.allows deed = true) :
    Undead ref born deeds ↔
      (life.afterAll deeds).alive = false ∧ 0 < (life.afterAll deeds).stats.health := by
  induction deeds with
  | nil =>
    refine iff_of_false (by rintro ⟨⟩) ?_
    rintro ⟨dead, -⟩
    exact Bool.noConfusion (begun.symm.trans dead)
  | cons deed former ih =>
    have allowedFormer := (List.forall_mem_cons.mp allowed).2
    have health := healthAfter_eq present standing allowed
    have healthFormer := healthAfter_eq present standing allowedFormer
    have sound := sound.afterAll former
    constructor
    · intro undead
      cases undead with
      | raised dead risen =>
        rw [healthFormer] at dead
        refine ⟨?_, health ▸ risen⟩
        cases alive : (life.afterAll former).alive with
        | false => exact alive
        | true =>
          have healthy := sound.healthy alive
          omega
      | kept unhealed healthy undead =>
        have dead := ((ih allowedFormer).mp undead).1
        refine ⟨?_, health ▸ healthy⟩
        cases deed with
        | wound damage =>
          change ((life.afterAll former).alive && _) = false
          rw [dead]
          rfl
        | heal amount => cases unhealed
        | learn amount => exact dead
    · rintro ⟨dead, healthy⟩
      have healthy' := healthy
      rw [← health] at healthy'
      cases deed with
      | wound damage =>
        change 0 < max 0 ((life.afterAll former).stats.health - damage) at healthy
        have before : 0 < (life.afterAll former).stats.health := by omega
        have deadBefore : (life.afterAll former).alive = false := by
          change ((life.afterAll former).alive && decide (0 < max 0 _)) = false at dead
          rw [decide_eq_true healthy, Bool.and_true] at dead
          exact dead
        exact .kept rfl healthy' ((ih allowedFormer).mpr ⟨deadBefore, before⟩)
      | heal amount =>
        change ((life.afterAll former).alive || decide (0 < min _ _)) = false at dead
        exact absurd healthy (of_decide_eq_false (Bool.or_eq_false_iff.mp dead).2)
      | learn amount =>
        rcases Int.lt_or_eq_of_le sound.nonneg with before | none
        · exact .kept rfl healthy' ((ih allowedFormer).mpr ⟨dead, before⟩)
        · exact .raised (healthFormer.trans none.symm) healthy'

/-- Only learning raises the dead. -/
theorem Undead.not_creature {deeds : List Deed} (undead : Undead ref born deeds) :
    ¬∀ deed ∈ deeds, Being.creature.allows deed = true := by
  induction undead with
  | raised dead risen => exact fun allowed => Bool.noConfusion (allowed _ List.mem_cons_self)
  | kept unhealed healthy undead ih =>
    exact fun allowed => ih (List.forall_mem_cons.mp allowed).2

end Undead

/-! ## Beings that were forged -/

/-- The record has just been made for a hero of a positive level, or a creature with health. -/
inductive Forged (ref : Nat) (born : World) : Being → Prop where
  | hero {args : List Value} {before : World} {level : Int}
      (made : Builtin.forgeHero args before = .ok (.grimoire ref) born)
      (read : (born.record ref).field? "level" = some (.rune level))
      (positive : 1 ≤ level) : Forged ref born .hero
  | creature {args : List Value} {before : World} {health : Int}
      (made : Builtin.forgeCreature args before = .ok (.grimoire ref) born)
      (read : (born.record ref).field? "health" = some (.rune health))
      (positive : 0 < health) : Forged ref born .creature

section Forged

variable {ref : Nat} {born : World}

theorem newRecord_eq_ok {fields : List (String × Value)} {world : World}
    (ended : newRecord fields world = .ok (.grimoire ref) born) :
    born.HasRecord ref ∧
      ∀ name, (born.record ref).field? name = fields.lookup name := by
  cases ended
  refine ⟨?_, ?_⟩
  · simp [World.HasRecord]
  · intro name
    rw [← Entries.field?_record]
    simp [World.record, Store.grimoire]

theorem vitality_pos (heroClass : String) : 0 < (Builtin.giftsOf heroClass).vitality := by
  unfold Builtin.giftsOf
  split <;> decide

/-- The numbers of a new hero. -/
def Stats.forged (heroClass : String) (level : Int) : Stats :=
  let gifts := Builtin.giftsOf (Unicode.lowerText heroClass)
  let health := gifts.vitality * 10 + (level - 1) * 5
  let mana := gifts.wisdom * 5 + (level - 1) * 3
  { level, experience := 0, health, maxHealth := health, mana, maxMana := mana,
    strength := gifts.strength, agility := gifts.agility, wisdom := gifts.wisdom,
    vitality := gifts.vitality }

theorem heroOf_eq_ok {name heroClass : String} {level : Int} {world : World}
    (ended : Builtin.heroOf name heroClass level world = .ok (.grimoire ref) born) :
    born.HasRecord ref ∧
      Life.In .hero ⟨.forged heroClass level, true⟩ (born.record ref) := by
  obtain ⟨inventory, _, -, ended⟩ := bind_eq_ok ended
  obtain ⟨equipped, _, -, ended⟩ := bind_eq_ok ended
  obtain ⟨present, fields⟩ := newRecord_eq_ok ended
  exact ⟨present, fields _, fields _, fields _, fun _ => ⟨fields _, fields _, fields _, fields _,
    fields _, fields _, fields _, fields _, fields _, fields _⟩⟩

theorem forgeHero_eq_ok {args : List Value} {before : World}
    (made : Builtin.forgeHero args before = .ok (.grimoire ref) born) :
    ∃ heroClass level, born.HasRecord ref ∧
      Life.In .hero ⟨.forged heroClass level, true⟩ (born.record ref) := by
  unfold Builtin.forgeHero at made
  split at made
  · split at made
    · cases made
    · obtain ⟨_, _, -, made⟩ := bind_eq_ok made
      obtain ⟨heroClass, _, -, made⟩ := bind_eq_ok made
      obtain ⟨level, _, -, made⟩ := bind_eq_ok made
      exact ⟨heroClass, level, heroOf_eq_ok made⟩
  · cases made

/-- The numbers of a new creature, which has none but its health. -/
def Stats.ofCreature (health : Int) : Stats :=
  { level := 0, experience := 0, health, maxHealth := health, mana := 0, maxMana := 0,
    strength := 0, agility := 0, wisdom := 0, vitality := 0 }

theorem creatureOf_eq_ok {name health damage : Value} {loot : List Value} {before : World}
    (made : Builtin.creatureOf name health damage loot before = .ok (.grimoire ref) born) :
    ∃ health, born.HasRecord ref ∧
      Life.In .creature ⟨.ofCreature health, true⟩ (born.record ref) := by
  obtain ⟨name, _, -, made⟩ := bind_eq_ok made
  obtain ⟨health, _, -, made⟩ := bind_eq_ok made
  obtain ⟨damage, _, -, made⟩ := bind_eq_ok made
  have recorded {loot : Value} {world : World} (ended : newRecord
      [("name", .scroll name), ("health", .rune health), ("max_health", .rune health),
        ("damage", .rune damage), ("loot", loot), ("alive", .charm true)] world =
          .ok (.grimoire ref) born) :
      born.HasRecord ref ∧
        Life.In .creature ⟨.ofCreature health, true⟩ (born.record ref) := by
    obtain ⟨present, fields⟩ := newRecord_eq_ok ended
    exact ⟨present, fields _, fields _, fields _, by rintro ⟨⟩⟩
  refine ⟨health, ?_⟩
  split at made <;>
    · obtain ⟨loot, _, -, made⟩ := bind_eq_ok made
      exact recorded made

theorem forgeCreature_eq_ok {args : List Value} {before : World}
    (made : Builtin.forgeCreature args before = .ok (.grimoire ref) born) :
    ∃ health, born.HasRecord ref ∧
      Life.In .creature ⟨.ofCreature health, true⟩ (born.record ref) := by
  unfold Builtin.forgeCreature at made
  split at made
  · exact creatureOf_eq_ok made
  · exact creatureOf_eq_ok made
  · cases made

theorem Stats.forged_health_pos (heroClass : String) {level : Int} (positive : 1 ≤ level) :
    0 < (Stats.forged heroClass level).health := by
  have gifted := vitality_pos (Unicode.lowerText heroClass)
  change 0 < (Builtin.giftsOf (Unicode.lowerText heroClass)).vitality * 10 + (level - 1) * 5
  omega

/-- The life with which a being begins. -/
theorem Forged.life {being : Being} (forged : Forged ref born being) :
    born.HasRecord ref ∧ ∃ life : Life, life.In being (born.record ref) ∧
      life.Sound ∧ life.alive = true := by
  cases forged with
  | hero made read positive =>
    obtain ⟨heroClass, level, present, standing⟩ := forgeHero_eq_ok made
    cases read.symm.trans (standing.stats rfl).level
    have healthy := Stats.forged_health_pos heroClass positive
    exact ⟨present, _, standing, ⟨Int.le_of_lt healthy, Int.le_refl _, healthy, fun _ => healthy⟩,
      rfl⟩
  | creature made read positive =>
    obtain ⟨health, present, standing⟩ := forgeCreature_eq_ok made
    cases read.symm.trans standing.health
    exact ⟨present, _, standing,
      ⟨Int.le_of_lt positive, Int.le_refl _, positive, fun _ => positive⟩, rfl⟩

end Forged

/-! ## Who is alive -/

section Answers

variable {being : Being} {life : Life} {ref : Nat} {world : World}

theorem checkFate_eq (present : world.HasRecord ref)
    (standing : life.In being (world.record ref)) :
    Builtin.checkFate [.grimoire ref] world = .ok (.charm life.alive) world := by
  have answers : Writes ref (world.record ref)
      (Builtin.checkFate [.grimoire ref]) (.charm life.alive) (world.record ref) := by
    refine .bind (.fieldOr _ _) ?_
    rw [standing.health]
    refine .bind (.compare _ life.stats.health 0) ?_
    have told : Writes ref (world.record ref)
        (fieldOr ref "alive" (.charm (Comparison.greater.holds life.stats.health 0))) _ _ :=
      .fieldOr _ _
    rw [standing.alive] at told
    exact told
  rw [answers.ended present rfl, World.rewriting_record]

theorem claimLoot_isSome (present : world.HasRecord ref)
    (standing : life.In being (world.record ref)) :
    (result? (Builtin.claimLoot [.grimoire ref] world)).isSome = !life.alive := by
  have told : Writes ref (world.record ref)
      (fieldOr ref "alive" (.charm true)) _ _ := .fieldOr _ _
  have asked := told.ended present rfl
  rw [standing.alive, Option.getD_some, World.rewriting_record] at asked
  have known : truth (.charm life.alive) world = .ok life.alive world := rfl
  have looked : field? ref "loot" world =
      .ok ((world.record ref).field? "loot") world := rfl
  change (result? ((fieldOr ref "alive" (.charm true) >>= _) world)).isSome = _
  rw [bind_of_ok asked, bind_of_ok known]
  cases life.alive with
  | true => rfl
  | false =>
    rw [if_neg Bool.false_ne_true, bind_of_ok looked]
    cases (world.record ref).field? "loot" <;> rfl

end Answers

/--
Whatever befalls a hero or a creature, health stays between zero and the greatest health, and who is
said to be alive has health.  Who has health is said to be alive exactly if not undead, which
creatures never are.  Fate is told, and loot is given, by what is said.
-/
theorem alive_of_health_iff_not_undead {being : Being} {ref : Nat} {born : World}
    (forged : Forged ref born being) {deeds : List Deed}
    (allowed : ∀ deed ∈ deeds, being.allows deed = true) :
    ∃ after health maxHealth alive,
      perform ref deeds born = .ok () after ∧
      (after.record ref).field? "health" = some (.rune health) ∧
      (after.record ref).field? "max_health" = some (.rune maxHealth) ∧
      (after.record ref).field? "alive" = some (.charm alive) ∧
      0 ≤ health ∧ health ≤ maxHealth ∧ (alive = true → 0 < health) ∧
      ((0 < health → alive = true) ↔ ¬Undead ref born deeds) ∧
      (being = .creature → ¬Undead ref born deeds) ∧
      Builtin.checkFate [.grimoire ref] after = .ok (.charm alive) after ∧
      (result? (Builtin.claimLoot [.grimoire ref] after)).isSome = !alive := by
  obtain ⟨present, life, standing, sound, begun⟩ := forged.life
  have undead := undead_iff present standing sound begun allowed
  obtain ⟨later, writes, standing⟩ :
      Achieves ref (born.record ref) (perform ref deeds) () _ :=
    perform_achieves allowed standing
  have sound := sound.afterAll deeds
  have present' : (born.rewriting ref later).HasRecord ref :=
    World.hasRecord_rewriting present ref
  rw [← @World.record_rewriting born ref later present] at standing
  refine ⟨_, _, _, _, writes.ended present rfl, standing.health, standing.maxHealth,
    standing.alive, sound.nonneg, sound.bounded, sound.healthy, ?_, ?_,
    checkFate_eq present' standing, claimLoot_isSome present' standing⟩
  · rw [undead]
    cases (life.afterAll deeds).alive <;> simp
  · rintro rfl raised
    exact raised.not_creature allowed

/-- A world in which a hero has just been forged. -/
def cradle : World := left (Builtin.forgeHero [.scroll "Hero"] {})

/-- The life of that hero. -/
def novice : Life where
  stats :=
    { level := 1, experience := 0, health := 100, maxHealth := 100, mana := 50, maxMana := 50,
      strength := 10, agility := 10, wisdom := 10, vitality := 10 }
  alive := true

theorem cradle_life : cradle.HasRecord 1 ∧ novice.In .hero (cradle.record 1) := by
  have made : Builtin.heroOf "Hero" "adventurer" 1 {} = .ok (.grimoire 1) cradle := rfl
  have plain : Unicode.lowerText "adventurer" = "adventurer" := by decide +kernel
  have same : Stats.forged "adventurer" 1 = novice.stats := by
    rw [Stats.forged, plain]
    rfl
  have life := heroOf_eq_ok made
  rw [same] at life
  exact life

theorem cradle_forged : Forged 1 cradle .hero := by
  have made : Builtin.forgeHero [.scroll "Hero"] {} = .ok (.grimoire 1) cradle := rfl
  exact .hero made (cradle_life.2.stats rfl).level (Int.le_refl 1)

theorem alive_of_health_iff_not_undead_wounded :
    ∃ after health maxHealth, perform 1 [.heal 10, .wound 30] cradle = .ok () after ∧
      (after.record 1).field? "health" = some (.rune health) ∧
        (after.record 1).field? "max_health" = some (.rune maxHealth) ∧
          0 ≤ health ∧ health ≤ maxHealth := by
  have allowed : ∀ deed ∈ [Deed.heal 10, .wound 30], Being.hero.allows deed = true := by decide
  rcases alive_of_health_iff_not_undead cradle_forged allowed with
    ⟨after, health, maxHealth, alive, performed, read, readMax, -, nonneg, bounded, -⟩
  exact ⟨after, health, maxHealth, performed, read, readMax, nonneg, bounded⟩

/-- A hero who learns enough for a level while dead has full health and is not alive. -/
theorem raised_while_dead :
    ∃ after, perform 1 [.learn 100, .wound 1000] cradle = .ok () after ∧
      (after.record 1).field? "health" = some (.rune 105) ∧
        Builtin.checkFate [.grimoire 1] after = .ok (.charm false) after := by
  obtain ⟨later, writes, standing⟩ :
      Achieves 1 (cradle.record 1) (perform 1 [.learn 100, .wound 1000]) () _ :=
    perform_achieves (by decide) cradle_life.2
  have full : (novice.afterAll [.learn 100, .wound 1000]).stats.health = 105 := by decide +kernel
  rw [← @World.record_rewriting cradle 1 later cradle_life.1] at standing
  have fate := checkFate_eq (World.hasRecord_rewriting cradle_life.1 1) standing
  exact ⟨_, writes.ended cradle_life.1 rfl, full ▸ standing.health, fate⟩

end Spellbook.Quest

import Spellbook.Proofs.Quest.Reckoning
import Spellbook.Proofs.Quest.Vitality

/-!
# Heroes who rise and heroes who are forged

A hero can be forged at a level, or forged at the first level and raised by experience.  The points
that a level costs in all bring a hero exactly there, with none left over, in however many parts they
come.  The two heroes agree in all but the gifts of their class, of which the raised hero has one
more for every level gained (`risen_meets_forged`).
-/

namespace Spellbook.Quest

open Spellbook.Action

namespace Stats

theorem settled_experience_nonneg {stats : Stats} (some : 0 ≤ stats.experience) :
    0 ≤ stats.settled.experience := by
  fun_induction settled with
  | case1 stats enough ih => exact ih (Int.sub_nonneg_of_le enough)
  | case2 stats short => exact some

theorem Risen.refl {stats : Stats} (short : stats.experience < 100 * stats.level) :
    Risen stats 0 stats := by
  constructor <;> omega

theorem Risen.trans {before middle after : Stats} {amount more : Int}
    (first : Risen before amount middle) (second : Risen middle more after) :
    Risen before (amount + more) after := by
  obtain ⟨level, -, conserved, maxHealth, maxMana, strength, agility, wisdom, vitality, restored,
    untouched⟩ := first
  obtain ⟨level', short', conserved', maxHealth', maxMana', strength', agility', wisdom', vitality',
    restored', untouched'⟩ := second
  constructor <;> omega

theorem cost_lt {level other : Int} (positive : 1 ≤ level) (less : level < other) :
    cost level + level * 100 ≤ cost other := by
  rw [← cost_succ]
  have room : 0 ≤ (other - (level + 1)) * (other + level) :=
    Int.mul_nonneg (by omega) (by omega)
  unfold cost
  grind

/-- What a level costs in all brings a hero of the first level there, with nothing left. -/
theorem Risen.level_eq {before after : Stats} {level : Int} (risen : Risen before (cost level) after)
    (first : before.level = 1) (none : before.experience = 0) (some : 0 ≤ after.experience)
    (positive : 1 ≤ level) : after.level = level ∧ after.experience = 0 := by
  have conserved := risen.conserved
  have short := risen.short
  have reached := risen.level
  rw [first, none, show cost 1 = 0 from rfl] at conserved
  rcases Int.lt_trichotomy after.level level with less | same | greater
  · have costly := cost_lt (by omega) less
    omega
  · rw [same] at conserved
    omega
  · have costly := cost_lt positive greater
    omega

/-- The numbers with more of each gift. -/
def practised (stats : Stats) (amount : Int) : Stats :=
  { stats with
    strength := stats.strength + amount
    agility := stats.agility + amount
    wisdom := stats.wisdom + amount
    vitality := stats.vitality + amount }

theorem Risen.eq_practised {heroClass : String} {level : Int} {after : Stats}
    (risen : Risen (forged heroClass 1) (cost level) after) (some : 0 ≤ after.experience)
    (positive : 1 ≤ level) : after = (forged heroClass level).practised (level - 1) := by
  obtain ⟨arrived, spent⟩ := risen.level_eq rfl rfl some positive
  obtain ⟨-, -, -, maxHealth, maxMana, strength, agility, wisdom, vitality, restored, untouched⟩ :=
    risen
  obtain ⟨_, _, _, _, _, _, _, _, _, _⟩ := after
  simp only [forged, practised, Stats.mk.injEq] at *
  omega

end Stats

/-- Gain experience in parts, one after the other. -/
def gainAll (hero : Value) (parts : List Int) : Action Unit :=
  parts.forM fun part => do let _ ← Builtin.gainExperience [hero, .rune part]

theorem gainAll_achieves {ref : Nat} {entries : Entries} {stats : Stats} {parts : List Int}
    (standing : stats.In entries) (short : stats.experience < 100 * stats.level)
    (some : 0 ≤ stats.experience) (gained : ∀ part ∈ parts, 0 ≤ part) :
    Achieves ref entries (gainAll (.grimoire ref) parts) () fun later =>
      (∃ after : Stats, after.In later ∧ stats.Risen (parts.foldr (· + ·) 0) after ∧
        0 ≤ after.experience) ∧
      ∀ name ∉ Stats.names, later.field? name = entries.field? name := by
  induction parts generalizing stats entries with
  | nil => exact ⟨entries, .pure (), ⟨stats, standing, .refl short, some⟩, fun _ _ => rfl⟩
  | cons part parts ih =>
    obtain ⟨first, others⟩ := List.forall_mem_cons.mp gained
    have learned := stats.settled_learning_risen part
    have settled := (stats.learning part).settled_in (standing.learning part)
    have left : 0 ≤ (stats.learning part).settled.experience :=
      Stats.settled_experience_nonneg (Int.add_nonneg some first)
    rcases ih settled learned.short left others with
      ⟨later, writes, ⟨after, standing', risen, left⟩, other⟩
    refine ⟨later, .bind (.bind (gainExperience_writes standing part) (.pure ())) writes,
      ⟨after, standing', learned.trans risen, left⟩, fun name outside => ?_⟩
    have unlike : "experience" ≠ name := by
      rintro rfl
      exact outside (by decide)
    rw [other name outside, Stats.field?_settling _ _ outside, Entries.field?_writing,
      if_neg unlike]

/-! ## What heroes have -/

/-- What a field of a record holds, as a tree. -/
def told (world : World) (ref : Nat) (name : String) : Option Datum :=
  ((world.record ref).field? name).map world.store.portray

theorem told_of_field {world : World} {ref : Nat} {name : String} {value : Value}
    (found : (world.record ref).field? name = some value) :
    told world ref name = some (world.store.portray value) := by
  rw [told, found, Option.map_some]

theorem Stats.In.told {stats : Stats} {world : World} {ref : Nat}
    (standing : stats.In (world.record ref)) :
    ∀ entry ∈ [("level", stats.level), ("experience", stats.experience), ("health", stats.health),
        ("max_health", stats.maxHealth), ("mana", stats.mana), ("max_mana", stats.maxMana),
        ("strength", stats.strength), ("agility", stats.agility), ("wisdom", stats.wisdom),
        ("vitality", stats.vitality)],
      told world ref entry.1 = some (.rune entry.2) := by
  simp only [List.forall_mem_cons, told_of_field standing.level, told_of_field standing.experience,
    told_of_field standing.health, told_of_field standing.maxHealth, told_of_field standing.mana,
    told_of_field standing.maxMana, told_of_field standing.strength, told_of_field standing.agility,
    told_of_field standing.wisdom, told_of_field standing.vitality, Store.portray,
    Store.portrayBelow]
  simp

/-- What a hero has besides numbers. -/
structure Outfit (world : World) (reference : Nat) (name heroClass : String) : Prop where
  name : (world.record reference).field? "name" = some (.scroll name)
  heroClass : (world.record reference).field? "class" = some (.scroll heroClass)
  gold : (world.record reference).field? "gold" = some (.rune 100)
  alive : (world.record reference).field? "alive" = some (.charm true)
  inventory : ∃ items, (world.record reference).field? "inventory" = some (.tome items) ∧
    world.store.tome items = #[]
  equipped : ∃ worn ≠ reference, (world.record reference).field? "equipped" = some (.grimoire worn) ∧
    world.record worn = #[]

namespace Outfit

variable {world : World} {ref : Nat} {name heroClass : String}

theorem told (outfit : Outfit world ref name heroClass) :
    ∀ entry ∈ [("name", .scroll name), ("class", .scroll heroClass), ("gold", .rune 100),
        ("inventory", .list []), ("equipped", .dict []), ("alive", Datum.charm true)],
      told world ref entry.1 = some entry.2 := by
  obtain ⟨items, inventory, none⟩ := outfit.inventory
  obtain ⟨worn, -, equipped, nothing⟩ := outfit.equipped
  have nothing : world.store.grimoire worn = #[] := nothing
  simp only [List.forall_mem_cons, told_of_field outfit.name, told_of_field outfit.heroClass,
    told_of_field outfit.gold, told_of_field outfit.alive, told_of_field inventory,
    told_of_field equipped, Store.portray, Store.portrayBelow]
  simp [none, nothing]

theorem rewriting (outfit : Outfit world ref name heroClass)
    (present : world.HasRecord ref) {later : Entries}
    (kept : ∀ name ∉ Stats.names, later.field? name = (world.record ref).field? name) :
    Outfit (world.rewriting ref later) ref name heroClass := by
  have recorded := @World.record_rewriting world ref later present
  rcases outfit with ⟨named, classed, gold, alive, ⟨items, inventory, none⟩,
    ⟨worn, other, equipped, nothing⟩⟩
  refine ⟨?_, ?_, ?_, ?_, ⟨items, ?_, none⟩, ⟨worn, other, ?_, ?_⟩⟩
  case refine_7 =>
    rw [← nothing]
    simp [World.record, World.rewriting, Store.modifyGrimoire, Store.grimoire,
      Array.getElem?_modify, other.symm]
  all_goals rw [recorded, kept _ (by decide)]; assumption

end Outfit

/-- A hero is forged with the numbers of a class and a level. -/
theorem forgeHero_ok {world : World} {name heroClass : Value} {nameText classText : String}
    (named : world.store.plainText name = .ok nameText)
    (classed : world.store.plainText heroClass = .ok classText) (level : Int) :
    ∃ ref born,
      Builtin.forgeHero [name, heroClass, .rune level] world = .ok (.grimoire ref) born ∧
        born.HasRecord ref ∧
          (Stats.forged classText level).In (born.record ref) ∧
            Outfit born ref nameText (Unicode.lowerText classText) := by
  have begun : Builtin.forgeHero [name, heroClass, .rune level] world =
      Builtin.heroOf nameText classText level world := by
    rw [Builtin.forgeHero, if_neg (by simp), bind_of_ok (text_of_ok named), textOr,
      bind_of_ok (text_of_ok classed)]
    rfl
  have made : ∃ ref born,
      Builtin.heroOf nameText classText level world = .ok (.grimoire ref) born := ⟨_, _, rfl⟩
  obtain ⟨ref, born, made⟩ := made
  have life := heroOf_eq_ok made
  refine ⟨ref, born, begun.trans made, life.1, life.2.stats rfl, ?_⟩
  obtain ⟨inventory, _, ⟨⟩, made⟩ := bind_eq_ok made
  obtain ⟨equipped, _, ⟨⟩, made⟩ := bind_eq_ok made
  have fields := (newRecord_eq_ok made).2
  cases made
  refine ⟨fields _, fields _, fields _, fields _, ⟨_, fields _, ?_⟩, ⟨_, ?_, fields _, ?_⟩⟩
  · simp [Store.tome]
  · simp
  · simp only [World.record, Store.grimoire, Array.getElem?_push]
    simp

/--
A hero who is forged at the first level and gains, in parts that take nothing away, the points that
a level costs in all, compared with the hero of the same name and class who is forged at that level:
they agree in all their fields but four, and of each of the gifts in these the hero who rose has as
many more as there are levels from the first.
-/
theorem risen_meets_forged {world : World} {name heroClass : Value} {nameText classText : String}
    (named : world.store.plainText name = .ok nameText)
    (classed : world.store.plainText heroClass = .ok classText) {level : Int}
    (positive : 1 ≤ level) {parts : List Int} (gained : ∀ part ∈ parts, 0 ≤ part)
    (all : parts.foldr (· + ·) 0 = 50 * level * (level - 1)) :
    ∃ forged smithy novice cradle after,
      Builtin.forgeHero [name, heroClass, .rune level] world = .ok (.grimoire forged) smithy ∧
      Builtin.forgeHero [name, heroClass, .rune 1] world = .ok (.grimoire novice) cradle ∧
      gainAll (.grimoire novice) parts cradle = .ok () after ∧
      (∀ field ∈ ["name", "class", "level", "experience", "health", "max_health", "mana",
          "max_mana", "gold", "inventory", "equipped", "alive"],
        ∃ datum, told smithy forged field = some datum ∧ told after novice field = some datum) ∧
      ∀ gift ∈ ["strength", "agility", "wisdom", "vitality"],
        ∃ num, told smithy forged gift = some (.rune num) ∧
          told after novice gift = some (.rune (num + (level - 1))) := by
  obtain ⟨forged, smithy, made, -, numbers, outfit⟩ := forgeHero_ok named classed level
  obtain ⟨novice, cradle, begun, present, standing, outfit'⟩ := forgeHero_ok named classed 1
  rcases gainAll_achieves standing (by simp [Stats.forged]) (Int.le_refl 0) gained with
    ⟨later, writes, ⟨reached, standing', risen, left⟩, kept⟩
  rw [all] at risen
  cases risen.eq_practised left positive
  have outfit' := (outfit'.rewriting present kept).told
  rw [← @World.record_rewriting cradle novice later present] at standing'
  have numbers' := standing'.told
  have outfit := outfit.told
  have numbers := numbers.told
  simp only [List.forall_mem_cons] at outfit outfit' numbers numbers'
  refine ⟨forged, smithy, novice, cradle, _, made, begun, writes.ended present rfl, ?_, ?_⟩
  · simp [outfit, outfit', numbers, numbers', Stats.practised]
  · simp [numbers, numbers', Stats.practised]

theorem risen_meets_forged_mage :
    (∀ part ∈ [(100 : Int), 0, 200], 0 ≤ part) ∧
      ∃ forged smithy novice cradle after,
        Builtin.forgeHero [.scroll "Hero", .scroll "Mage", .rune 3] {} =
            .ok (.grimoire forged) smithy ∧
          Builtin.forgeHero [.scroll "Hero", .scroll "Mage", .rune 1] {} =
              .ok (.grimoire novice) cradle ∧
            gainAll (.grimoire novice) [100, 0, 200] cradle = .ok () after ∧
              told after novice "health" = told smithy forged "health" ∧
                ∃ num, told smithy forged "wisdom" = some (.rune num) ∧
                  told after novice "wisdom" = some (.rune (num + 2)) := by
  have gained : ∀ part ∈ [(100 : Int), 0, 200], 0 ≤ part := by decide
  rcases @risen_meets_forged {} (.scroll "Hero") (.scroll "Mage") "Hero" "Mage" rfl rfl 3 (by decide)
    [100, 0, 200] gained (by decide) with
    ⟨forged, smithy, novice, cradle, after, made, begun, risen, shared, gifts⟩
  obtain ⟨datum, health, health'⟩ := shared "health" (by decide)
  exact ⟨gained, forged, smithy, novice, cradle, after, made, begun, risen, health'.trans health.symm,
    gifts "wisdom" (by decide)⟩

end Spellbook.Quest

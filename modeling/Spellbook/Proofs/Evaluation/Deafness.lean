import Spellbook.Proofs.Evaluation.Parallel

/-!
# The console makes no difference

An action cannot ask what was printed before it, nor what is left to be read without reading it. So
in two worlds whose consoles differ in a way that printing and reading keep (`Semblance`), it has
the same result, changes the same and prints the same. That is a statement about two runs that keep
step (`Parallel`).
-/

namespace Spellbook

/-! ## Consoles that resemble each other -/

namespace Console

theorem printed_print (console : Console) (text : String) :
    (console.print text).printed = console.printed ++ text := by
  simp [printed, chunks, print, String.join_append, String.join_cons, String.append_assoc]

theorem printed_read (console : Console) : console.read.2.printed = console.printed := by
  simp [printed, chunks, read, String.join_append, String.join_cons]

end Console

/--
A way in which two consoles resemble each other and go on to do so.  Where it is lenient, nothing is
said about reading when the second console has nothing to read.
-/
structure Semblance where
  consoles : Console → Console → Prop
  lenient : Prop
  print : ∀ {one other : Console}, consoles one other →
    ∀ text, consoles (one.print text) (other.print text)
  read : ∀ {one other : Console}, consoles one other →
    (one.read.1 = other.read.1 ∧ consoles one.read.2 other.read.2) ∨ (lenient ∧ other.read.1 = none)

namespace Semblance

/-- At first each console printed a text of its own, and since then they do the same. -/
def apart (before before' : String) : Semblance where
  consoles one other := one.clear = other.clear ∧
    ∃ text, one.printed = before ++ text ∧ other.printed = before' ++ text
  lenient := False
  print := by
    rintro one other ⟨same, printed, printedOne, printedOther⟩ text
    refine ⟨same, printed ++ text, ?_, ?_⟩
    · rw [Console.printed_print, printedOne, String.append_assoc]
    · rw [Console.printed_print, printedOther, String.append_assoc]
  read := by
    rintro one other ⟨same, printed, printedOne, printedOther⟩
    refine Or.inl ⟨congrArg (fun console => console.read.1) same, ?_, printed, ?_, ?_⟩
    · exact congrArg (fun console => console.read.2.clear) same
    · rw [Console.printed_read, printedOne]
    · rw [Console.printed_read, printedOther]

/--
The first console has lines to read that are not touched, and the second has none.  What they
printed may differ, except on the channel for errors.
-/
def untouched (input : List (Option String)) : Semblance where
  consoles one other := one.input = input ∧ other.input = [] ∧ one.errors = other.errors
  lenient := True
  print akin text := akin
  read := by
    rintro one other ⟨-, empty, -⟩
    refine Or.inr ⟨trivial, ?_⟩
    rw [Console.read, empty]
    rfl

def Excuses (semblance : Semblance) (trouble : Trouble) : Prop :=
  semblance.lenient ∧ trouble = .fault .endOfInput

end Semblance

namespace World

def quiet (world : World) : World := world.withConsole world.console.clear

/-- Two worlds that differ at most in their consoles, which resemble each other. -/
structure Resembles (semblance : Semblance) (one other : World) : Prop where
  aside : one.withConsole {} = other.withConsole {}
  consoles : semblance.consoles one.console other.console

namespace Resembles

theorem refl (world : World) : Resembles (.apart "" "") world world :=
  ⟨rfl, rfl, world.console.printed, String.empty_append.symm, String.empty_append.symm⟩

variable {semblance : Semblance} {one other : World}

/-- What does not look at the console is the same in both worlds. -/
theorem eq_of_blind {α : Type} (akin : Resembles semblance one other) (look : World → α)
    (blind : ∀ world console, look (world.withConsole console) = look world) :
    look one = look other := by
  rw [← blind one {}, akin.aside, blind]

end Resembles

/--
Two worlds that differ at most in what was printed: at first a text of its own in each, and since
then the same in both.
-/
structure Apart (before before' : String) (one other : World) : Prop where
  quiet_eq : one.quiet = other.quiet
  printed : ∃ text, one.console.printed = before ++ text ∧ other.console.printed = before' ++ text

theorem apart_iff {before before' : String} {one other : World} :
    Apart before before' one other ↔ Resembles (.apart before before') one other := by
  constructor
  · rintro ⟨same, printed⟩
    exact ⟨congrArg (·.withConsole {}) same, congrArg World.console same, printed⟩
  · rintro ⟨aside, same, printed⟩
    refine ⟨?_, printed⟩
    have again := congrArg (·.withConsole one.console.clear) aside
    rw [quiet, quiet, ← same]
    exact again

end World

/-! ## Actions in worlds that resemble each other -/

namespace World

def afterRead (world : World) (prompt : String) : World :=
  world.withConsole (world.console.print prompt).read.2

end World

namespace Action

variable {α β : Type}

def answered : Option (Option String) → Action String
  | some (some line) => return line
  | some none => fault .keyboardInterrupt
  | none => fault .endOfInput

theorem readLine_eq (prompt : String) (world : World) :
    readLine prompt world = answered world.console.input.head? (world.afterRead prompt) :=
  rfl

section Reading

variable {world : World} {prompt : String}

theorem readLine_of_line {line : String} (head : world.console.input.head? = some (some line)) :
    readLine prompt world = .ok line (world.afterRead prompt) := by
  rw [readLine_eq, head]
  rfl

theorem readLine_of_interrupt (head : world.console.input.head? = some none) :
    readLine prompt world = .error (.fault .keyboardInterrupt) (world.afterRead prompt) := by
  rw [readLine_eq, head]
  rfl

theorem readLine_of_nothing (head : world.console.input.head? = none) :
    readLine prompt world = .error (.fault .endOfInput) (world.afterRead prompt) := by
  rw [readLine_eq, head]
  rfl

end Reading

/--
A composed action does the same wherever the consoles resemble each other, and the only errors that
it ends in are those that it words itself.
-/
theorem Composed.parallel {action : Action α} (composed : Composed action) (semblance : Semblance) :
    Parallel (fun trouble trouble' => trouble = trouble' ∧ trouble.Worded) (fun _ => False)
      (World.Resembles semblance) action action := by
  induction composed with
  | pure res => exact Parallel.pure res
  | throw worded => exact Parallel.throw ⟨rfl, worded⟩
  | bind begun continued ihBegun ihContinued => exact Parallel.bind ihBegun ihContinued
  | recover tried mended ihTried ihMended =>
    apply Parallel.tryCatch ihTried
    rintro trouble _ ⟨rfl, worded⟩
    exact ihMended trouble worded
  | @ask α more blind continued ih =>
    intro one other akin
    have same : more one = more other := akin.eq_of_blind more blind
    change Alike _ _ _ (more one one) (more other other)
    rw [← same]
    exact ih one akin
  | @modifyGet α change aside =>
    intro one other akin
    have sameResult : (change one).1 = (change other).1 := by
      apply akin.eq_of_blind fun world => (change world).1
      intro world console
      rw [aside]
    have kept (world : World) : (change world).2.console = world.console :=
      congrArg (fun changed => changed.2.console) (aside world world.console)
    change Alike _ _ _ (.ok (change one).1 (change one).2) (.ok (change other).1 (change other).2)
    rw [sameResult]
    refine .ok _ ⟨?_, ?_⟩
    · apply akin.eq_of_blind fun world => (change world).2.withConsole {}
      intro world console
      rw [aside]
      rfl
    · rw [kept, kept]
      exact akin.consoles
  | print text =>
    intro one other akin
    exact .ok () ⟨akin.aside, semblance.print akin.consoles text⟩

theorem Composed.worded {action : Action α} (composed : Composed action) {world after : World}
    {trouble : Trouble} (ended : action world = .error trouble after) : trouble.Worded := by
  have alike := composed.parallel (.apart "" "") (World.Resembles.refl world)
  rw [ended] at alike
  cases alike with
  | error same linked => exact same.2
  | excuse granted ended other => cases granted

/--
Two actions that do the same wherever the consoles resemble each other, except that they may end in
different trouble.
-/
structure Matched (first second : Action α) : Prop where
  parallel : ∀ semblance : Semblance,
    Parallel (fun _ _ => True) semblance.Excuses (World.Resembles semblance) first second

namespace Matched

variable {first second : Action α}

@[grind ←]
theorem of_composed (composed : Composed first) : Matched first first := by
  constructor
  intro semblance one other akin
  exact (composed.parallel semblance akin).mono (fun _ => trivial) False.elim

@[grind ←]
theorem bind {next following : α → Action β} (begun : Matched first second)
    (continued : ∀ res, Matched (next res) (following res)) :
    Matched (first >>= next) (second >>= following) :=
  ⟨fun semblance => Parallel.bind (begun.parallel semblance) fun res =>
    (continued res).parallel semblance⟩

/-- Only here it matters what is left to be read. -/
theorem readLine (prompt : String) :
    Matched (Action.readLine prompt) (Action.readLine prompt) := by
  constructor
  intro semblance one other akin
  have prompted := semblance.print akin.consoles prompt
  have resemblingAfter (kept : semblance.consoles (one.console.print prompt).read.2
      (other.console.print prompt).read.2) :
      World.Resembles semblance (one.afterRead prompt) (other.afterRead prompt) :=
    ⟨akin.aside, kept⟩
  rcases semblance.read prompted with ⟨same, kept⟩ | ⟨lenient, nothing⟩
  · cases head : other.console.input.head? with
    | none =>
      rw [readLine_of_nothing (Eq.trans same head), readLine_of_nothing head]
      exact .error trivial (resemblingAfter kept)
    | some line =>
      cases line with
      | none =>
        rw [readLine_of_interrupt (Eq.trans same head), readLine_of_interrupt head]
        exact .error trivial (resemblingAfter kept)
      | some line =>
        rw [readLine_of_line (Eq.trans same head), readLine_of_line head]
        exact .ok line (resemblingAfter kept)
  · rw [show Action.readLine prompt other = _ from readLine_of_nothing nothing]
    exact .excuse ⟨lenient, rfl⟩ _ _

end Matched

end Action

end Spellbook

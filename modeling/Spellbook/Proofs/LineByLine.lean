import Spellbook.Proofs.Evaluation.Places
import Spellbook.Proofs.Parsing.Lines

/-!
# Line by line or as a whole

A session runs one source after the other on the same machine and shows the results of single
expressions. If no source fails, all of them as one script do the same, and print the same except
for these results.

The two runs are not compared directly, since their places differ. Each is compared with the run in
which all places are forgotten.
-/

namespace Spellbook

open List

variable {α : Type} {machine final mirror : Machine}

namespace Eval

theorem bind_eq_ok {β : Type} {body : Eval α} {next : α → Eval β} {res : β} :
    (body >>= next) machine = .ok res final ↔
      ∃ value middle, body machine = .ok value middle ∧ next value middle = .ok res final := by
  simp only [Bind.bind, EStateM.bind]
  cases body machine with
  | ok value middle =>
    constructor
    · intro ended
      exact ⟨value, middle, rfl, ended⟩
    · rintro ⟨_, _, ⟨⟩, ended⟩
      exact ended
  | error halt middle =>
    constructor
    · rintro ⟨⟩
    · rintro ⟨_, _, ⟨⟩, _⟩

theorem ofResult_eq_ok {read : Except Trouble α} {res : α} :
    ofResult read machine = .ok res final ↔ read = .ok res ∧ machine = final := by
  cases read with
  | ok value =>
    constructor
    · rintro ⟨⟩
      exact ⟨rfl, rfl⟩
    · rintro ⟨⟨⟩, rfl⟩
      rfl
  | error failure =>
    constructor
    · rintro ⟨⟩
    · rintro ⟨⟨⟩, _⟩

/-- Nodes are evaluated in order, however their list is divided. -/
theorem sequence_append {self : Node → Eval Value} {front back : List Node} {middle last : Machine}
    {value res : Value} (first : sequence self front machine = .ok value middle)
    (second : sequence self back middle = .ok res last) :
    ∃ res, sequence self (front ++ back) machine = .ok res last := by
  induction front generalizing machine with
  | nil =>
    cases first
    exact ⟨res, second⟩
  | cons node front ih =>
    cases front with
    | nil =>
      cases back with
      | nil =>
        cases second
        exact ⟨value, first⟩
      | cons next back => exact ⟨res, bind_eq_ok.mpr ⟨value, middle, first, second⟩⟩
    | cons next front =>
      obtain ⟨ignored, between, ended, others⟩ := bind_eq_ok.mp first
      obtain ⟨res, whole⟩ := ih others
      exact ⟨res, bind_eq_ok.mpr ⟨ignored, between, ended, whole⟩⟩

end Eval

namespace Machine

/-- All that was printed. -/
def printed (machine : Machine) : String := machine.world.console.printed

def printing (machine : Machine) (text : String) : Machine :=
  { machine with world := machine.world.withConsole (machine.world.console.print text) }

theorem printed_printing (machine : Machine) (text : String) :
    (machine.printing text).printed = machine.printed ++ text :=
  machine.world.console.printed_print text

theorem printing_empty (machine : Machine) : machine.printing "" = machine := by
  simp only [printing, Console.print, String.append_empty]
  rfl

/--
Two machines with the same variables and constants in all scopes, with the same spells up to places,
and with the same world apart from what was printed.
-/
structure Agrees (one other : Machine) : Prop where
  scopes : one.scopes = other.scopes
  closures : one.closures.map Closure.unplaced = other.closures.map Closure.unplaced
  world : one.world.quiet = other.world.quiet

/-- Two machines that were compared with the same machine without places. -/
theorem Agrees.of_mirrored {first first' second second' : String} {one other : Machine}
    (mirrored : Mirrored first first' one mirror)
    (alsoMirrored : Mirrored second second' other mirror) :
    one.Agrees other := by
  constructor
  · rw [← mirrored.scopes, alsoMirrored.scopes]
  · rw [← mirrored.closures, alsoMirrored.closures]
  · rw [mirrored.world.quiet_eq, alsoMirrored.world.quiet_eq]

/-- From here on the two machines print the same after different texts. -/
theorem Mirrored.anew (scopes : mirror.scopes = machine.scopes)
    (closures : mirror.closures = machine.closures.map Closure.unplaced)
    (quiet : machine.world.quiet = mirror.world.quiet) :
    Mirrored machine.printed mirror.printed machine mirror :=
  ⟨scopes, closures, quiet, "", String.append_empty.symm, String.append_empty.symm⟩

theorem sequence_mirrors {semblance : Semblance} (stmts : List Node) :
    Eval.Mirrors semblance (Eval.sequence evaluate stmts)
      (Eval.sequence evaluate (stmts.map Node.unplaced)) :=
  Eval.sequence_mirrors (Eval.run_mirrors ampleBudget) stmts

end Machine

namespace Session

open Eval Machine

variable {sources : List String}

/--
The line that shows the result of a program; it is empty unless the program is a single expression
with a value.
-/
def resultLine (program : Node) (res : Value) (store : Store) : Except Fault String :=
  match isExpression program, res with
  | false, _ | _, .void => .ok ""
  | true, res => do return (← store.shown res) ++ "\n"

/-- What is printed in a turn of a session: by the source itself, and to show its result. -/
structure Turn where
  said : String
  shown : String

/--
The turns in which a session runs sources.  In each of them the source is read and interpreted, and
its result is shown.
-/
inductive Turns : Machine → List String → List Turn → Machine → Prop where
  | done (machine : Machine) : Turns machine [] [] machine
  | next {machine middle final : Machine} {source : String} {sources : List String}
      {program : Node} {res : Value} {turn : Turn} {turns : List Turn}
      (read : readSource source = .ok program)
      (interpreted : interpret program machine = .ok res middle)
      (said : middle.printed = machine.printed ++ turn.said)
      (shown : resultLine program res middle.world.store = .ok turn.shown)
      (others : Turns (middle.printing turn.shown) sources turns final) :
      Turns machine (source :: sources) (turn :: turns) final

theorem store_bind (more : Store → Action α) (world : World) :
    (Action.store >>= more) world = more world.store world := rfl

def present (program : Node) (res : Value) : Eval Unit := fun machine =>
  match resultLine program res machine.world.store with
  | .ok line => .ok () (machine.printing line)
  | .error failure => fault failure machine

theorem execute_eq (source : String) :
    execute source =
      (do
        let program ← ofResult (readSource source)
        let res ← interpret program
        present program res) := by
  unfold execute present resultLine
  congr 1
  funext program
  congr 1
  funext res machine
  cases isExpression program with
  | false => exact congrArg (EStateM.Result.ok ()) machine.printing_empty.symm
  | true =>
    cases res with
    | void => exact congrArg (EStateM.Result.ok ()) machine.printing_empty.symm
    | _ =>
      simp only [act, store_bind]
      cases machine.world.store.shown _ <;> rfl

/-- An execution that does not fail reads the source, interprets it and shows its result. -/
theorem execute_eq_ok {source : String} (executed : execute source machine = .ok () final) :
    ∃ program res middle line, readSource source = .ok program ∧
      interpret program machine = .ok res middle ∧
        resultLine program res middle.world.store = .ok line ∧ final = middle.printing line := by
  rw [execute_eq] at executed
  obtain ⟨program, begun, readResult, executed⟩ := bind_eq_ok.mp executed
  obtain ⟨read, rfl⟩ := ofResult_eq_ok.mp readResult
  obtain ⟨res, middle, interpreted, presented⟩ := bind_eq_ok.mp executed
  cases shown : resultLine program res middle.world.store with
  | ok line =>
    rw [present, shown] at presented
    cases presented
    exact ⟨program, res, middle, line, read, interpreted, shown, rfl⟩
  | error failure =>
    rw [present, shown] at presented
    cases presented

theorem Turns.printed {turns : List Turn} (taken : Turns machine sources turns final) :
    final.printed =
      machine.printed ++ String.join (turns.map fun turn => turn.said ++ turn.shown) := by
  induction taken with
  | done machine => exact String.append_empty.symm
  | next read interpreted said shown others ih =>
    rw [ih, printed_printing, said, map_cons, String.join_cons, String.append_assoc,
      String.append_assoc, String.append_assoc]

/--
A session takes its turns while a machine without places runs the statements of all sources in one
go, and stays the same up to places and results that are shown.
-/
theorem exists_turns (mirrored : Mirrored machine.printed mirror.printed machine mirror)
    (executed : sources.forM execute machine = .ok () final) :
    ∃ (turns : List Turn) (programs : List (List Node)) (res : Value) (last : Machine),
      Turns machine sources turns final ∧
        sources.map readSource = programs.map (fun stmts => .ok (.program (.known 0 0) stmts)) ∧
        Eval.sequence evaluate (programs.flatten.map Node.unplaced) mirror = .ok res last ∧
          Mirrored final.printed last.printed final last ∧
            last.printed = mirror.printed ++ String.join (turns.map Turn.said) := by
  induction sources generalizing machine mirror with
  | nil =>
    cases executed
    exact ⟨[], [], .void, mirror, .done _, rfl, rfl, mirrored, String.append_empty.symm⟩
  | cons source sources ih =>
    obtain ⟨_, _, first, others⟩ := bind_eq_ok.mp executed
    obtain ⟨program, value, middle, line, read, interpreted, shown, rfl⟩ := execute_eq_ok first
    obtain ⟨-, items, -, -, -, -, -, -, -, -, rfl⟩ := readSource_eq_ok read
    -- The source runs alike without places.
    have alike := (sequence_mirrors (items.map Prod.snd)).parallel _ _ mirrored
    rw [show Eval.sequence evaluate (items.map Prod.snd) machine = .ok value middle from
      interpreted] at alike
    obtain ⟨between, ended, still⟩ := alike.of_left
    obtain ⟨said, saidHere, saidThere⟩ := still.world.printed
    -- Only the session shows the result; from then on the two have printed different texts.
    have after : Mirrored (middle.printing line).printed between.printed (middle.printing line)
        between :=
      .anew still.scopes still.closures still.world.quiet_eq
    rcases ih after others with ⟨turns, programs, res, last, taken, readOthers, endedOthers,
      mirroredLast, printedLast⟩
    obtain ⟨whole, endedAll⟩ := Eval.sequence_append ended endedOthers
    refine ⟨⟨said, line⟩ :: turns, items.map Prod.snd :: programs, whole, last,
      .next read interpreted saidHere shown taken, ?_, ?_, mirroredLast, ?_⟩
    · rw [map_cons, map_cons, read, readOthers]
    · rw [flatten_cons, map_append]
      exact endedAll
    · rw [printedLast, map_cons, String.join_cons, ← String.append_assoc]
      exact congrArg (· ++ _) saidThere

/--
If a session runs sources one after the other and none of them fails, then all of them on lines of
their own are one script that does not fail either, and it ends in an agreeing machine.  It prints
what the sources themselves print in their turns, while the session shows the result of each source
besides.
-/
theorem joined_runs_like_turns {sources : List String} {world : World} {final : Machine}
    (executed : sources.forM execute (start world) = .ok () final) :
    ∃ turns res last, Turns (start world) sources turns final ∧
      (do interpret (← ofResult (readSource (joined sources)))) (start world) = .ok res last ∧
        last.Agrees final ∧
          last.printed = (start world).printed ++ String.join (turns.map Turn.said) ∧
            final.printed = (start world).printed ++
              String.join (turns.map fun turn => turn.said ++ turn.shown) := by
  have begun : Mirrored (start world).printed (start world).printed (start world) (start world) :=
    .anew rfl Array.map_empty.symm rfl
  rcases exists_turns begun executed with ⟨turns, programs, res, mirror, taken, read, ended,
    mirrored, printedMirror⟩
  obtain ⟨all, readAll, same⟩ := readSource_joined read
  -- The run without places is that of the whole script as well as that of the session.
  have alike := (sequence_mirrors all).parallel _ _ begun
  rw [same, ended] at alike
  obtain ⟨last, endedLast, mirroredLast⟩ := alike.of_right
  obtain ⟨said, saidHere, saidThere⟩ := mirroredLast.world.printed
  refine ⟨turns, res, last, taken, ?_, .of_mirrored mirroredLast mirrored, ?_, taken.printed⟩
  · exact bind_eq_ok.mpr ⟨_, _, ofResult_eq_ok.mpr ⟨readAll, rfl⟩, endedLast⟩
  · exact (saidHere.trans saidThere.symm).trans printedMirror

/-- What a session prints in an empty world, if no source fails. -/
def output? (sources : List String) : Option String :=
  match sources.forM execute (start {}) with
  | .ok _ final => some final.printed
  | .error _ _ => none

theorem exists_of_output {text : String} (output : output? sources = some text) :
    ∃ final, sources.forM execute (start {}) = .ok () final ∧ final.printed = text := by
  unfold output? at output
  cases executed : sources.forM execute (start {}) with
  | ok _ final =>
    rw [executed] at output
    exact ⟨final, rfl, Option.some.inj output⟩
  | error halt final =>
    rw [executed] at output
    cases output

/-- A variable, a spell that prints, and a call of which the session shows the result. -/
def salute : List String :=
  ["conjure x as 'hi'", "spell f(n) \x7b\nscribe_line(n)\ncast n + '!'\n\x7d", "f(x)"]

theorem joined_runs_like_turns_salute :
    ∃ final, salute.forM execute (start {}) = .ok () final ∧ final.printed = "hi\n\"hi!\"\n" ∧
      ∃ turns res last, Turns (start {}) salute turns final ∧
        (do interpret (← ofResult (readSource (joined salute)))) (start {}) = .ok res last ∧
          last.Agrees final ∧
            last.printed = (start {}).printed ++ String.join (turns.map Turn.said) ∧
              final.printed = (start {}).printed ++
                String.join (turns.map fun turn => turn.said ++ turn.shown) := by
  have output : output? salute = some "hi\n\"hi!\"\n" := by decide +kernel
  obtain ⟨final, executed, printed⟩ := exists_of_output output
  exact ⟨final, executed, printed, joined_runs_like_turns executed⟩

end Session

end Spellbook

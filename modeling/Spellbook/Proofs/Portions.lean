import Spellbook.Proofs.Evaluation.Trace
import Spellbook.Proofs.LineByLine
import Spellbook.Proofs.Parsing.Continuation

/-!
# A script typed into a session

A session divides the lines that are typed into it by how each line begins and ends, and not by
where a statement ends. So a script that is fine as a whole is not always fine when it is typed: the
session stays without errors exactly if every portion can be read on its own and the results that it
shows can be written. Then it leaves the same as the whole script.
-/

namespace Spellbook

open List

variable {machine middle mirror last : Machine} {lines sources : List String} {source : String}
  {tree : Node} {value : Value}

/-! ## Sessions that tell what they run -/

namespace Told

variable {μ α β : Type}

/-- Carry out an evaluation; if it halts, go on with the halt. -/
def attempt (body : Told μ α) : Told μ (Except Halt α) := fun machine =>
  ((body machine).1, Eval.attempt (fun _ => (body machine).2) machine)

@[simp]
theorem plain_attempt (body : Told μ α) : plain (attempt body) = Eval.attempt (plain body) := rfl

theorem bind_eq_of_ok {body : Told μ α} {next : α → Told μ β} {told : List μ} {res : α}
    (ended : body machine = (told, .ok res middle)) :
    (body >>= next) machine = (told ++ (next res middle).1, (next res middle).2) := by
  simp only [Bind.bind, ended]

theorem silent_bind {body : Eval α} {next : α → Told μ β} {res : α}
    (ended : body machine = .ok res middle) :
    (silent body >>= next) machine = next res middle := by
  simp only [Bind.bind, silent, ended, nil_append]

/-- What was told is not lost in what follows. -/
theorem mem_bind {body : Told μ α} (next : α → Told μ β) {something : μ}
    (mem : something ∈ (body machine).1) :
    something ∈ ((body >>= next) machine).1 := by
  simp only [Bind.bind]
  generalize body machine = ended at mem ⊢
  rcases ended with ⟨told, res | halt⟩
  · exact mem_append_left _ mem
  · exact mem

end Told

namespace Session

open Eval Machine Told

/-- A source that was run, the halt in which that ended, if it did, and where it started. -/
structure Execution where
  source : String
  halt? : Option Halt
  start : Machine

/-- Run a source and tell how that ended. -/
def toldExecute (source : String) : Told Execution Unit := fun machine =>
  let ended := execute source machine
  ([⟨source, Eval.halt? ended, machine⟩], ended)

/-- Run a source and tell how that ended, and print the error it may end in. -/
def record (source : String) : Told Execution Unit := do
  match ← attempt (toldExecute source) with
  | .ok () => return
  | .error halt =>
    if halt.isScriptError then silent (act (Action.printLine halt.text)) else silent (throw halt)

def recordAll : List String → Told Execution Unit
  | [] => return
  | source :: sources => do
    record source
    recordAll sources

/-- Go on after something that was attempted. -/
def goOn {α : Type} (again : Told Execution Unit) (next : α → Told Execution Unit) :
    Except Halt α → Told Execution Unit
  | .ok res => next res
  | .error (.trouble (.fault .endOfInput)) => silent depart
  | .error (.trouble (.fault .keyboardInterrupt)) => again
  | .error halt => silent (throw halt)

/-- Read lines and react to them, with some lines in the buffer. -/
def chronicle : (fuel : Nat) → (buffer : List String) → Told Execution Unit
  | 0, _ => silent (throw .weary)
  | fuel + 1, buffer => do
    let again : Told Execution Unit := do
      silent interrupted
      chronicle fuel []
    let read ← silent (Eval.attempt (act (Action.readLine (prompt buffer))))
    goOn again (fun line =>
      match react buffer line with
      | .leave => silent (act (Action.printLine "The Slayer departs. Stay vigilant."))
      | .proceed sources rest => do
        let ended ← attempt (recordAll sources)
        goOn again (fun _ => chronicle fuel rest) ended) read

/-- A whole session, with what it runs. -/
def recordedRepl : Told Execution Unit := do
  silent (act (Action.print greeting))
  let machine ← silent get
  chronicle (machine.world.console.input.length + 1) []

/-- What a session runs, in order. -/
def executions (machine : Machine) : List Execution := (recordedRepl machine).1

section Forgetting

@[simp]
theorem plain_toldExecute (source : String) : plain (toldExecute source) = execute source := rfl

theorem plain_record (source : String) : plain (record source) = executeAndReport source := by
  rw [record, executeAndReport, plain_bind, plain_attempt, plain_toldExecute]
  congr 1
  funext ended
  cases ended with
  | ok => rfl
  | error halt =>
    dsimp only
    split <;> rfl

/-- One entry is told of a source, of the one time that it is run. -/
theorem record_eq (source : String) (machine : Machine) : record source machine =
    ([⟨source, Eval.halt? (execute source machine), machine⟩],
      executeAndReport source machine) := by
  refine Prod.ext ?_ (congrFun (plain_record source) machine)
  simp only [record, Bind.bind, Told.attempt, toldExecute, Eval.attempt]
  cases execute source machine with
  | ok res after => rfl
  | error halt after =>
    dsimp only
    split <;> rfl

@[simp]
theorem plain_recordAll (sources : List String) :
    plain (recordAll sources) = executeAll sources := by
  induction sources with
  | nil => rfl
  | cons source sources ih =>
    rw [recordAll, executeAll, plain_bind, plain_record, ih]

theorem plain_chronicle (fuel : Nat) (buffer : List String) :
    plain (chronicle fuel buffer) = converse fuel buffer := by
  induction fuel generalizing buffer with
  | zero => rfl
  | succ fuel ih =>
    have again : plain (do silent interrupted; chronicle fuel [] : Told Execution Unit) =
        (do interrupted; converse fuel []) := by
      rw [plain_bind, plain_silent, ih]
    rw [chronicle, converse, plain_bind, plain_silent]
    congr 1
    funext read
    cases read with
    | ok line =>
      dsimp only [goOn]
      cases react buffer line with
      | leave => rfl
      | proceed sources rest =>
        dsimp only
        rw [plain_bind, plain_attempt, plain_recordAll]
        congr 1
        funext ended
        cases ended with
        | ok res => exact ih rest
        | error halt =>
          cases halt with
          | trouble failure =>
            cases failure with
            | fault fault =>
              cases fault with
              | keyboardInterrupt => exact again
              | _ => rfl
            | _ => rfl
          | _ => rfl
    | error halt =>
      cases halt with
      | trouble failure =>
        cases failure with
        | fault fault =>
          cases fault with
          | keyboardInterrupt => exact again
          | _ => rfl
        | _ => rfl
      | _ => rfl

/-- A session that tells what it runs is the session, once that is forgotten. -/
theorem plain_recordedRepl : plain recordedRepl = repl := by
  simp only [recordedRepl, repl, plain_bind, plain_silent, plain_chronicle]

end Forgetting

/-! ## How lines are divided -/

/-- The sources into which a session divides lines, with some lines in the buffer. -/
def portions (buffer : List String) : List String → List String
  | [] => []
  | line :: lines =>
    match react buffer line with
    | .leave => []
    | .proceed sources rest => sources ++ portions rest lines

/-- A line that is neither blank nor a farewell. -/
structure IsPlain (line : String) : Prop where
  notBlank : (Unicode.trim line.toList).isEmpty = false
  notFarewell : isFarewell line.toList = false

instance (line : String) : Decidable (IsPlain line) :=
  decidable_of_iff ((Unicode.trim line.toList).isEmpty = false ∧ isFarewell line.toList = false)
    ⟨fun ⟨notBlank, notFarewell⟩ => ⟨notBlank, notFarewell⟩,
      fun ⟨notBlank, notFarewell⟩ => ⟨notBlank, notFarewell⟩⟩

theorem portions_cons {buffer rest : List String} {line : String}
    (proceeds : react buffer line = .proceed sources rest) :
    portions buffer (line :: lines) = sources ++ portions rest lines := by
  rw [portions, proceeds]

theorem react_empty (buffer : List String) :
    react buffer "" = .proceed (if buffer.isEmpty then [] else [joined buffer]) [] := rfl

/-- A line is taken into the buffer, or what is buffered is run before it. -/
theorem react_of_filled {buffer : List String} {line : String}
    (filled : (Unicode.trim line.toList).isEmpty = false)
    (stays : (isFarewell line.toList && buffer.isEmpty) = false) :
    react buffer line = .proceed [] (buffer ++ [line]) ∨
      react buffer line =
        .proceed ((if buffer.isEmpty then [] else [joined buffer]) ++ [line]) [] := by
  simp only [react, filled, stays, Bool.false_eq_true, if_false]
  by_cases opens : opensBlock line.toList = true
  · exact Or.inl (if_pos opens)
  · rw [if_neg opens]
    by_cases empty : buffer.isEmpty = true
    · rw [if_pos empty, if_pos empty]
      exact Or.inr rfl
    · rw [if_neg empty, if_neg empty]
      by_cases continues : continuesBlock line.toList = true
      · exact Or.inl (if_pos continues)
      · exact Or.inr (if_neg continues)

theorem react_of_plain (buffer : List String) {line : String} (plain : IsPlain line) :
    react buffer line = .proceed [] (buffer ++ [line]) ∨
      react buffer line =
        .proceed ((if buffer.isEmpty then [] else [joined buffer]) ++ [line]) [] :=
  react_of_filled plain.notBlank (by rw [plain.notFarewell, Bool.false_and])

/-- The sources are groups of the lines, each of them joined, and none of the lines is lost. -/
inductive Grouping : (lines sources : List String) → Prop where
  | nil : Grouping [] []
  | cons {group lines sources : List String} (nonempty : group ≠ [])
      (others : Grouping lines sources) : Grouping (group ++ lines) (joined group :: sources)

namespace Grouping

theorem append {furtherLines furtherSources : List String} (former : Grouping lines sources)
    (latter : Grouping furtherLines furtherSources) :
    Grouping (lines ++ furtherLines) (sources ++ furtherSources) := by
  induction former with
  | nil => exact latter
  | cons nonempty others ih =>
    rw [append_assoc, cons_append]
    exact .cons nonempty ih

theorem line (line : String) : Grouping [line] [line] := by
  have single := cons (cons_ne_nil line []) nil
  rwa [joined, String.intercalate_singleton] at single

/-- The buffer is a group of its own unless it is empty. -/
theorem buffer (buffer : List String) :
    Grouping buffer (if buffer.isEmpty then [] else [joined buffer]) := by
  cases buffer with
  | nil => exact nil
  | cons line buffer =>
    have single := cons (cons_ne_nil line buffer) nil
    rwa [append_nil] at single

/-- On lines of their own the sources are the same as the lines. -/
theorem joined_eq (grouping : Grouping lines sources) : joined sources = joined lines := by
  induction grouping with
  | nil => rfl
  | cons nonempty others ih =>
    cases others with
    | nil =>
      rw [append_nil]
      exact String.intercalate_singleton
    | cons nonemptyNext others =>
      rw [joined_append nonempty (append_ne_nil_of_left_ne_nil nonemptyNext _), ← ih]
      exact String.intercalate_cons_cons

end Grouping

/-- An empty line ends the last portion. -/
theorem portions_grouping (plain : ∀ line ∈ lines, IsPlain line) (buffer : List String) :
    Grouping (buffer ++ lines) (portions buffer (lines ++ [""])) := by
  induction lines generalizing buffer with
  | nil =>
    rw [append_nil, nil_append, portions_cons (react_empty buffer), portions, append_nil]
    exact .buffer buffer
  | cons line lines ih =>
    obtain ⟨first, others⟩ := forall_mem_cons.mp plain
    rcases react_of_plain buffer first with taken | run
    · rw [append_cons, cons_append, portions_cons taken, nil_append]
      exact ih others (buffer ++ [line])
    · rw [append_cons, cons_append, portions_cons run]
      exact ((Grouping.buffer buffer).append (.line line)).append (ih others [])

/-- On lines of their own the portions are the script. -/
theorem joined_portions (plain : ∀ line ∈ lines, IsPlain line) :
    joined (portions [] (lines ++ [""])) = joined lines :=
  (portions_grouping plain []).joined_eq

end Session

/-! ## Portions of a script that runs -/

namespace Eval

variable {front : List Node} {self : Node → Eval Value} {machine last : Machine} {value : Value}

theorem sequence_of_append {back : List Node}
    (ended : sequence self (front ++ back) machine = .ok value last) :
    ∃ value middle res, sequence self front machine = .ok value middle ∧
      sequence self back middle = .ok res last := by
  induction front generalizing machine with
  | nil => exact ⟨.void, machine, value, rfl, ended⟩
  | cons node front ih =>
    cases front with
    | nil =>
      cases back with
      | nil => exact ⟨value, last, .void, ended, rfl⟩
      | cons next back =>
        obtain ⟨first, middle, begun, others⟩ := bind_eq_ok.mp ended
        exact ⟨first, middle, value, begun, others⟩
    | cons next front =>
      obtain ⟨first, between, begun, others⟩ := bind_eq_ok.mp ended
      obtain ⟨second, middle, res, front, back⟩ := ih others
      exact ⟨second, middle, res, bind_eq_ok.mpr ⟨first, between, begun, front⟩, back⟩

/-- Without its last branches a conditional still ends, if it ends with them. -/
theorem firstBranch_shorter {otherwise : Option (List Node)}
    {branches more : List (Node × List Node)}
    (ended : firstBranch self otherwise (branches ++ more) machine = .ok value last) :
    ∃ value last, firstBranch self none branches machine = .ok value last := by
  induction branches generalizing machine with
  | nil => exact ⟨.void, machine, rfl⟩
  | cons branch branches ih =>
    obtain ⟨holds, middle, tested, ended⟩ := bind_eq_ok.mp ended
    cases holds with
    | true => exact ⟨value, last, bind_eq_ok.mpr ⟨true, middle, tested, ended⟩⟩
    | false =>
      obtain ⟨value, last, ended⟩ := ih ended
      exact ⟨value, last, bind_eq_ok.mpr ⟨false, middle, tested, ended⟩⟩

/-- Statements with which a script begins run, if the script does. -/
theorem sequence_continued {fuel : Nat} {whole : List Node}
    (continued : Node.Continued front whole)
    (ended : sequence (run fuel) whole machine = .ok value last) :
    ∃ value last, sequence (run fuel) front machine = .ok value last := by
  induction continued generalizing machine value with
  | anew others => exact ⟨.void, machine, rfl⟩
  | next node continued ih =>
    rcases sequence_of_append (singleton_append ▸ ended) with
      ⟨first, middle, res, begun, others⟩
    obtain ⟨second, last, ended⟩ := ih others
    obtain ⟨res, ended⟩ := sequence_append begun ended
    exact ⟨res, last, ended⟩
  | branches place cond outcome alts more otherwise others =>
    rcases sequence_of_append (singleton_append ▸ ended) with
      ⟨first, middle, res, begun, -⟩
    cases fuel with
    | zero => cases begun
    | succ fuel => exact firstBranch_shorter begun

end Eval

namespace Session

open Eval Machine Told

/-- Sources that run one after the other without places, as far as they can be read. -/
def Steady : List String → Machine → Prop
  | [], _ => True
  | source :: sources, mirror =>
    ∀ stmts, readSource source = .ok (.program (.known 0 0) stmts) →
      ∃ value middle, Eval.sequence evaluate (stmts.map Node.unplaced) mirror =
        .ok value middle ∧ Steady sources middle

theorem exists_statements (read : readSource source = .ok tree) :
    ∃ stmts, tree = .program (.known 0 0) stmts := by
  obtain ⟨-, items, -, -, -, -, -, -, -, -, same⟩ := readSource_eq_ok read
  exact ⟨_, same⟩

/-- The portions of a script that runs are steady. -/
theorem steady_of_whole {front back : List String} {programs : List (List Node)} {all : List Node}
    {res : Value}
    (read : front.map readSource = programs.map fun stmts => .ok (.program (.known 0 0) stmts))
    (whole : readSource (joined (front ++ back)) = .ok (.program (.known 0 0) all))
    (ended : Eval.sequence evaluate (all.map Node.unplaced) mirror = .ok value last)
    (begun : Eval.sequence evaluate (programs.flatten.map Node.unplaced) mirror =
      .ok res middle) :
    Steady back middle := by
  induction back generalizing front programs middle res with
  | nil => trivial
  | cons source back ih =>
    intro stmts readNext
    have readMore : (front ++ [source]).map readSource =
        (programs ++ [stmts]).map fun stmts =>
          .ok (.program (.known 0 0) stmts) := by
      rw [map_append, map_append, read, map_singleton, readNext]
      rfl
    have again : readSource (joined ((front ++ [source]) ++ back)) =
        .ok (.program (.known 0 0) all) := by
      rw [append_assoc]
      exact whole
    rcases sequence_continued (readSource_joined_continued readMore again) ended with
      ⟨res, last, together⟩
    have parts := together
    rw [flatten_append, map_append] at parts
    obtain ⟨_, _, next, begunAgain, endedNext⟩ := sequence_of_append parts
    cases begun.symm.trans begunAgain
    rw [flatten_cons, flatten_nil, append_nil] at endedNext
    exact ⟨next, last, endedNext, ih readMore again together⟩

end Session

/-! ## Machines with lines left to be read -/

namespace Machine

variable {one other : Machine}

theorem Agrees.trans {third : Machine} (former : one.Agrees other) (latter : other.Agrees third) :
    one.Agrees third :=
  ⟨former.scopes.trans latter.scopes, former.closures.trans latter.closures,
    former.world.trans latter.world⟩

theorem Agrees.of_resembles (akin : Resembles (.untouched []) one mirror)
    (alsoResembling : Resembles (.untouched []) other mirror) :
    one.Agrees other := by
  constructor
  · rw [← akin.scopes, alsoResembling.scopes]
  · rw [← akin.closures, alsoResembling.closures]
  · obtain ⟨aside, noInput, -, errors⟩ := akin.world
    obtain ⟨alsoAside, alsoNoInput, -, alsoErrors⟩ := alsoResembling.world
    have sameConsole : one.world.console.clear = other.world.console.clear := by
      simp only [Console.clear, noInput, alsoNoInput, errors, alsoErrors]
    rw [World.quiet, World.quiet, sameConsole]
    exact congrArg (·.withConsole other.world.console.clear) (aside.trans alsoAside.symm)

/-- A machine that has run nothing yet has no places to forget. -/
theorem mirrored_start (world : World) :
    Mirrored (start world).printed (start world).printed (start world) (start world) :=
  .anew rfl Array.map_empty.symm rfl

namespace Resembles

variable {input : List (Option String)} {machine mirror : Machine}
  (akin : Resembles (.untouched input) machine mirror)

include akin

theorem printing (text : String) : Resembles (.untouched input) (machine.printing text) mirror :=
  ⟨akin.scopes, akin.closures, akin.world.aside, akin.world.consoles⟩

theorem store_eq : machine.world.store = mirror.world.store :=
  akin.world.eq_of_blind World.store fun _ _ => rfl

/-- What the machine without places can run, the other one can run too. -/
theorem interpret {stmts : List Node}
    (ended : Eval.sequence evaluate (stmts.map Node.unplaced) mirror = .ok value middle)
    (place : Place) :
    ∃ machine', Machine.interpret (.program place stmts) machine = .ok value machine' ∧
      Resembles (.untouched input) machine' middle := by
  have alike := sequence_mirrors stmts akin
  rw [ended] at alike
  exact alike.of_right

end Resembles

end Machine

namespace Session

open Eval Machine Told

variable {input : List String} {session plain : Machine}

/-! ## A session beside a run without input -/

/--
A session with lines left to be read, and a machine without input that ran the same sources.  They
are compared with a machine without places.
-/
structure Abreast (input : List String) (session plain mirror : Machine) : Prop where
  session : Machine.Resembles (.untouched (input.map some)) session mirror
  plain : Machine.Resembles (.untouched []) plain mirror

/-- No source halted. -/
def Smooth (executions : List Execution) : Prop := ∀ execution ∈ executions, execution.halt? = none

instance (executions : List Execution) : Decidable (Smooth executions) :=
  inferInstanceAs (Decidable (∀ execution ∈ executions, execution.halt? = none))

section Execution

variable {source : String} {program : Node} {machine middle : Machine} {value : Value}

theorem execute_of_unread {failure : Trouble} (unread : readSource source = .error failure)
    (machine : Machine) : execute source machine = .error (.trouble failure) machine := by
  rw [execute_eq, unread]
  rfl

theorem execute_of_read (read : readSource source = .ok program)
    (interpreted : interpret program machine = .ok value middle) :
    execute source machine = present program value middle := by
  rw [execute_eq, read]
  exact bind_of_ok interpreted

theorem record_of_ok (executed : execute source machine = .ok () middle) :
    record source machine = ([⟨source, none, machine⟩], .ok () middle) := by
  have attempted : Eval.attempt (execute source) machine = .ok (.ok ()) middle := by
    rw [Eval.attempt, executed]
  rw [record_eq, executed, executeAndReport, bind_of_ok attempted]
  rfl

end Execution

/-- A source runs in both without halting, or halts in both. -/
theorem Abreast.execute (abreast : Abreast input session plain mirror)
    (steady : Steady (source :: sources) mirror) :
    (∃ session' plain' middle, Session.execute source session = .ok () session' ∧
        Session.execute source plain = .ok () plain' ∧ Abreast input session' plain' middle ∧
          Steady sources middle) ∨
      ∃ halt session' halt' plain', Session.execute source session = .error halt session' ∧
        Session.execute source plain = .error halt' plain' := by
  cases read : readSource source with
  | error failure =>
    exact Or.inr ⟨_, _, _, _, execute_of_unread read session, execute_of_unread read plain⟩
  | ok tree =>
    obtain ⟨stmts, rfl⟩ := exists_statements read
    obtain ⟨value, middle, ended, more⟩ := steady stmts read
    obtain ⟨session', sessionEnded, here⟩ := abreast.session.interpret ended (.known 0 0)
    obtain ⟨plain', plainEnded, there⟩ := abreast.plain.interpret ended (.known 0 0)
    rw [execute_of_read read sessionEnded, execute_of_read read plainEnded, present, present,
      here.store_eq, there.store_eq]
    cases resultLine _ value middle.world.store with
    | ok line =>
      exact Or.inl ⟨_, _, middle, rfl, rfl, ⟨here.printing line, there.printing line⟩, more⟩
    | error failure => exact Or.inr ⟨_, _, _, _, rfl, rfl⟩

/-- Sources run in both without halting, or one of them halts in both. -/
theorem Abreast.recordAll (abreast : Abreast input session plain mirror) {others : List String}
    (steady : Steady (sources ++ others) mirror) :
    (∃ told session' plain' middle, Session.recordAll sources session = (told, .ok () session') ∧
        Smooth told ∧ sources.forM Session.execute plain = .ok () plain' ∧
          Abreast input session' plain' middle ∧ Steady others middle) ∨
      (¬ Smooth (Session.recordAll sources session).1 ∧
        ∃ halt plain', sources.forM Session.execute plain = .error halt plain') := by
  induction sources generalizing session plain mirror with
  | nil =>
    refine Or.inl ⟨[], session, plain, mirror, rfl, ?_, rfl, abreast, steady⟩
    intro execution mem
    cases mem
  | cons source sources ih =>
    rcases abreast.execute steady with
      ⟨session', plain', middle, here, there, still, more⟩ | ⟨halt, session', halt', plain',
        here, there⟩
    · have whole : Session.recordAll (source :: sources) session =
          (⟨source, none, session⟩ :: (Session.recordAll sources session').1,
            (Session.recordAll sources session').2) :=
        bind_eq_of_ok (record_of_ok here)
      have plainWhole : (source :: sources).forM Session.execute plain =
          sources.forM Session.execute plain' :=
        bind_of_ok there
      rw [whole, plainWhole]
      rcases ih still more with ⟨told, session', plain', middle, recorded, smooth, executed,
        still, more⟩ | ⟨rough, halted⟩
      · rw [recorded]
        refine Or.inl ⟨_, session', plain', middle, rfl, ?_, executed, still, more⟩
        exact forall_mem_cons.mpr ⟨rfl, smooth⟩
      · refine Or.inr ⟨?_, halted⟩
        intro smooth
        exact rough (forall_mem_cons.mp smooth).2
    · refine Or.inr ⟨?_, halt', plain', ?_⟩
      · intro smooth
        have told : (⟨source, some halt, session⟩ : Execution) ∈ (record source session).1 := by
          rw [record_eq, here]
          exact mem_singleton_self _
        cases smooth _ (mem_bind _ told)
      · exact bind_of_error there

/-! ## Whole sessions -/

theorem react_proceeds (buffer : List String) {line : String}
    (notFarewell : isFarewell line.toList = false) :
    ∃ sources rest, react buffer line = .proceed sources rest := by
  simp only [react, notFarewell, Bool.false_and, Bool.false_eq_true, if_false]
  split
  · exact ⟨_, _, rfl⟩
  split
  · exact ⟨_, _, rfl⟩
  split
  · exact ⟨_, _, rfl⟩
  split
  · exact ⟨_, _, rfl⟩
  · exact ⟨_, _, rfl⟩

/-- The machine after a line was asked for. -/
def asked (machine : Machine) (buffer : List String) : Machine :=
  { machine with world := machine.world.afterRead (prompt buffer) }

theorem resembles_asked {input : List (Option String)}
    (akin : Machine.Resembles (.untouched input) machine mirror) (buffer : List String) :
    Machine.Resembles (.untouched input.tail) (asked machine buffer) mirror := by
  obtain ⟨aside, left, empty, errors⟩ := akin.world
  exact ⟨akin.scopes, akin.closures, aside, congrArg List.tail left, empty, errors⟩

theorem Abreast.ask {line : String} (abreast : Abreast (line :: input) session plain mirror)
    (buffer : List String) :
    Eval.attempt (act (Action.readLine (prompt buffer))) session =
        .ok (.ok line) (asked session buffer) ∧
      Abreast input (asked session buffer) plain mirror := by
  refine ⟨?_, resembles_asked abreast.session buffer, abreast.plain⟩
  have head : session.world.console.input.head? = some (some line) :=
    congrArg List.head? abreast.session.world.consoles.1
  rw [Eval.attempt, act, Action.readLine_of_line head]
  rfl

theorem Abreast.depart (abreast : Abreast [] session plain mirror) (buffer : List String) :
    ∃ final, chronicle 1 buffer session = ([], .ok () final) ∧ final.Agrees plain := by
  have attempted : Eval.attempt (act (Action.readLine (prompt buffer))) session =
      .ok (.error (.trouble (.fault .endOfInput))) (asked session buffer) := by
    have head : session.world.console.input.head? = none :=
      congrArg List.head? abreast.session.world.consoles.1
    rw [Eval.attempt, act, Action.readLine_of_nothing head]
    rfl
  let words := "\nThe Slayer departs. Stay vigilant." ++ "\n"
  refine ⟨(asked session buffer).printing words, ?_, ?_⟩
  · rw [chronicle, silent_bind attempted]
    rfl
  · exact .of_resembles ((resembles_asked abreast.session buffer).printing words) abreast.plain

/-- A session stays without errors if its portions run one after the other, and only then. -/
theorem Abreast.chronicle {buffer : List String}
    (notFarewell : ∀ line ∈ input, isFarewell line.toList = false)
    (abreast : Abreast input session plain mirror)
    (steady : Steady (portions buffer input) mirror) :
    (∃ told final plain', Session.chronicle (input.length + 1) buffer session =
        (told, .ok () final) ∧ Smooth told ∧
          (portions buffer input).forM Session.execute plain = .ok () plain' ∧
            final.Agrees plain') ∨
      (¬ Smooth (Session.chronicle (input.length + 1) buffer session).1 ∧
        ∃ halt plain',
          (portions buffer input).forM Session.execute plain = .error halt plain') := by
  induction input generalizing buffer session plain mirror with
  | nil =>
    obtain ⟨final, told, agrees⟩ := abreast.depart buffer
    refine Or.inl ⟨[], final, plain, told, ?_, rfl, agrees⟩
    intro execution mem
    cases mem
  | cons line input ih =>
    obtain ⟨first, others⟩ := forall_mem_cons.mp notFarewell
    obtain ⟨attempted, next⟩ := abreast.ask buffer
    obtain ⟨sources, rest, proceeds⟩ := react_proceeds buffer first
    rw [portions_cons proceeds] at steady ⊢
    have begun : Session.chronicle (input.length + 1 + 1) buffer session =
        (Told.attempt (Session.recordAll sources) >>= goOn
          (do silent interrupted; Session.chronicle (input.length + 1) [])
          fun _ => Session.chronicle (input.length + 1) rest) (asked session buffer) := by
      rw [Session.chronicle, silent_bind attempted, goOn, proceeds]
    have divided : (sources ++ portions rest input).forM Session.execute =
        (sources.forM Session.execute >>= fun _ => (portions rest input).forM Session.execute) :=
      forM_append
    rw [length_cons, begun, divided]
    rcases next.recordAll steady with ⟨told, session', plain', middle, recorded, smooth, executed,
      still, more⟩ | ⟨rough, halt, plain', halted⟩
    · have ended : Told.attempt (Session.recordAll sources) (asked session buffer) =
          (told, .ok (.ok ()) session') := by
        rw [Told.attempt, recorded]
        rfl
      rw [bind_eq_of_ok ended, bind_of_ok executed]
      rcases ih others still more with ⟨later, final, plainFinal, recorded, smoothLater,
        executed, agrees⟩ | ⟨rough, halted⟩
      · refine Or.inl ⟨told ++ later, final, plainFinal, ?_, ?_, executed, agrees⟩
        · rw [goOn, recorded]
        · exact forall_mem_append.mpr ⟨smooth, smoothLater⟩
      · refine Or.inr ⟨?_, halted⟩
        intro smooth
        exact rough (forall_mem_append.mp smooth).2
    · refine Or.inr ⟨?_, halt, plain', bind_of_error halted⟩
      intro smooth
      apply rough
      intro execution mem
      exact smooth execution (mem_bind _ mem)

/-- The results that are shown can all be written, when the sources run one after the other. -/
def Showable : List String → Machine → Prop
  | [], _ => True
  | source :: sources, machine =>
    ∀ program res middle, readSource source = .ok program →
      interpret program machine = .ok res middle →
        ∃ line, resultLine program res middle.world.store = .ok line ∧
          Showable sources (middle.printing line)

/-- Steady sources run one after the other if they can be read and their results can be shown. -/
theorem Steady.forM_execute_iff (steady : Steady sources mirror)
    (akin : Machine.Resembles (.untouched []) machine mirror) :
    (∃ final, sources.forM execute machine = .ok () final) ↔
      (∀ source ∈ sources, ∃ tree, readSource source = .ok tree) ∧ Showable sources machine := by
  induction sources generalizing machine mirror with
  | nil =>
    constructor
    · intro executed
      exact ⟨fun source mem => (not_mem_nil mem).elim, trivial⟩
    · intro conditions
      exact ⟨machine, rfl⟩
  | cons source sources ih =>
    have runs {tree : Node} (read : readSource source = .ok tree) :
        ∃ value middle between, interpret tree machine = .ok value middle ∧
          Steady sources between ∧
            ∀ line, Machine.Resembles (.untouched []) (middle.printing line) between := by
      obtain ⟨stmts, rfl⟩ := exists_statements read
      obtain ⟨value, between, ended, more⟩ := steady stmts read
      obtain ⟨middle, interpreted, still⟩ := akin.interpret ended (.known 0 0)
      exact ⟨value, middle, between, interpreted, more, still.printing⟩
    constructor
    · rintro ⟨final, executed⟩
      obtain ⟨_, _, first, others⟩ := bind_eq_ok.mp executed
      obtain ⟨program, res, middle, line, read, interpreted, shown, rfl⟩ := execute_eq_ok first
      obtain ⟨_, _, between, again, more, still⟩ := runs read
      cases interpreted.symm.trans again
      obtain ⟨readOthers, showable⟩ := (ih more (still line)).mp ⟨final, others⟩
      refine ⟨forall_mem_cons.mpr ⟨⟨program, read⟩, readOthers⟩, ?_⟩
      intro program' res' middle' readAgain interpretedAgain
      cases read.symm.trans readAgain
      cases interpreted.symm.trans interpretedAgain
      exact ⟨line, shown, showable⟩
    · rintro ⟨readAll, showable⟩
      obtain ⟨⟨program, read⟩, readOthers⟩ := forall_mem_cons.mp readAll
      obtain ⟨value, middle, between, interpreted, more, still⟩ := runs read
      obtain ⟨line, shown, showableOthers⟩ := showable program value middle read interpreted
      obtain ⟨final, others⟩ := (ih more (still line)).mpr ⟨readOthers, showableOthers⟩
      have executed : execute source machine = .ok () (middle.printing line) := by
        rw [execute_of_read read interpreted, present, shown]
      exact ⟨final, bind_eq_ok.mpr ⟨(), middle.printing line, executed, others⟩⟩

end Session

/-- The world in which lines were typed that are still to be read. -/
def World.typing (world : World) (lines : List String) : World :=
  world.withConsole { world.console with input := lines.map some }

namespace Session

open Eval Machine Told

variable {world : World}

theorem abreast_start (noInput : world.console.input = []) (lines : List String) (text : String) :
    Abreast lines ((start (world.typing lines)).printing text) (start world) (start world) := by
  have typed : Machine.Resembles (.untouched (lines.map some)) (start (world.typing lines))
      (start world) :=
    ⟨rfl, Array.map_empty.symm, rfl, rfl, noInput, rfl⟩
  exact ⟨typed.printing text, rfl, Array.map_empty.symm, rfl, noInput, noInput, rfl⟩

theorem input_start_typing (world : World) (lines : List String) :
    (start (world.typing lines)).world.console.input = lines.map some := rfl

theorem act_print (text : String) (machine : Machine) :
    act (Action.print text) machine = .ok () (machine.printing text) := rfl

theorem recordedRepl_eq (machine : Machine) :
    recordedRepl machine = chronicle (machine.world.console.input.length + 1) []
      (machine.printing greeting) := by
  have asked : (get : Eval Machine) (machine.printing greeting) =
      .ok (machine.printing greeting) (machine.printing greeting) := rfl
  rw [recordedRepl, silent_bind (act_print greeting machine), silent_bind asked]
  rfl

/-- Sources that run one after the other do the same as the script that they make up. -/
theorem agrees_of_forM {final : Machine}
    (executed : sources.forM execute (start world) = .ok () final)
    (read : readSource (joined sources) = .ok tree)
    (ended : interpret tree (start world) = .ok value last) :
    final.Agrees last := by
  rcases exists_turns (mirrored_start world) executed with ⟨-, programs, res, mirror, -, readAll,
    endedMirror, mirrored, -⟩
  obtain ⟨all, readJoined, same⟩ := readSource_joined readAll
  cases read.symm.trans readJoined
  have alike := (sequence_mirrors all).parallel _ _ (mirrored_start world)
  rw [same, endedMirror] at alike
  obtain ⟨_, endedAgain, mirroredLast⟩ := alike.of_right
  cases ended.symm.trans endedAgain
  exact .of_mirrored mirrored mirroredLast

theorem steady_portions {program : Node} (plain : ∀ line ∈ lines, IsPlain line)
    (read : readSource (joined lines) = .ok program)
    (ended : interpret program (start world) = .ok value last) :
    Steady (portions [] (lines ++ [""])) (start world) := by
  obtain ⟨all, rfl⟩ := exists_statements read
  have alike := (sequence_mirrors all).parallel _ _ (mirrored_start world)
  rw [show Eval.sequence evaluate all (start world) = .ok value last from ended] at alike
  obtain ⟨mirror, endedMirror, -⟩ := alike.of_left
  rw [← joined_portions plain] at read
  exact @steady_of_whole (start world) (start world) mirror value [] _ [] all .void rfl read
    endedMirror rfl

/--
A script is typed into a session line by line, with an empty line after it; none of its lines is
blank or a farewell, and as a whole it runs without reading input.  The session runs every source
without a halt and leaves the same as the script exactly if every portion into which it divides the
lines can be read on its own, and the results that it shows can be written.
-/
theorem repl_agrees_iff {lines : List String} {world : World} {program : Node} {value : Value}
    {last : Machine} (plain : ∀ line ∈ lines, IsPlain line) (noInput : world.console.input = [])
    (read : readSource (joined lines) = .ok program)
    (ended : interpret program (start world) = .ok value last) :
    (∃ final, repl (start (world.typing (lines ++ [""]))) = .ok () final ∧
        Smooth (executions (start (world.typing (lines ++ [""])))) ∧ final.Agrees last) ↔
      (∀ portion ∈ portions [] (lines ++ [""]), ∃ tree, readSource portion = .ok tree) ∧
        Showable (portions [] (lines ++ [""])) (start world) := by
  have abreast := abreast_start noInput (lines ++ [""]) greeting
  have notFarewell : ∀ line ∈ lines ++ [""], isFarewell line.toList = false := by
    intro line member
    rcases mem_append.mp member with typed | empty
    · exact (plain line typed).notFarewell
    · rw [mem_singleton.mp empty]
      rfl
  have steady := steady_portions plain read ended
  rw [← steady.forM_execute_iff abreast.plain, ← plain_recordedRepl, Told.plain, executions,
    recordedRepl_eq, input_start_typing, length_map]
  rcases abreast.chronicle notFarewell steady with ⟨told, final, plainFinal, recorded, smooth,
    executed, agrees⟩ | ⟨rough, halt, plainFinal, halted⟩
  · rw [recorded]
    constructor
    · intro tidy
      exact ⟨plainFinal, executed⟩
    · intro runs
      have whole := joined_portions plain ▸ read
      exact ⟨final, rfl, smooth, agrees.trans (agrees_of_forM executed whole ended)⟩
  · constructor
    · rintro ⟨final, -, smooth, -⟩
      cases rough smooth
    · rintro ⟨final, executed⟩
      cases halted.symm.trans executed

/-- Can a source be read and run in an empty world? -/
def finishes (source : String) : Bool :=
  match readSource source with
  | .ok program => (Eval.halt? (interpret program (start {}))).isNone
  | .error _ => false

theorem exists_of_finishes (done : finishes source = true) :
    ∃ program value last, readSource source = .ok program ∧
      interpret program (start {}) = .ok value last := by
  unfold finishes at done
  cases read : readSource source with
  | error failure =>
    rw [read] at done
    cases done
  | ok program =>
    rw [read] at done
    dsimp only at done
    cases ended : interpret program (start {}) with
    | ok value last => exact ⟨program, value, last, rfl, ended⟩
    | error halt last =>
      rw [ended] at done
      cases done

/--
A spell whose first line ends with a colon, in a comment, and whose other lines are indented, and a
sum.
-/
def indented : List String := ["spell f() \x7b ~ one:", " cast 1", " \x7d", "2 + 3"]

theorem repl_agrees_iff_indented :
    (∀ line ∈ indented, IsPlain line) ∧
      ∃ program value last, readSource (joined indented) = .ok program ∧
        interpret program (start {}) = .ok value last ∧
          Smooth (executions (start (({} : World).typing (indented ++ [""])))) ∧
            ((∃ final, repl (start (({} : World).typing (indented ++ [""]))) = .ok () final ∧
                Smooth (executions (start (({} : World).typing (indented ++ [""])))) ∧
                  final.Agrees last) ↔
              (∀ portion ∈ portions [] (indented ++ [""]), ∃ tree, readSource portion = .ok tree) ∧
                Showable (portions [] (indented ++ [""])) (start {})) := by
  have plain : ∀ line ∈ indented, IsPlain line := by decide +kernel
  have smooth : Smooth (executions (start (({} : World).typing (indented ++ [""])))) := by
    decide +kernel
  rcases exists_of_finishes (show finishes (joined indented) = true by decide +kernel) with
    ⟨program, value, last, read, ended⟩
  exact ⟨plain, program, value, last, read, ended, smooth, repl_agrees_iff plain rfl read ended⟩

/-- A spell on three lines. -/
def bracedSpell : List String := ["spell f() \x7b", "cast 1", "\x7d"]

/-- A script that is fine as a whole, while a session that is given its lines halts at a source. -/
theorem bracedSpell_halts :
    (∀ line ∈ bracedSpell, IsPlain line) ∧
      (∃ program value last, readSource (joined bracedSpell) = .ok program ∧
        interpret program (start {}) = .ok value last) ∧
        ¬ Smooth (executions (start (({} : World).typing (bracedSpell ++ [""])))) := by
  refine ⟨by decide +kernel, exists_of_finishes (by decide +kernel), ?_⟩
  -- Its first line is a source that cannot be read.
  have first : (executions (start (({} : World).typing (bracedSpell ++ [""])))).head?.any
      (·.halt?.isSome) = true := by
    decide +kernel
  obtain ⟨execution, isFirst, halted⟩ := (Option.any_eq_true _ _).mp first
  intro smooth
  rw [smooth execution (mem_of_head? isFirst)] at halted
  cases halted

end Session

end Spellbook

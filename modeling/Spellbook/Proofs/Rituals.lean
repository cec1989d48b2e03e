import Spellbook.Builtin.Oracle
import Spellbook.Proofs.World.Passage

/-!
# Rituals

A statement that is carried out waits in a ledger until a commit makes it durable or a rollback
discards it. Reading calls add nothing but what waits. A decree commits as soon as its statement was
carried out, whether or not a ritual is going on (`Call.conducted`). So the end of the ritual
decides only about what no decree has committed.
-/

namespace Spellbook

open List

def Event.database? : Event → Option DatabaseEvent
  | database event => some event
  | _ => none

/-- What the database was asked, the earliest first. -/
def World.asked (world : World) : List DatabaseEvent :=
  world.journal.reverse.filterMap Event.database?

def World.askedUntil (world later : World) : List DatabaseEvent :=
  later.asked.drop world.asked.length

namespace Ritual

open Spellbook.Action

variable {world after : World} {event : DatabaseEvent} {words : String} {database : Option Database}
  {calls : List Call}

/-! ## The database -/

/-- Why the database refuses what it is asked, if it does. -/
def refusal? (database : Option Database) (event : DatabaseEvent) : Option String :=
  match database with
  | none => none
  | some database =>
    match database.outage with
    | some reason => some reason
    | none => if database.failOn == some event.name then some (event.name ++ " failed") else none

/-- Does the database do what it is asked? -/
def grants (database : Option Database) (event : DatabaseEvent) : Bool :=
  (refusal? database event).isNone

/-- The answer to the next query. -/
def answer : Option Database → QueryResult
  | none => {}
  | some database => database.results.headD {}

/-- The database without that answer. -/
def spent (database : Option Database) : Option Database :=
  database.map fun database => { database with results := database.results.tail }

@[simp]
theorem grants_spent (database : Option Database) (event : DatabaseEvent) :
    grants (spent database) event = grants database event := by
  cases database <;> rfl

/-- The database after an event.  Only a query takes something from it, its answer. -/
def heard (database : Option Database) (event : DatabaseEvent) : Option Database :=
  match event with
  | .execute .. => if grants database event then spent database else database
  | _ => database

/-! ## The ledger of a connection -/

/-- A statement with its parameters. -/
structure Statement where
  words : String
  parameters : Option (List Datum)

/-- The statements carried out on a connection: those that will stay, and those that wait. -/
structure Ledger where
  durable : List Statement
  pending : List Statement

namespace Ledger

/-- Enter what comes of an event that reaches the database. -/
def enter (database : Option Database) (ledger : Ledger) : DatabaseEvent → Ledger
  | .execute words params =>
    if grants database (.execute words params) && (answer database).error.isNone then
      { ledger with pending := ledger.pending ++ [⟨words, params⟩] }
    else ledger
  | .commit =>
    if grants database .commit then ⟨ledger.durable ++ ledger.pending, []⟩ else ledger
  | .rollback => if grants database .rollback then ⟨ledger.durable, []⟩ else ledger
  | _ => ledger

def enterAll : (database : Option Database) → Ledger → List DatabaseEvent → Ledger
  | _, ledger, [] => ledger
  | database, ledger, event :: events =>
    enterAll (heard database event) (ledger.enter database event) events

end Ledger

/-! ## Calls -/

/-- The builtins that are called in the course of a ritual. -/
inductive Petition where
  | consult
  | divine
  | decree
  | lastId

/-- What the builtin does with its arguments. -/
def Petition.act : Petition → List Value → Action Value
  | consult => Builtin.consultOracle
  | divine => Builtin.divineOne
  | decree => Builtin.decreeOracle
  | lastId => Builtin.lastProphecyId

/-- A call of such a builtin in a world. -/
structure Call where
  petition : Petition
  arguments : List Value
  world : World

namespace Call

/-- The world that the call leaves. -/
def left (call : Call) : World := Action.left (call.petition.act call.arguments call.world)

/-- What the call asks the database. -/
def events (call : Call) : List DatabaseEvent := call.world.askedUntil call.left

/-- Is the call about the connection? -/
def isOn (connection : Nat) (call : Call) : Bool :=
  match call.arguments with
  | .connection ref :: _ => ref == connection
  | _ => false

end Call

/-- Send the statement of a decree: what decrees do before they commit. -/
def send (connection words : Value) (given : List Value) : Action Statement := do
  let words ← text words
  let params ← Builtin.parameters given
  let _ ← Builtin.ask connection false words params
  return ⟨words, params⟩

/-- The statement of the call, if the call is a decree whose statement is carried out. -/
def Call.decreed? (call : Call) : Option Statement :=
  match call.petition, call.arguments with
  | .decree, [connection, words] => result? (send connection words [] call.world)
  | .decree, [connection, words, given] => result? (send connection words [given] call.world)
  | _, _ => none

/-! ## What calls ask -/

/-- The world after the database was asked for something. -/
def noting (world : World) (event : DatabaseEvent) : World :=
  { world with journal := .database event :: world.journal }

@[simp]
theorem asked_noting (world : World) (event : DatabaseEvent) :
    (noting world event).asked = world.asked ++ [event] := by
  simp [noting, World.asked, Event.database?]

@[simp]
theorem database_noting (world : World) (event : DatabaseEvent) :
    (noting world event).database = world.database :=
  rfl

theorem askDatabase_eq (event : DatabaseEvent) (world : World) :
    askDatabase event world =
      match refusal? world.database event with
      | none => .ok () (noting world event)
      | some reason => .error (.fault (.databaseRefused reason)) (noting world event) := by
  have noted : note (.database event) world = .ok () (noting world event) := rfl
  have looked : (get : Action World) (noting world event) = .ok (noting world event) _ := rfl
  rw [askDatabase, bind_of_ok noted, bind_of_ok looked, database_noting]
  cases world.database with
  | none => rfl
  | some database =>
    simp only [refusal?]
    cases database.outage with
    | some reason => rfl
    | none =>
      dsimp only
      split <;> rfl

theorem askDatabase_of_granted (granted : grants world.database event = true) :
    askDatabase event world = .ok () (noting world event) := by
  rw [grants, Option.isNone_iff_eq_none] at granted
  rw [askDatabase_eq, granted]

theorem askDatabase_of_refused (refused : grants world.database event = false) :
    ∃ reason, askDatabase event world =
      .error (.fault (.databaseRefused reason)) (noting world event) := by
  rw [grants, Option.isNone_eq_false_iff, Option.isSome_iff_exists] at refused
  obtain ⟨reason, refused⟩ := refused
  refine ⟨reason, ?_⟩
  rw [askDatabase_eq, refused]

theorem askDatabase_eq_ok (ended : askDatabase event world = .ok () after) :
    grants world.database event = true ∧ after = noting world event := by
  rw [askDatabase_eq] at ended
  cases refused : refusal? world.database event with
  | none =>
    simp only [refused] at ended
    cases ended
    exact ⟨by rw [grants, refused]; rfl, rfl⟩
  | some reason =>
    simp only [refused] at ended
    cases ended

/-- The world after a query was granted. -/
def querying (world : World) (words : String) (params : Option (List Datum)) : World :=
  { noting world (.execute words params) with database := spent world.database }

theorem query_of_granted {params : Option (List Datum)}
    (granted : grants world.database (.execute words params) = true) :
    query words params world =
      match (answer world.database).error with
      | none => .ok (answer world.database) (querying world words params)
      | some reason =>
        .error (.fault (.databaseRefused reason)) (querying world words params) := by
  rw [query, bind_of_ok (askDatabase_of_granted granted)]
  obtain ⟨_, _, _, _, _, _, _, _, _, _, _, database, _, _, _, _⟩ := world
  cases database with
  | none => rfl
  | some database =>
    obtain ⟨results, _, _, _⟩ := database
    cases results with
    | nil => rfl
    | cons res results =>
      obtain ⟨_, _, error⟩ := res
      cases error <;> rfl

/-- Is the event a part of reading? -/
def isReading : DatabaseEvent → Bool
  | .cursor _ | .execute .. | .closeCursor => true
  | _ => false

/-- From the one world to the other the database was asked for nothing but what is allowed. -/
def Asks (allowed : DatabaseEvent → Bool) (world after : World) : Prop :=
  ∃ events, after.asked = world.asked ++ events ∧ events.all allowed = true ∧
    after.database = events.foldl heard world.database

namespace Asks

variable {allowed : DatabaseEvent → Bool} {world after : World}

theorem nothing (asked : after.asked = world.asked) (database : after.database = world.database) :
    Asks allowed world after :=
  ⟨[], by rw [asked, append_nil], rfl, database⟩

instance : Passage (Asks allowed) where
  refl _ := nothing rfl rfl
  trans := by
    rintro first second third ⟨events, asked, permitted, database⟩
      ⟨events', asked', permitted', database'⟩
    refine ⟨events ++ events', ?_, ?_, ?_⟩
    · rw [asked', asked, append_assoc]
    · rw [all_append, permitted, permitted', Bool.and_true]
    · rw [database', database, foldl_append]

instance : StoreFree (Asks allowed) where
  store _ _ := nothing rfl rfl

instance : HandleFree (Asks allowed) where
  handles _ _ := nothing rfl rfl

theorem silent (asks : Asks (fun _ => false) world after) :
    after.asked = world.asked ∧ after.database = world.database := by
  obtain ⟨events, asked, none, database⟩ := asks
  cases events with
  | nil => exact ⟨asked.trans (append_nil _), database⟩
  | cons event events => cases none

theorem askDatabase (permitted : allowed event = true)
    (takesNothing : ∀ database, heard database event = database) :
    Abides (Asks allowed) (askDatabase event) := by
  constructor
  intro world
  rw [askDatabase_eq]
  split <;>
    exact ⟨[event], asked_noting world event, by simp [permitted], (takesNothing _).symm⟩

theorem query (words : String) (params : Option (List Datum)) :
    Abides (Asks isReading) (query words params) := by
  constructor
  intro world
  refine ⟨[.execute words params], ?_⟩
  cases granted : grants world.database (.execute words params) with
  | true =>
    rw [query_of_granted granted]
    split <;>
      exact ⟨asked_noting world _, rfl, by simp [heard, granted, Action.left, querying]⟩
  | false =>
    obtain ⟨reason, refused⟩ := askDatabase_of_refused granted
    rw [Action.query, bind_of_error refused]
    exact ⟨asked_noting world _, rfl, by simp [heard, granted, Action.left]⟩

theorem ask (connection : Value) (dictionary : Bool) (words : String)
    (params : Option (List Datum)) :
    Abides (Asks isReading) (Builtin.ask connection dictionary words params) := by
  cases connection with
  | connection ref =>
    exact .bind (askDatabase rfl fun _ => rfl) fun _ => query words params
  | _ => exact .lacks _ _

theorem parameters (given : List Value) : Abides (Asks allowed) (Builtin.parameters given) := by
  cases given with
  | nil => exact .pure none
  | cons value given =>
    apply Abides.bind (.truth value)
    intro truth
    cases truth with
    | false => exact .pure none
    | true =>
      apply Abides.bind (.elements value)
      intro values
      exact .bind (.bind .get fun _ => .pure _) fun _ => .pure _

end Asks

/-! ## Reading -/

/-- Nothing but reading happens in a petition that is no decree. -/
theorem Petition.reads {petition : Petition} (noDecree : petition ≠ .decree)
    (args : List Value) : Abides (Asks isReading) (petition.act args) := by
  have closes : Abides (Asks isReading) (askDatabase .closeCursor) :=
    Asks.askDatabase rfl fun _ => rfl
  have consults (connection words : Value) (given : List Value) :
      Abides (Asks isReading) (Builtin.consult connection words given) :=
    .bind (.text words) fun _ => .bind (Asks.parameters given) fun _ =>
      .orRefuse _ _ (.bind (Asks.ask _ _ _ _) fun _ => .bind closes fun _ => .plant _)
  have divines (connection words : Value) (given : List Value) :
      Abides (Asks isReading) (Builtin.divine connection words given) :=
    .bind (.text words) fun _ => .bind (Asks.parameters given) fun _ =>
      .orRefuse _ _ (.bind (Asks.ask _ _ _ _) fun _ => .bind closes fun _ => .plant _)
  cases petition with
  | consult =>
    change Abides _ (Builtin.consultOracle args)
    unfold Builtin.consultOracle
    split
    · exact consults _ _ _
    · exact consults _ _ _
    · exact .refuse _ _
  | divine =>
    change Abides _ (Builtin.divineOne args)
    unfold Builtin.divineOne
    split
    · exact divines _ _ _
    · exact divines _ _ _
    · exact .refuse _ _
  | decree => exact absurd rfl noDecree
  | lastId =>
    change Abides _ (Builtin.lastProphecyId args)
    unfold Builtin.lastProphecyId
    split
    · refine .orRefuse _ _ (.bind (Asks.ask _ _ _ _) fun _ => .bind (.plant _) fun _ => ?_)
      exact .bind (.firstOf _) fun _ => .bind closes fun _ => .pure _
    · exact .refuse _ _

/-! ## Decrees -/

theorem ask_eq_ok {connection : Value} {dictionary : Bool} {params : Option (List Datum)}
    {res : QueryResult}
    (ended : Builtin.ask connection dictionary words params world = .ok res after) :
    ∃ ref, connection = .connection ref ∧
      grants world.database (.execute words params) = true ∧
        (answer world.database).error = none ∧
          after = querying (noting world (.cursor dictionary)) words params := by
  cases connection with
  | connection ref =>
    obtain ⟨_, opened, asked, queried⟩ := bind_eq_ok ended
    obtain ⟨-, rfl⟩ := askDatabase_eq_ok asked
    obtain ⟨_, sent, asked', -⟩ := bind_eq_ok queried
    have granted := (askDatabase_eq_ok asked').1
    rw [query_of_granted granted, database_noting] at queried
    cases answered : (answer world.database).error with
    | none =>
      simp only [answered] at queried
      cases queried
      exact ⟨ref, rfl, granted, rfl, rfl⟩
    | some reason =>
      simp only [answered] at queried
      cases queried
  | _ => cases ended

/-- What a decree asks after its statement was carried out. -/
def conclusion (database : Option Database) : List DatabaseEvent :=
  if grants database .commit then
    .commit :: .closeCursor :: if grants database .closeCursor then [] else [.rollback]
  else [.commit, .rollback]

/-- A query takes an answer from the database, and nothing on which the conclusion depends. -/
theorem conclusion_querying (world : World) (words : String) (params : Option (List Datum)) :
    conclusion (querying world words params).database = conclusion world.database := by
  simp only [conclusion, querying, grants_spent]

/-- What a decree asks the database. -/
inductive Conduct (database : Option Database) :
    Option Statement → List DatabaseEvent → Prop where
  | failed {readings : List DatabaseEvent} (read : readings.all isReading = true) :
      Conduct database none readings
  | undone {readings : List DatabaseEvent} (read : readings.all isReading = true) :
      Conduct database none (readings ++ [.rollback])
  | carriedOut {statement : Statement}
      (granted : grants database (.execute statement.words statement.parameters) = true)
      (accepted : (answer database).error = none) :
      Conduct database (some statement)
        (.cursor false :: .execute statement.words statement.parameters :: conclusion database)

/-- Take a decree back and tell why. -/
def undo (connection : Value) (trouble : Trouble) : Action Value := do
  Builtin.rollBack connection
  refuse .oracleSilent ("Oracle decree failed: " ++ trouble.text)

theorem undo_asked (ref : Nat) (trouble : Trouble) (world : World) :
    (left (undo (.connection ref) trouble world)).asked = world.asked ++ [.rollback] := by
  rw [undo, Builtin.rollBack]
  cases granted : grants world.database .rollback with
  | true =>
    rw [bind_of_ok (askDatabase_of_granted granted)]
    exact asked_noting world .rollback
  | false =>
    obtain ⟨reason, refused⟩ := askDatabase_of_refused granted
    rw [bind_of_error refused]
    exact asked_noting world .rollback

/-- Conclude a decree: commit it and close the cursor. -/
def conclude (res : QueryResult) : Action Value := do
  askDatabase .commit
  askDatabase .closeCursor
  return .rune res.count

theorem conclude_asked (ref : Nat) (res : QueryResult) (world : World) :
    (left (recover (conclude res) (undo (.connection ref)) world)).asked =
      world.asked ++ conclusion world.database := by
  unfold conclusion
  cases committed : grants world.database .commit with
  | false =>
    obtain ⟨reason, refused⟩ := askDatabase_of_refused committed
    have ended : conclude res world =
        .error (.fault (.databaseRefused reason)) (noting world .commit) :=
      bind_of_error refused
    rw [recover_of_error ended, undo_asked, asked_noting]
    simp
  | true =>
    cases closed : grants world.database .closeCursor with
    | true =>
      have ended : conclude res world =
          .ok (.rune res.count) (noting (noting world .commit) .closeCursor) := by
        rw [conclude, bind_of_ok (askDatabase_of_granted committed),
          bind_of_ok (askDatabase_of_granted (by exact closed))]
        rfl
      rw [recover_of_ok ended]
      simp [left]
    | false =>
      obtain ⟨reason, refused⟩ := @askDatabase_of_refused (noting world .commit) _ closed
      have ended : conclude res world = .error (.fault (.databaseRefused reason))
            (noting (noting world .commit) .closeCursor) := by
        rw [conclude, bind_of_ok (askDatabase_of_granted committed), bind_of_error refused]
      rw [recover_of_error ended, undo_asked]
      simp

/-- What an action asks the database is told by the statement that it has carried out. -/
def Conducts (carried : Action Statement) (action : Action Value) : Prop :=
  ∀ world, ∃ events, (left (action world)).asked = world.asked ++ events ∧
    Conduct world.database (result? (carried world)) events

theorem Conducts.bind {α : Type} {first : Action α} {carried : α → Action Statement}
    {action : α → Action Value} (silent : Abides (Asks fun _ => false) first)
    (continued : ∀ value, Conducts (carried value) (action value)) :
    Conducts (first >>= carried) (first >>= action) := by
  intro world
  have before := (silent.related world).silent
  cases ended : first world with
  | error trouble after =>
    rw [ended] at before
    rw [bind_of_error ended, bind_of_error ended]
    exact ⟨[], before.1.trans (append_nil _).symm, .failed rfl⟩
  | ok value after =>
    rw [ended] at before
    rw [bind_of_ok ended, bind_of_ok ended, ← before.1, ← before.2]
    exact continued value after

theorem conducts_ask (connection : Value) (words : String) (params : Option (List Datum)) :
    Conducts
      (do
        let _ ← Builtin.ask connection false words params
        return ⟨words, params⟩)
      (recover (Builtin.ask connection false words params >>= conclude) (undo connection)) := by
  intro world
  have reading := (Asks.ask connection false words params).related world
  cases answered : Builtin.ask connection false words params world with
  | error trouble after =>
    rw [answered] at reading
    obtain ⟨readings, asked, read, -⟩ := reading
    rw [recover_of_error (bind_of_error answered), bind_of_error answered]
    cases connection with
    | connection ref =>
      refine ⟨readings ++ [.rollback], ?_, .undone read⟩
      rw [undo_asked, ← append_assoc, ← asked]
      rfl
    | _ => exact ⟨readings, asked, .failed read⟩
  | ok res after =>
    obtain ⟨ref, rfl, granted, accepted, rfl⟩ := ask_eq_ok answered
    rw [recover_bind_of_ok answered, bind_of_ok answered]
    refine ⟨_, ?_, .carriedOut granted accepted⟩
    rw [conclude_asked, conclusion_querying]
    simp [querying, World.asked, noting, Event.database?]

theorem conducts_decree (connection words : Value) (given : List Value) :
    Conducts (send connection words given) (Builtin.decree connection words given) :=
  .bind (.text words) fun _ => .bind (Asks.parameters given) fun _ => conducts_ask _ _ _

/-- What a call asks the database, and whether it has a statement carried out. -/
theorem Call.conducted (call : Call) :
    call.left.asked = call.world.asked ++ call.events ∧
      Conduct call.world.database call.decreed? call.events := by
  obtain ⟨events, asked, conduct⟩ : ∃ events, call.left.asked = call.world.asked ++ events ∧
      Conduct call.world.database call.decreed? events := by
    have reading (noDecree : call.petition ≠ .decree) (none : call.decreed? = none) :
        ∃ events, call.left.asked = call.world.asked ++ events ∧
          Conduct call.world.database call.decreed? events := by
      rcases (Petition.reads noDecree call.arguments).related call.world with
        ⟨events, asked, read, -⟩
      exact ⟨events, asked, none ▸ .failed read⟩
    obtain ⟨petition, args, world⟩ := call
    cases petition with
    | consult | divine | lastId => exact reading (by simp) rfl
    | decree =>
      rcases args with _ | ⟨connection, _ | ⟨words, _ | ⟨given, _ | ⟨more, others⟩⟩⟩⟩
      case cons.cons.nil => exact conducts_decree connection words [] world
      case cons.cons.cons.nil => exact conducts_decree connection words [given] world
      all_goals exact ⟨[], (append_nil _).symm, .failed rfl⟩
  have same : call.events = events := by
    rw [Call.events, World.askedUntil, asked, drop_left]
  exact same ▸ ⟨asked, conduct⟩

/-! ## What becomes of the ledger -/

namespace Ledger

theorem enterAll_append (database : Option Database) (ledger : Ledger)
    (former latter : List DatabaseEvent) :
    ledger.enterAll database (former ++ latter) =
      (ledger.enterAll database former).enterAll (former.foldl heard database) latter := by
  induction former generalizing database ledger with
  | nil => rfl
  | cons event former ih => exact ih _ _

/-- Reading makes nothing durable. -/
theorem durable_of_readings {readings : List DatabaseEvent} (read : readings.all isReading = true)
    (database : Option Database) (ledger : Ledger) :
    (ledger.enterAll database readings).durable = ledger.durable := by
  induction readings generalizing database ledger with
  | nil => rfl
  | cons event readings ih =>
    rw [all_cons, Bool.and_eq_true] at read
    rw [enterAll, ih read.2]
    cases event with
    | execute words params =>
      rw [enter]
      split <;> rfl
    | cursor | closeCursor => rfl
    | _ => cases read.1

@[simp]
theorem durable_rollback (database : Option Database) (ledger : Ledger) :
    (ledger.enter database .rollback).durable = ledger.durable := by
  rw [enter]
  split <;> rfl

theorem enter_commit (database : Option Database) (ledger : Ledger) :
    ledger.enter database .commit =
      if grants database .commit then ⟨ledger.durable ++ ledger.pending, []⟩ else ledger :=
  rfl

theorem enter_closeCursor (database : Option Database) (ledger : Ledger) :
    ledger.enter database .closeCursor = ledger :=
  rfl

end Ledger

theorem Conduct.commit_mem_iff {decreed? : Option Statement} {events : List DatabaseEvent}
    (conduct : Conduct database decreed? events) :
    .commit ∈ events ↔ decreed?.isSome = true := by
  have unread {readings : List DatabaseEvent} (read : readings.all isReading = true) :
      .commit ∉ readings :=
    fun mem => absurd (all_eq_true.mp read _ mem) (by decide)
  cases conduct with
  | failed read => simpa using unread read
  | undone read => simpa using unread read
  | carriedOut granted accepted =>
    rw [conclusion]
    split <;> simp

/-- What a call makes durable: if it is a decree that commits, its statement and all that waits. -/
def Ledger.settled (ledger : Ledger) (database : Option Database) :
    (decreed? : Option Statement) → List Statement
  | none => []
  | some statement => if grants database .commit then ledger.pending ++ [statement] else []

theorem Conduct.durable {decreed? : Option Statement} {events : List DatabaseEvent}
    (conduct : Conduct database decreed? events) (ledger : Ledger) :
    (ledger.enterAll database events).durable =
      ledger.durable ++ ledger.settled database decreed? := by
  cases conduct with
  | failed read =>
    rw [ledger.durable_of_readings read database]
    exact (append_nil _).symm
  | undone read =>
    rw [Ledger.enterAll_append, Ledger.enterAll, Ledger.enterAll, Ledger.durable_rollback,
      ledger.durable_of_readings read database]
    exact (append_nil _).symm
  | @carriedOut statement granted accepted =>
    have entered : ledger.enter database (.execute statement.words statement.parameters) =
        { ledger with pending := ledger.pending ++ [statement] } := by
      rw [Ledger.enter, granted, accepted]
      rfl
    have taken :
        heard database (.execute statement.words statement.parameters) = spent database :=
      if_pos granted
    rw [Ledger.enterAll, Ledger.enterAll]
    change (Ledger.enterAll (heard database _) (ledger.enter database _) _).durable = _
    rw [entered, taken, conclusion, Ledger.settled]
    cases committed : grants database .commit with
    | false => simp [Ledger.enterAll, Ledger.enter_commit, committed]
    | true =>
      cases grants database .closeCursor <;>
        simp [Ledger.enterAll, Ledger.enter_commit, Ledger.enter_closeCursor, committed]

/-! ## The course of a ritual -/

/--
Calls one after the other.  Between them a script does what it likes, but it asks the database
nothing.
-/
inductive Course : World → List Call → World → Prop where
  | done {world after : World} (quiet : after.asked = world.asked) : Course world [] after
  | call {world after : World} {call : Call} {calls : List Call}
      (quiet : call.world.asked = world.asked) (further : Course call.left calls after) :
      Course world (call :: calls) after

theorem Course.asked (course : Course world calls after) :
    after.asked = world.asked ++ calls.flatMap Call.events := by
  induction course with
  | done quiet => rw [quiet, flatMap_nil, append_nil]
  | call quiet further ih =>
    rw [ih, flatMap_cons, ← append_assoc, ← quiet, ← (Call.conducted _).1]

/-- Does the call make something durable on the connection? -/
def Call.settles (connection : Nat) (call : Call) : Bool :=
  call.isOn connection && call.decreed?.isSome && grants call.world.database .commit

theorem Call.exists_of_settles {connection : Nat} {call : Call}
    (settles : call.settles connection = true) : ∃ statement, call.decreed? = some statement := by
  simp only [Call.settles, Bool.and_eq_true] at settles
  exact Option.isSome_iff_exists.mp settles.1.2

namespace Ledger

variable {call : Call}

def afterCall (connection : Nat) (ledger : Ledger) (call : Call) : Ledger :=
  if call.isOn connection then ledger.enterAll call.world.database call.events else ledger

def afterCalls (connection : Nat) (ledger : Ledger) (calls : List Call) : Ledger :=
  calls.foldl (afterCall connection) ledger

variable {connection : Nat} {ledger : Ledger}

theorem durable_afterCall (connection : Nat) (ledger : Ledger) (call : Call) :
    (ledger.afterCall connection call).durable = ledger.durable ++
      if call.settles connection then ledger.pending ++ call.decreed?.toList else [] := by
  rw [afterCall, Call.settles]
  cases call.isOn connection with
  | false => exact (append_nil _).symm
  | true =>
    rw [if_pos rfl, call.conducted.2.durable]
    cases call.decreed? <;> rfl

/-- What is durable stays durable. -/
theorem durable_prefix_afterCalls (calls : List Call) :
    ledger.durable <+: (ledger.afterCalls connection calls).durable := by
  induction calls generalizing ledger with
  | nil => exact prefix_rfl
  | cons call calls ih => exact .trans ⟨_, (durable_afterCall connection ledger call).symm⟩ ih

theorem mem_durable_of_settles (mem : call ∈ calls) (settles : call.settles connection = true) :
    ∃ statement ∈ call.decreed?, statement ∈ (ledger.afterCalls connection calls).durable := by
  induction calls generalizing ledger with
  | nil => cases mem
  | cons other calls ih =>
    rcases mem_cons.mp mem with rfl | later
    · obtain ⟨statement, decreed⟩ := Call.exists_of_settles settles
      refine ⟨statement, decreed, (durable_prefix_afterCalls calls).subset ?_⟩
      rw [durable_afterCall, if_pos settles, decreed]
      simp
    · exact ih later

theorem durable_afterCalls_eq_iff :
    (ledger.afterCalls connection calls).durable = ledger.durable ↔
      ∀ call ∈ calls, call.settles connection = false := by
  induction calls generalizing ledger with
  | nil => simp [afterCalls]
  | cons call calls ih =>
    rw [forall_mem_cons]
    change ((ledger.afterCall connection call).afterCalls connection calls).durable = _ ↔ _
    have durable := durable_afterCall connection ledger call
    cases settles : call.settles connection with
    | false =>
      rw [if_neg (Bool.eq_false_iff.mp settles), append_nil] at durable
      rw [← durable, ih, eq_self, true_and]
    | true =>
      obtain ⟨statement, decreed⟩ := Call.exists_of_settles settles
      have longer := (@durable_prefix_afterCalls connection
        (ledger.afterCall connection call) calls).length_le
      rw [durable, length_append, if_pos settles, decreed] at longer
      refine iff_of_false ?_ fun idle => Bool.noConfusion idle.1
      intro same
      rw [same] at longer
      exact absurd longer (by simp)

end Ledger

/-! ## Beginning and end -/

theorem ritual_asked (failure mem : String) (event : DatabaseEvent) (connection : Nat)
    (world : World) :
    (left (Builtin.ritual failure mem event (.connection connection) world)).asked =
      world.asked ++ [event] := by
  rw [Builtin.ritual]
  cases granted : grants world.database event with
  | true =>
    rw [bind_of_ok (orRefuse_of_ok (askDatabase_of_granted granted))]
    exact asked_noting world event
  | false =>
    obtain ⟨reason, refused⟩ := askDatabase_of_refused granted
    rw [bind_of_error (orRefuse_of_error refused)]
    exact asked_noting world event

/-- The ledger of a connection after calls and an abandonment of the ritual in the world. -/
def Ledger.abandoned (connection : Nat) (ledger : Ledger) (calls : List Call) (world : World) :
    Ledger :=
  (ledger.afterCalls connection calls).enterAll world.database
    (world.askedUntil (left (Builtin.abandonRitual [.connection connection] world)))

theorem Ledger.abandoned_of_granted {connection : Nat} {ledger : Ledger}
    (granted : grants world.database .rollback = true) :
    ledger.abandoned connection calls world =
      ⟨(ledger.afterCalls connection calls).durable, []⟩ := by
  have rolledBack :
      world.askedUntil (left (Builtin.abandonRitual [.connection connection] world)) =
        [.rollback] := by
    rw [World.askedUntil, Builtin.abandonRitual, ritual_asked, drop_left]
  rw [abandoned, rolledBack]
  exact if_pos granted

/--
What a ritual comes to.  Between its beginning and its end the database is asked for nothing but
what the calls ask.  A commit is among that for the connection exactly if the statement of some
decree is carried out.  So when the ritual is abandoned, nothing waits any more, but what was
durable before is all that is durable only if no decree came to its commit; the statement of each
decree that did stays.
-/
theorem abandoned_ritual_leaves {connection : Nat} {before after : World} {calls : List Call}
    (course : Course (left (Builtin.beginRitual [.connection connection] before)) calls after)
    (ledger : Ledger) :
    after.asked = before.asked ++ .startTransaction :: calls.flatMap Call.events ∧
      ((∃ call ∈ calls, call.isOn connection = true ∧ .commit ∈ call.events) ↔
        ∃ call ∈ calls, call.isOn connection = true ∧ call.decreed?.isSome = true) ∧
      (grants after.database .rollback = true →
        (ledger.abandoned connection calls after).pending = [] ∧
          ((ledger.abandoned connection calls after).durable = ledger.durable ↔
            ∀ call ∈ calls, call.settles connection = false) ∧
          ∀ call ∈ calls, call.settles connection = true →
            ∃ statement ∈ call.decreed?,
              statement ∈ (ledger.abandoned connection calls after).durable) := by
  refine ⟨?_, ?_, ?_⟩
  · rw [course.asked, Builtin.beginRitual, ritual_asked, append_assoc]
    rfl
  · simp only [fun call : Call => call.conducted.2.commit_mem_iff]
  · intro granted
    rw [Ledger.abandoned_of_granted granted]
    exact ⟨rfl, Ledger.durable_afterCalls_eq_iff, fun call => Ledger.mem_durable_of_settles⟩

/-- A world whose database carries one statement out. -/
def obliging : World := { database := some { results := [{ rowCount := some 1 }] } }

/-- A decree in a ritual in that world. -/
def promotion : Call where
  petition := .decree
  arguments := [.connection 0, .scroll "UPDATE heroes SET level = 2"]
  world := left (Builtin.beginRitual [.connection 0] obliging)

theorem abandoned_ritual_leaves_promotion :
    promotion.left.asked = obliging.asked ++ .startTransaction :: promotion.events ∧
      .commit ∈ promotion.events := by
  have course : Course (left (Builtin.beginRitual [.connection 0] obliging)) [promotion]
      promotion.left :=
    .call rfl (.done rfl)
  obtain ⟨asked, commits, -⟩ := abandoned_ritual_leaves course ⟨[], []⟩
  refine ⟨asked.trans (by simp), ?_⟩
  obtain ⟨call, member, -, committed⟩ := commits.mpr ⟨promotion, by simp, rfl, rfl⟩
  exact mem_singleton.mp member ▸ committed

/-- The decree is committed within the ritual, so abandoning the ritual does not discard it. -/
theorem promotion_outlives_ritual :
    promotion.events = [.cursor false, .execute "UPDATE heroes SET level = 2" none, .commit,
        .closeCursor] ∧
      (Ledger.abandoned 0 ⟨[], []⟩ [promotion] promotion.left).durable =
        [⟨"UPDATE heroes SET level = 2", none⟩] :=
  ⟨rfl, rfl⟩

end Ritual

end Spellbook

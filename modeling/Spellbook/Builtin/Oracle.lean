import Spellbook.Builtin

/-!
# Builtins for databases

An oracle is a database connection.  It can be consulted for all rows of a query or for the first
one, and decrees change what it knows.  Every decree is committed at once; one that fails is rolled
back.
-/

namespace Spellbook.Builtin

open Spellbook.Action

/-- Connect to a database, by default on port 3306. -/
def awakenAt (host user password database : Value) (port : List Value) : Action Value := do
  let host ← text host
  let user ← text user
  let password ← text password
  let database ← text database
  let port ← integerOr 3306 port
  if (← get).database.isNone then
    refuse .oracleSilent
      ("mysql-connector-python is not installed. " ++ "Run: pip install mysql-connector-python")
  else
    recover (newConnection host user password database port) fun trouble =>
      match trouble with
      | .fault (.databaseRefused reason) =>
        refuse .oracleSilent ("Failed to awaken oracle: " ++ reason)
      | _ => throw trouble

/-- Connect to a database. -/
def awakenOracle : List Value → Action Value
  | [host, user, password, database] => awakenAt host user password database []
  | [host, user, password, database, port] => awakenAt host user password database [port]
  | _ =>
    forbid "awaken_oracle requires 4-5 arguments (host, user, password, database, [port])"

/-- Close a connection. -/
def dismissOracle : List Value → Action Value
  | [connection] => do
    orRefuse .oracleSilent "Failed to dismiss oracle: " (close connection)
    return .void
  | _ => forbid "dismiss_oracle requires 1 argument (connection)"

/-- The values for the places of a query; falsy ones are none. -/
def parameters : List Value → Action (Option (List Datum))
  | [] => return none
  | value :: _ => do
    if ← truth value then
      let values ← elements value
      let store ← store
      return if values.isEmpty then none else some (values.map store.portray)
    else return none

/-- Open a cursor and run a query on it. -/
def ask (connection : Value) (dictionary : Bool) (words : String)
    (parameters : Option (List Datum)) : Action QueryResult :=
  match connection with
  | .connection _ => do
    askDatabase (.cursor dictionary)
    query words parameters
  | other => lacks other "cursor"

/-- All rows that answer a query. -/
def consult (connection words : Value) (given : List Value) : Action Value := do
  let words ← text words
  let parameters ← parameters given
  orRefuse .oracleSilent "Oracle consultation failed: " do
    let res ← ask connection true words parameters
    askDatabase .closeCursor
    plant (.list res.rows)

/-- As `consult`, on arguments. -/
def consultOracle : List Value → Action Value
  | [connection, words] => consult connection words []
  | [connection, words, given] => consult connection words [given]
  | _ => forbid "consult_oracle requires 2-3 arguments (connection, query, [params])"

/-- The first row of a query, or void. -/
def divine (connection words : Value) (given : List Value) : Action Value := do
  let words ← text words
  let parameters ← parameters given
  orRefuse .oracleSilent "Divination failed: " do
    let res ← ask connection true words parameters
    askDatabase .closeCursor
    plant (res.rows.headD .void)

/-- As `divine`, on arguments. -/
def divineOne : List Value → Action Value
  | [connection, words] => divine connection words []
  | [connection, words, given] => divine connection words [given]
  | _ => forbid "divine_one requires 2-3 arguments (connection, query, [params])"

/-- Undo what is not yet committed. -/
def rollBack : Value → Action Unit
  | .connection _ => askDatabase .rollback
  | other => lacks other "rollback"

/-- Change what the database knows; gives the number of rows that are concerned. -/
def decree (connection words : Value) (given : List Value) : Action Value := do
  let words ← text words
  let parameters ← parameters given
  recover
    (do
      let res ← ask connection false words parameters
      askDatabase .commit
      askDatabase .closeCursor
      return .rune res.count)
    fun trouble => do
      rollBack connection
      refuse .oracleSilent ("Oracle decree failed: " ++ trouble.text)

/-- As `decree`, on arguments. -/
def decreeOracle : List Value → Action Value
  | [connection, words] => decree connection words []
  | [connection, words, given] => decree connection words [given]
  | _ => forbid "decree_oracle requires 2-3 arguments (connection, query, [params])"

/-- The number that the database gave to the last row that was added. -/
def lastProphecyId : List Value → Action Value
  | [connection] =>
    orRefuse .oracleSilent "Failed to retrieve last prophecy id: " do
      let res ← ask connection false "SELECT LAST_INSERT_ID()" none
      let num ← firstOf (← plant (res.rows.headD .void))
      askDatabase .closeCursor
      return num
  | _ => forbid "last_prophecy_id requires 1 argument (connection)"

/-- Ask a connection for a step of a transaction. -/
def ritual (failure member : String) (event : DatabaseEvent) (connection : Value) :
    Action Value := do
  orRefuse .oracleSilent failure do
    match connection with
    | .connection _ => askDatabase event
    | other => lacks other member
  return .void

/-- Start a transaction. -/
def beginRitual : List Value → Action Value
  | [connection] =>
    ritual "Failed to begin ritual: " "start_transaction" .startTransaction connection
  | _ => forbid "begin_ritual requires 1 argument (connection)"

/-- Commit a transaction. -/
def completeRitual : List Value → Action Value
  | [connection] => ritual "Failed to complete ritual: " "commit" .commit connection
  | _ => forbid "complete_ritual requires 1 argument (connection)"

/-- Roll a transaction back. -/
def abandonRitual : List Value → Action Value
  | [connection] => ritual "Failed to abandon ritual: " "rollback" .rollback connection
  | _ => forbid "abandon_ritual requires 1 argument (connection)"

/-- The builtins for databases. -/
def oracles : List Builtin :=
  [⟨"awaken_oracle", none, awakenOracle⟩,
    ⟨"dismiss_oracle", some 1, dismissOracle⟩,
    ⟨"consult_oracle", none, consultOracle⟩,
    ⟨"divine_one", none, divineOne⟩,
    ⟨"decree_oracle", none, decreeOracle⟩,
    ⟨"last_prophecy_id", some 1, lastProphecyId⟩,
    ⟨"begin_ritual", some 1, beginRitual⟩,
    ⟨"complete_ritual", some 1, completeRitual⟩,
    ⟨"abandon_ritual", some 1, abandonRitual⟩]

end Spellbook.Builtin

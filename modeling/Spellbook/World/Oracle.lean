import Spellbook.World

/-!
# The database

Connections, queries and transactions.  Every query takes the next of the answers that the database
will give; when none is left the answer is empty.
-/

namespace Spellbook.Action

def askDatabase (event : DatabaseEvent) : Action Unit := do
  note (.database event)
  match (← get).database with
  | some database =>
    match database.outage with
    | some reason => fault (.databaseRefused reason)
    | none =>
      if database.failOn == some event.name then
        fault (.databaseRefused (event.name ++ " failed"))
  | none => return

def newConnection (host user password database : String) (port : Int) : Action Value := do
  askDatabase (.connect host user password database port)
  modifyGet fun world =>
    match world.database with
    | none => (.connection 0, world)
    | some database =>
      (.connection database.connections,
        { world with database := some { database with connections := database.connections + 1 } })

def query (text : String) (params : Option (List Datum)) : Action QueryResult := do
  askDatabase (.execute text params)
  let res ← modifyGet fun world =>
    match world.database with
    | none => ({}, world)
    | some database =>
      match database.results with
      | [] => ({}, world)
      | res :: results => (res, { world with database := some { database with results } })
  match res.error with
  | some reason => fault (.databaseRefused reason)
  | none => return res

end Spellbook.Action

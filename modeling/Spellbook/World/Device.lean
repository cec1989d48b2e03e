import Spellbook.World.Event

/-!
# Devices

What scripts can reach outside themselves, apart from the console and the files: speech, network,
database, sign-in service, web server, shell.  How a device will answer is part of its
description, so that a run is a function of its world.
-/

namespace Spellbook

structure SpeechEngine where
  volume : Float := 0.8
  rate : Int := 200
  voice : Option String := none

/-- A library for speech. -/
structure SpeechLibrary where
  /-- The voices by their identifiers. -/
  voices : List String := []
  /-- The kind of request that the library refuses. -/
  failOn : Option String := none
  /-- Does it refuse the latest request of a journal for another reason? -/
  balks : List Event → Bool := fun _ => false
  /-- The engine as it is when it has been started. -/
  engine : SpeechEngine := {}

/-- Does the library refuse a request, which is the latest of the journal? -/
def SpeechLibrary.refuses (library : SpeechLibrary) (event : SpeechEvent) (journal : List Event) :
    Bool :=
  library.failOn == some event.name || library.balks journal

/-- Someone who comes to an open port. -/
structure Visitor where
  host : String
  port : Int

structure Network where
  arrivals : List (List UInt8) := []
  visitors : List Visitor := []
  failOn : Option String := none
  sockets : Nat := 0

structure QueryResult where
  rows : List Datum := []
  rowCount : Option Int := none
  error : Option String := none

namespace QueryResult

/-- How many rows a query reports. -/
def count (res : QueryResult) : Int := res.rowCount.getD res.rows.length

end QueryResult

structure Database where
  /-- The answers to the coming queries. -/
  results : List QueryResult := []
  failOn : Option String := none
  /-- Why the database refuses every request, if it does. -/
  outage : Option String := none
  connections : Nat := 0

/-- The answer of a server. -/
structure Response where
  status : Int
  text : String := ""
  data : Option Datum := none

/-- How a command ends. -/
structure CommandAnswer where
  code : Int := 0
  output : String := ""
  errors : String := ""
  /-- The files that the command makes. -/
  creates : List (String × List UInt8) := []
  /-- Why the command could not be started. -/
  failure : Option String := none

end Spellbook

import Spellbook.Workload.Call

/-!
# Workloads on builtins

Pages that grow, conversions, dice and heroes; files; and all the ways in which calls of builtins
are refused.
-/

namespace Spellbook.Workload

open Spellbook.Action

/-! ## Pages -/

/-- A record as data. -/
def pairs (entries : List (String × String)) : Datum :=
  .record (entries.map fun (name, text) => (name, .scroll text))

def newElement (tag : String) (content : Value) (attrs : List (String × String)) :
    Action Value := do
  invoke "enchant_element" [.scroll tag, content, ← plant (pairs attrs)]

def addToPage (canvas : Value) (selector : String) (properties : List (String × String))
    (element : Value) : Action Unit := do
  let style ← invoke "enchant_style" [.scroll selector, ← plant (pairs properties)]
  let _ ← invoke "add_style_to_canvas" [canvas, style]
  let _ ← invoke "append_to_canvas" [canvas, element]

def pageLength (canvas : Value) : Action Datum := do
  portray (← invoke "measure" [← invoke "weave_page" [canvas]])

def addNumbered (canvas : Value) (num : Nat) : Action Unit := do
  let index := Nat.repr num
  let inner ← newElement "p" (.scroll ("item " ++ index ++ " of page")) []
  let element ← newElement "div" (← newTome [inner, .scroll "done"])
    [("class", "c" ++ index), ("id", "e" ++ index)]
  addToPage canvas (".c" ++ index) [("color", "red")] element

/-- Let a page grow, element by element: its lengths. -/
def growPage (canvas : Value) (size : Nat) : Action (List Datum) := do
  let lengths ← (List.range size).mapM fun num => do
    addNumbered canvas num
    pageLength canvas
  let banner ← newElement "img" .void [("src", "banner.png"), ("alt", "banner")]
  addToPage canvas "body" [("margin", "0")] banner
  return lengths ++ [← pageLength canvas]

/-! ## Values -/

def integers (integers : List Int) : Datum := .list (integers.map .rune)

/-- Calls that convert, count and divide up values. -/
def plainCalls : List Call :=
  [⟨"measure", [integers [1, 2, 3]]⟩, ⟨"transform_to_rune", [.scroll "42"]⟩,
    ⟨"transform_to_scroll", [.rune 42]⟩, ⟨"transform_to_potion", [.scroll "1.5"]⟩,
    ⟨"random_fate", [.rune 1, .rune 1]⟩, ⟨"range", [.rune 3]⟩, ⟨"range", [.rune 1, .rune 4]⟩,
    ⟨"range", [.rune 0, .rune 10, .rune 2]⟩, ⟨"keys", [.record [("a", .rune 1)]]⟩,
    ⟨"values", [.record [("a", .rune 1)]]⟩]

def oneOfEachType : List Datum :=
  [.scroll "s", .rune 1, .potion 1.5, .charm true, .list [], .dict [], .void,
    .function "builtin" "x"]

def resultsOf (calls : List Call) : Action (List Datum) :=
  calls.mapM fun call => do portray (← call.run)

def fieldOf (record : Value) (name : String) : Action Value :=
  match record with
  | .grimoire ref => field ref name
  | other => lacks other name

def questing : Action (List Datum) := do
  let total ← invoke "roll_destiny" [.rune 1, .rune 3]
  let chosen ← invoke "choose_fate" [← plant (integers [1])]
  let hero ← invoke "forge_hero" [.scroll "Ada", .scroll "mage"]
  let alive ← invoke "check_fate" [hero]
  let creature ← invoke "forge_creature" [.scroll "imp", .rune 5, .rune 1, .scroll "gold"]
  let _ ← invoke "inflict_wound" [creature, .rune 10]
  let dead ← invoke "check_fate" [creature]
  let _ ← invoke "bestow_artifact" [hero, .scroll "wand"]
  let carried ← invoke "measure" [← fieldOf hero "inventory"]
  let loot ← invoke "claim_loot" [creature]
  let lucky ← invoke "encounter_chance" [.rune 100]
  let _ ← invoke "gain_experience" [hero, .rune 600]
  let level ← fieldOf hero "level"
  [total, chosen, alive, dead, carried, loot, lucky, level].mapM portray

/-! ## Refused calls -/

/-- The builtins that refuse a call without arguments. -/
def demanding : List String :=
  ["speak_spell", "whisper_spell", "shout_spell", "change_voice", "set_speech_rate",
    "summon_portal", "open_hellmouth", "send_owl", "receive_owl", "close_portal", "await_visitor",
    "conjure_canvas", "enchant_element", "enchant_style", "append_to_canvas",
    "add_style_to_canvas", "weave_page", "scribe_page", "summon_browser", "measure",
    "transform_to_rune", "transform_to_scroll", "transform_to_potion", "random_fate", "slumber",
    "range", "append", "remove", "keys", "values", "type_of", "unroll_scroll", "seal_scroll",
    "inscribe_scroll", "chronicle_scroll", "decipher_scroll", "read_runes", "etch_runes",
    "divine_lines", "scroll_exists", "banish_scroll", "awaken_oracle", "dismiss_oracle",
    "consult_oracle", "divine_one", "decree_oracle", "last_prophecy_id", "begin_ritual",
    "complete_ritual", "abandon_ritual", "forge_hero", "forge_creature", "roll_destiny",
    "inflict_wound", "restore_vigor", "bestow_artifact", "claim_loot", "check_fate",
    "gain_experience", "saga_save", "saga_load", "encounter_chance", "choose_fate"]

def mistyped : List Call :=
  [⟨"enchant_style", [.scroll "a", .rune 1]⟩, ⟨"append_to_canvas", [.rune 1, .rune 1]⟩,
    ⟨"add_style_to_canvas", [.rune 1, .rune 1]⟩, ⟨"weave_page", [.rune 1]⟩,
    ⟨"measure", [.rune 1]⟩, ⟨"transform_to_rune", [.scroll "x"]⟩,
    ⟨"transform_to_potion", [.scroll "x"]⟩, ⟨"append", [.rune 1, .rune 1]⟩,
    ⟨"remove", [.rune 1, .rune 1]⟩, ⟨"keys", [.rune 1]⟩, ⟨"values", [.rune 1]⟩]

def failingQuests : List Call :=
  [⟨"roll_destiny", [.rune 0]⟩, ⟨"roll_destiny", [.rune 6, .rune 0]⟩,
    ⟨"inflict_wound", [.rune 1, .rune 1]⟩, ⟨"restore_vigor", [.rune 1, .rune 1]⟩,
    ⟨"bestow_artifact", [.rune 1, .rune 1]⟩, ⟨"claim_loot", [.rune 1]⟩,
    ⟨"claim_loot", [.record [("alive", .charm true)]]⟩, ⟨"check_fate", [.rune 1]⟩,
    ⟨"gain_experience", [.rune 1, .rune 1]⟩, ⟨"encounter_chance", [.rune 101]⟩,
    ⟨"encounter_chance", [.rune (-1)]⟩, ⟨"choose_fate", [.list []]⟩]

/-- Calls of builtins for speech and portals that have nothing to speak or go through. -/
def failingDevices : List Call :=
  [⟨"change_voice", [.rune 0]⟩, ⟨"summon_portal", [.scroll "", .rune (-1)]⟩,
    ⟨"open_hellmouth", [.rune (-1)]⟩, ⟨"send_owl", [.void, .scroll "x"]⟩,
    ⟨"receive_owl", [.void]⟩, ⟨"close_portal", [.void]⟩, ⟨"await_visitor", [.void]⟩]

/-- Call builtins of all kinds, and collect results and the classes of errors. -/
def calling (size : Int) : Action Datum := unheard do
  let canvas ← invoke "conjure_canvas" [.scroll "Page"]
  let lengths ← growPage canvas size.toNat
  let _ ← invoke "scribe_page" [canvas, .scroll "page.html"]
  let written ← portray (← invoke "scroll_exists" [.scroll "page.html"])
  let plain ← resultsOf plainCalls
  let _ ← invoke "slumber" [.rune 0]
  let types ← resultsOf (oneOfEachType.map fun datum => ⟨"type_of", [datum]⟩)
  let quests ← questing
  let refusals ← troublesIn Trouble.className
    (demanding.map (fun name => ⟨name, []⟩) ++ mistyped ++ failingQuests ++ failingDevices)
  return .list (lengths ++ [written] ++ plain ++ types ++ quests ++ refusals)

/-! ## Files -/

/-- Write a file, read it back, and remove it: how much was read. -/
def rewriteFile (num : Nat) : Action Nat := do
  let path : Value := .scroll ("scroll" ++ Nat.repr num ++ ".txt")
  let _ ← invoke "inscribe_scroll" [path, .scroll "first line\n"]
  let _ ← invoke "chronicle_scroll" [path, .scroll "second line\n"]
  let text ← invoke "decipher_scroll" [path]
  let _ ← invoke "banish_scroll" [path]
  match text with
  | .scroll text => return text.length
  | _ => return 0

def failingFiles : List Call :=
  [⟨"unroll_scroll", [.scroll "no.txt"]⟩, ⟨"unroll_scroll", [.scroll "no.txt", .scroll "read"]⟩,
    ⟨"unroll_scroll", [.scroll "no.txt", .scroll "burn"]⟩, ⟨"seal_scroll", [.void]⟩,
    ⟨"decipher_scroll", [.scroll "no.txt"]⟩, ⟨"read_runes", [.void]⟩,
    ⟨"read_runes", [.void, .rune 1]⟩, ⟨"etch_runes", [.void, .scroll "x"]⟩,
    ⟨"divine_lines", [.scroll "no.txt"]⟩, ⟨"banish_scroll", [.scroll "no.txt"]⟩,
    ⟨"inscribe_scroll", [.scroll "no/no.txt", .scroll "x"]⟩,
    ⟨"chronicle_scroll", [.scroll "no/no.txt", .scroll "x"]⟩]

/-- Calls that cannot keep or find a saga. -/
def failingSagas : List Call :=
  [⟨"saga_save", [.rune 1, .scroll "no/saga.json"]⟩, ⟨"saga_load", [.scroll "no.json"]⟩,
    ⟨"saga_load", [.scroll "torn.json"]⟩]

/-- Write and read files, and collect the classes of errors. -/
def filing (size : Int) : Action Datum := apart {} do
  let _ ← invoke "inscribe_scroll" [.scroll "torn.json", .scroll "\x7b"]
  let read ← (List.range size.toNat).mapM rewriteFile
  let refusals ← troublesIn Trouble.className (failingFiles ++ failingSagas)
  return .list (.rune (total read) :: refusals)

/-! ## The database -/

/-- What builtins for the database are called with, apart from the connection. -/
def oracleCalls : List (String × List Value) :=
  [("consult_oracle", [.scroll "SELECT 1"]), ("divine_one", [.scroll "SELECT 1"]),
    ("last_prophecy_id", []), ("begin_ritual", []), ("complete_ritual", []),
    ("abandon_ritual", []), ("dismiss_oracle", [])]

/-- What a connection in a workload is called. -/
def connectionName : String := "_FakeConn"

def oracleArguments : List Value := [.scroll "host", .scroll "user", .scroll "word", .scroll "base"]

/-- Call builtins on a database that refuses everything, and without arguments. -/
def silentOracle (connection : Value) : Action (List Datum) := do
  let messages ← oracleCalls.mapM fun (name, args) => do
    let refused ← troubleIn messageOf (invoke name (connection :: args))
    return refused ++ (← troubleIn messageOf (invoke name []))
  return messages.flatten

def failingDecree (connection : Value) : Action (List Datum) := do
  let unasked ← troubleIn messageOf (invoke "decree_oracle" [])
  return unasked ++ (← troubleIn messageOf (invoke "decree_oracle" [connection, .scroll "UPDATE"]))

def answeringCalls : List (String × List Value) :=
  [("consult_oracle", [.scroll "SELECT 1"]), ("divine_one", [.scroll "SELECT 1"]),
    ("decree_oracle", [.scroll "UPDATE"]), ("last_prophecy_id", []), ("begin_ritual", []),
    ("complete_ritual", []), ("abandon_ritual", [])]

def knowing : Database :=
  { results := List.replicate 4 { rows := [.list [.rune 1]] } }

/-- How many calls on a database that answers go well. -/
def answeringOracle (connection : Value) : Action Nat := do
  let results ← answeringCalls.mapM fun (name, args) =>
    attempt (invoke name (connection :: args))
  return results.countP fun
    | .ok _ => true
    | .error _ => false

/-- One round of queries: the messages of errors, and how many calls went well. -/
def oracleRound (connection : Value) : Action (List Datum × Nat) := do
  let silent ← apart { database := some { outage := some "boom" } } (silentOracle connection)
  let decree ← apart { database := some { results := [{ error := some "x" }] } }
    (failingDecree connection)
  let unasked ← troubleIn messageOf (invoke "awaken_oracle" [])
  let answered ← apart { database := some knowing } (answeringOracle connection)
  return (silent ++ decree ++ unasked, answered)

def connectionData : Value → Datum
  | .connection _ => .scroll connectionName
  | _ => .void

/-- Consult databases: the messages of errors, how many calls went well, and connections. -/
def consulting (size : Int) : Action Datum := apart { database := some {} } do
  let first ← invoke "awaken_oracle" oracleArguments
  let second ← invoke "awaken_oracle" (oracleArguments ++ [.rune 3307])
  let rounds ← (List.range size.toNat).mapM fun _ => oracleRound first
  let refused ← apart {} (troubleIn Trouble.className (invoke "awaken_oracle" oracleArguments))
  return .list (rounds.flatMap Prod.fst ++ [.rune (total (rounds.map Prod.snd))] ++
    [connectionData first, connectionData second] ++ refused)

end Spellbook.Workload

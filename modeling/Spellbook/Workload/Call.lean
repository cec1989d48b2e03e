import Spellbook.Builtin.Library

/-!
# Calls of builtins

What the workloads on builtins are made of: calls whose results or errors are collected, and worlds
of their own in which calls can go wrong without being noticed outside.
-/

namespace Spellbook.Workload

open Spellbook.Action

structure Call where
  name : String
  arguments : List Datum := []

def invoke (name : String) (arguments : List Value) : Action Value :=
  match Builtin.named? name with
  | some builtin => builtin.act arguments
  | none => throw (.caused (.undefined name) .unknown)

def Call.run (call : Call) : Action Value := do
  invoke call.name (← call.arguments.mapM plant)

/-- Carry out an action; trouble is given as a result. -/
def attempt {α : Type} (action : Action α) : Action (Except Trouble α) := fun world =>
  match action world with
  | .ok res world => .ok (.ok res) world
  | .error trouble world => .ok (.error trouble) world

def messageOf : Trouble → String
  | .error failure => failure.cause.message
  | .fault failure => failure.message

/-- Carry out an action for what it tells of its trouble; nothing if it goes well. -/
def troubleIn {α : Type} (tell : Trouble → String) (action : Action α) : Action (List Datum) := do
  match ← attempt action with
  | .ok _ => return []
  | .error trouble => return [.scroll (tell trouble)]

def troublesIn (tell : Trouble → String) (calls : List Call) : Action (List Datum) := do
  return (← calls.mapM fun call => troubleIn tell call.run).flatten

/-- All that was counted, taken together. -/
def total (counts : List Nat) : Nat := counts.foldl (· + ·) 0

def apart {α : Type} (world : World) (action : Action α) : Action α := fun outside =>
  match action world with
  | .ok res _ => .ok res outside
  | .error trouble _ => .error trouble outside

/-- Carry out an action and forget what it printed. -/
def unheard {α : Type} (action : Action α) : Action α := fun world =>
  match action world with
  | .ok res after => .ok res { after with console := world.console }
  | .error trouble after => .error trouble { after with console := world.console }

def repeated (times : Nat) (action : Action Datum) : Action (List Datum) :=
  (List.replicate times ()).mapM fun _ => action

end Spellbook.Workload

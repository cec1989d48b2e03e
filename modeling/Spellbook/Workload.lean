import Spellbook.Workload.Builtin
import Spellbook.Workload.Error
import Spellbook.Workload.Realm
import Spellbook.Workload.Release
import Spellbook.Workload.Scope
import Spellbook.Workload.Source

/-!
# Workloads

Workloads exercise the whole program, each one part of it, at a size that can be chosen.  What a
run gives depends on the work that was done, so that runs can be compared.
-/

namespace Spellbook

/-- Work of a chosen size. -/
structure Workload where
  name : String
  /-- The name of the parameter that sets the size. -/
  parameter : String
  /-- Do the work so many times: what each run gives. -/
  perform : (size : Int) → (times : Nat) → Action (List Datum)

namespace Workload

/-- Work that needs nothing of the world. -/
def aside (work : Int → Datum) (size : Int) (times : Nat) : Action (List Datum) :=
  repeated times (return work size)

/-- Work that is the same in every run. -/
def again (work : Int → Action Datum) (size : Int) (times : Nat) : Action (List Datum) :=
  repeated times (work size)

def all : List Workload :=
  [⟨"lexer", "n_copies", aside scanning⟩, ⟨"parser", "n_copies", aside parsing⟩,
    ⟨"interpret_program", "n_loops", aside running⟩,
    ⟨"interpret_errors", "n_snippets", aside stumbling⟩, ⟨"environment", "depth", aside scoping⟩,
    ⟨"builtins_core", "n_elements", again calling⟩, ⟨"builtins_fileio", "n_files", again filing⟩,
    ⟨"builtins_oracle", "n_queries", again consulting⟩,
    ⟨"m365_realm", "n_calls", administering⟩, ⟨"errors", "n_errs", aside wording⟩,
    ⟨"build_script", "n_runs", again releasing⟩]

def named? (name : String) : Option Workload := all.find? (·.name == name)

end Workload

end Spellbook

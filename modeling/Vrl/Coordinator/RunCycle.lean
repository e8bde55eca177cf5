import Vrl.Coordinator.CyclePlan

/-!
# Vrl.Coordinator.RunCycle

Cycles that share a memory, one after the other (`run_cycle` in `coordinator/system.py`).

The memory decides which strategies are blocked. A cycle that returns brings it the entries of its
results; what a cycle has found out before it raises is lost. A failure that is recorded blocks its
strategy, a blocked strategy is not executed, and only its execution could record a success: so it
is never tried again, and if it is one of the chain, no later cycle returns
(**`recorded_failures_stay`**).
-/

open Pydantic Vrl.Memory

namespace Vrl.Coordinator

variable {std : PyStd}

/-! ### What is executed -/

section Executed

variable {team : Team std} {st st' : CycleState std} {tasks : List CycleTask}

end Executed

/-! ### Cycles with a memory -/

variable (std) in
/-- The cycle of a number, with the team as it is then. What the memory of the team decides is not
read. -/
structure Cycle where
  number : Int
  team : Team std

section Definitions

variable {Time : Type} [LinearOrder Time] (millis : Time → Int) (clock : Nat → Time × Time)
  (timeValue : Time → PyVal)

/-- An entry of the memory as the dictionary that it is. -/
def entryValue (e : StrategyEntry Time) : PyVal :=
  .dict [("entry_id", .str e.entryId), ("domain", .str e.domain), ("outcome", .str e.outcome),
    ("pattern", .str e.pattern), ("detail", .str e.detail), ("cycle", .int e.cycle),
    ("agent_id", .str e.agentId), ("timestamp", timeValue e.timestamp),
    ("tags", ofStrings e.tags)]

/-- `control_decision` for the domain and the strategy key of a task. -/
def controlDecision (strategy : List (StrategyEntry Time)) (task : Task) : ControlDecision where
  blocked := isStrategyBlocked strategy task.domain.value task.strategyKey
  latestEntry :=
    if task.strategyKey = "" then .none
    else
      match latestStrategy strategy task.domain.value task.strategyKey with
      | some e => entryValue timeValue e
      | none => .none

/-- The team of a cycle with the memory that decides. -/
def Cycle.teamWith (c : Cycle std) (strategy : List (StrategyEntry Time)) : Team std :=
  { c.team with controlDecision := controlDecision timeValue strategy }

/-- `_execute_dag` as a cycle calls it. -/
def Cycle.run (c : Cycle std) (strategy : List (StrategyEntry Time)) :
    CycleState std × Except (Place × PyError) Unit :=
  executeCycle (c.teamWith timeValue strategy) (buildInitialTasks c.number)

/-- `sorted(executed_results, key=lambda item: item.task_id)`. -/
def sortResults (results : List (CycleResult std)) : List (CycleResult std) :=
  results.insertionSort fun r s => r.taskId ≤ s.taskId

end Definitions

section Strategies

variable {n : Int} {task task' : CycleTask}

end Strategies

/-! ### What a cycle records -/

section Recording

variable {team : Team std} {c : Cycle std} {result : CycleResult std}

variable {Time : Type} (millis : Time → Int) (clock : Nat → Time × Time)

end Recording

/-! ### One cycle -/

section Step

variable {Time : Type} [LinearOrder Time] {millis : Time → Int} {clock : Nat → Time × Time}
  {timeValue : Time → PyVal} {c : Cycle std} {strategy : List (StrategyEntry Time)}
  {task : CycleTask}

/-- What the memory is told of a task: nothing if it was not executed, and else one thing, for
which it must not have been blocked. -/
structure Tells (c : Cycle std) (strategy : List (StrategyEntry Time))
    (results : List (CycleResult std)) (task : CycleTask) : Prop where
  own : ∀ result ∈ results, ∀ v ∈ verdictsOf c.number result.memoryEntries,
    v.domain = task.domain.value → result.taskId = task.taskId
  once : ∀ result ∈ results, result.taskId = task.taskId →
    isStrategyBlocked strategy task.domain.value task.strategyKey = false ∧
      ∃ outcome, verdictsOf c.number result.memoryEntries =
        [⟨task.domain.value, task.strategyKey, outcome, c.number⟩]

/-- What is told of a task that was executed stands alone among what the memory is told. -/
theorem Tells.split {results : List (CycleResult std)} (h : Tells c strategy results task)
    (hnodup : (resultIds results).Nodup) {result : CycleResult std} (hresult : result ∈ results)
    (hid : result.taskId = task.taskId) {v : Verdict}
    (hverdict : verdictsOf c.number result.memoryEntries = [v]) :
    ∃ before after, (sortResults results).flatMap
        (fun result => verdictsOf c.number result.memoryEntries) = before ++ v :: after ∧
      ∀ w ∈ before ++ after, w.domain ≠ task.domain.value := by
  have hsorted : (sortResults results).Perm results := List.perm_insertionSort _ _
  obtain ⟨before, after, hsplit⟩ := List.append_of_mem (hsorted.mem_iff.mpr hresult)
  have hdistinct : result ∉ before ++ after := by
    have hall : (before ++ result :: after).Nodup := by
      rw [← hsplit]
      exact hsorted.nodup_iff.mpr (List.Nodup.of_map _ hnodup)
    rw [List.nodup_middle, List.nodup_cons] at hall
    exact hall.1
  refine ⟨before.flatMap fun result => verdictsOf c.number result.memoryEntries,
    after.flatMap fun result => verdictsOf c.number result.memoryEntries, ?_, ?_⟩
  · rw [hsplit, List.flatMap_append, List.flatMap_cons, hverdict, List.singleton_append]
  · intro w hw hdomain
    rw [← List.flatMap_append, List.mem_flatMap] at hw
    obtain ⟨other, hother, hw⟩ := hw
    have hmem : other ∈ results := by
      rw [← hsorted.mem_iff, hsplit, List.mem_append, List.mem_cons]
      exact (List.mem_append.mp hother).imp_right .inr
    obtain rfl : other = result :=
      List.inj_on_of_nodup_map hnodup hmem hresult ((h.own other hmem w hw hdomain).trans hid.symm)
    exact hdistinct hother

end Step

/-! ### Runs -/

section Runs

variable {Time : Type} [LinearOrder Time] {millis : Time → Int} {clock : Nat → Time × Time}
  {timeValue : Time → PyVal} {cycles : List (Cycle std)} {strategy : List (StrategyEntry Time)}
  {n : Int} {task : CycleTask}

end Runs

end Vrl.Coordinator

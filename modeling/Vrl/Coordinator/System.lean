import Vrl.Lib.PyStd

/-!
# Vrl.Coordinator.System

The scheduler of the agent team (`coordinator/system.py`): tasks that depend on one another
are executed in passes, each pass taking the tasks whose dependencies have completed.

What an agent makes of a task, in which order a pass completes, and what the shared memory
decides about a task when it is asked are left to an `Environment`. A task is asked about
once, so a memory that changes between two passes is one of them.
-/

open TextCodec

namespace Vrl.Coordinator

/-! ### Tasks -/

/-- `TaskDomain`. -/
inductive TaskDomain where
  | architecture
  | circuit
  | backend
  | verification
  | performance
  | security
  | dataIntegrity
  | devops
  | testing
  | research
  | coordination
  deriving DecidableEq, Repr

/-- `Task`, as far as the scheduler reads it. -/
structure Task where
  taskId : String
  domain : TaskDomain
  dependsOn : List String := []
  strategyKey : String := ""
  deriving DecidableEq, Repr

/-- The status of a result. -/
inductive TaskStatus where
  | success
  | failure
  deriving DecidableEq, Repr

/-- `TaskResult`, as far as the scheduler reads it. -/
structure TaskResult where
  taskId : String
  status : TaskStatus
  deriving DecidableEq, Repr

/-- Why a task was not executed. -/
inductive BlockReason where
  | dependencyFailed (failedDependencies : List String)
  | memoryBlocked (strategyKey : String) (latestEntry : PyVal)

/-- An entry of `blocked_tasks`. -/
structure BlockedTask where
  taskId : String
  domain : TaskDomain
  reason : BlockReason

/-- The members of `control_decision` that the scheduler reads. -/
structure ControlDecision where
  blocked : Bool
  latestEntry : PyVal

/-- Agents, thread pool and shared memory, as the scheduler sees them. -/
structure Environment where
  controlDecision : Task → ControlDecision
  succeeds : Task → Bool
  asCompleted : List Task → List Task
  asCompleted_perm : ∀ tasks, (asCompleted tasks).Perm tasks

/-! ### A pass -/

/-- The state of `_execute_dag` between two passes. -/
structure DagState where
  pending : List Task
  completed : List String
  terminalFailures : List String
  results : List TaskResult
  blockedTasks : List BlockedTask

/-- What a pass over the pending tasks collects. -/
structure Scan where
  terminalFailures : List String
  blockedTasks : List BlockedTask
  ready : List Task
  toRemove : List String

/-- `pending[task.task_id] = task`. -/
def putTask (pending : List Task) (task : Task) : List Task :=
  if pending.any (·.taskId = task.taskId) then
    pending.map fun t => if t.taskId = task.taskId then task else t
  else pending ++ [task]

/-- `sorted(pending.items())`. -/
def sortTasks (pending : List Task) : List Task :=
  pending.insertionSort fun s t => s.taskId ≤ t.taskId

variable (env : Environment)

/-- The body of the loop over the pending tasks. -/
def visit (completed : List String) (scan : Scan) (task : Task) : Scan :=
  let failedDependencies := task.dependsOn.filter (· ∈ scan.terminalFailures)
  if failedDependencies ≠ [] then
    -- the task is not recorded among the terminal failures here
    { scan with
      blockedTasks := scan.blockedTasks ++
        [⟨task.taskId, task.domain, .dependencyFailed failedDependencies⟩]
      toRemove := scan.toRemove ++ [task.taskId] }
  else if ∀ dependency ∈ task.dependsOn, dependency ∈ completed then
    let decision := env.controlDecision task
    if decision.blocked then
      { scan with
        terminalFailures := scan.terminalFailures ++ [task.taskId]
        blockedTasks := scan.blockedTasks ++
          [⟨task.taskId, task.domain, .memoryBlocked task.strategyKey decision.latestEntry⟩]
        toRemove := scan.toRemove ++ [task.taskId] }
    else
      { scan with
        ready := scan.ready ++ [task]
        toRemove := scan.toRemove ++ [task.taskId] }
  else scan

/-- The loop over the pending tasks, in the order of their ids. -/
def scanPending (st : DagState) : Scan :=
  (sortTasks st.pending).foldl (visit env st.completed)
    { terminalFailures := st.terminalFailures, blockedTasks := st.blockedTasks,
      ready := [], toRemove := [] }

/-- `_execute_ready_set`. -/
def executeReadySet (ready : List Task) : List TaskResult :=
  (env.asCompleted ready).map fun task =>
    ⟨task.taskId, if env.succeeds task then .success else .failure⟩

/-- The body of the loop over the results of a pass. -/
def record (st : DagState) (result : TaskResult) : DagState :=
  match result.status with
  | .success =>
      { st with
        completed := st.completed ++ [result.taskId]
        results := st.results ++ [result] }
  | .failure =>
      { st with
        terminalFailures := st.terminalFailures ++ [result.taskId]
        results := st.results ++ [result] }

/-- What a pass leads to. -/
inductive Pass where
  | finished (results : List TaskResult) (blockedTasks : List BlockedTask)
  | stalled (pending : List Task)
  | next (st : DagState)

/-- The tasks that a scan leaves pending. -/
def remaining (st : DagState) (scan : Scan) : List Task :=
  st.pending.filter fun task => task.taskId ∉ scan.toRemove

/-- The body of `while pending`. -/
def pass (st : DagState) : Pass :=
  let scan := scanPending env st
  let pending := remaining st scan
  if scan.ready = [] then
    if pending = [] then .finished st.results scan.blockedTasks else .stalled pending
  else
    .next ((executeReadySet env scan.ready).foldl record { st with
      pending
      terminalFailures := scan.terminalFailures
      blockedTasks := scan.blockedTasks })

/-! ### What a pass removes -/

section Scan

variable {env} {completed : List String} {scan : Scan} {task : Task}

/-- All dependencies of the task have completed. -/
def Done (completed : List String) (task : Task) : Prop :=
  ∀ dependency ∈ task.dependsOn, dependency ∈ completed

/-- A dependency of the task is known to have failed. -/
def HasFailed (terminalFailures : List String) (task : Task) : Prop :=
  ∃ dependency ∈ task.dependsOn, dependency ∈ terminalFailures

/-- **What a visit does.** -/
theorem visit_cases (env : Environment) (completed : List String) (scan : Scan) (task : Task) :
    (HasFailed scan.terminalFailures task ∧ ∃ entry : BlockedTask, entry.taskId = task.taskId ∧
      visit env completed scan task = { scan with
        blockedTasks := scan.blockedTasks ++ [entry]
        toRemove := scan.toRemove ++ [task.taskId] }) ∨
    (¬ HasFailed scan.terminalFailures task ∧ Done completed task ∧
      (env.controlDecision task).blocked = true ∧
      ∃ entry : BlockedTask, entry.taskId = task.taskId ∧
        visit env completed scan task = { scan with
          terminalFailures := scan.terminalFailures ++ [task.taskId]
          blockedTasks := scan.blockedTasks ++ [entry]
          toRemove := scan.toRemove ++ [task.taskId] }) ∨
    (¬ HasFailed scan.terminalFailures task ∧ Done completed task ∧
      (env.controlDecision task).blocked = false ∧
      visit env completed scan task = { scan with
        ready := scan.ready ++ [task]
        toRemove := scan.toRemove ++ [task.taskId] }) ∨
    (¬ HasFailed scan.terminalFailures task ∧ ¬ Done completed task ∧
      visit env completed scan task = scan) := by
  have hfailed : task.dependsOn.filter (· ∈ scan.terminalFailures) ≠ [] ↔
      HasFailed scan.terminalFailures task := by
    rw [Ne, List.filter_eq_nil_iff]
    simp [HasFailed]
  unfold visit
  dsimp only
  split_ifs with h1 h2 h3
  · exact .inl ⟨hfailed.mp h1, _, rfl, rfl⟩
  · exact .inr (.inl ⟨fun h => h1 (hfailed.mpr h), h2, h3, _, rfl, rfl⟩)
  · exact .inr (.inr (.inl ⟨fun h => h1 (hfailed.mpr h), h2, by simpa using h3, rfl⟩))
  · exact .inr (.inr (.inr ⟨fun h => h1 (hfailed.mpr h), h2, rfl⟩))

/-- What the visits to a list of tasks add: every task that is removed is ready or blocked. -/
structure Scan.Extends (completed : List String) (tasks : List Task) (scan scan' : Scan)
    (ready : List Task) (blocked : List BlockedTask) (removed : List String) : Prop where
  ready_eq : scan'.ready = scan.ready ++ ready
  blocked_eq : scan'.blockedTasks = scan.blockedTasks ++ blocked
  removed_eq : scan'.toRemove = scan.toRemove ++ removed
  ready_sublist : ready.Sublist tasks
  removed_sublist : removed.Sublist (tasks.map (·.taskId))
  split : (ready.map (·.taskId) ++ blocked.map (·.taskId)).Perm removed
  ready_done : ∀ t ∈ ready, Done completed t

theorem visit_extends (env : Environment) (completed : List String) (scan : Scan) (task : Task) :
    ∃ ready blocked removed,
      scan.Extends completed [task] (visit env completed scan task) ready blocked removed := by
  rcases visit_cases env completed scan task with
    ⟨-, entry, hid, h⟩ | ⟨-, -, -, entry, hid, h⟩ | ⟨-, hdone, -, h⟩ | ⟨-, -, h⟩
  · refine ⟨[], [entry], [task.taskId], ?_⟩
    rw [h]
    constructor <;> simp [hid]
  · refine ⟨[], [entry], [task.taskId], ?_⟩
    rw [h]
    constructor <;> simp [hid]
  · refine ⟨[task], [], [task.taskId], ?_⟩
    rw [h]
    constructor <;> simp [hdone]
  · refine ⟨[], [], [], ?_⟩
    rw [h]
    constructor <;> simp

theorem foldl_visit_extends (env : Environment) (completed : List String) (tasks : List Task) :
    ∀ scan : Scan, ∃ ready blocked removed,
      scan.Extends completed tasks (tasks.foldl (visit env completed) scan) ready blocked
        removed := by
  induction tasks with
  | nil =>
      intro scan
      refine ⟨[], [], [], ?_⟩
      constructor <;> simp
  | cons task tasks ih =>
      intro scan
      obtain ⟨ready, blocked, removed, h⟩ := visit_extends env completed scan task
      obtain ⟨ready', blocked', removed', h'⟩ := ih (visit env completed scan task)
      refine ⟨ready ++ ready', blocked ++ blocked', removed ++ removed', ?_⟩
      have hsplit : ((ready ++ ready').map (·.taskId) ++ (blocked ++ blocked').map (·.taskId)).Perm
          (removed ++ removed') := by
        refine List.Perm.trans ?_ (h.split.append h'.split)
        simp only [List.map_append, List.append_assoc]
        refine List.Perm.append_left _ ?_
        simp only [← List.append_assoc]
        exact List.Perm.append_right _ List.perm_append_comm
      exact {
        ready_eq := by rw [List.foldl_cons, h'.ready_eq, h.ready_eq, List.append_assoc]
        blocked_eq := by rw [List.foldl_cons, h'.blocked_eq, h.blocked_eq, List.append_assoc]
        removed_eq := by rw [List.foldl_cons, h'.removed_eq, h.removed_eq, List.append_assoc]
        ready_sublist := h.ready_sublist.append h'.ready_sublist
        removed_sublist := h.removed_sublist.append h'.removed_sublist
        split := hsplit
        ready_done := by
          intro t ht
          rcases List.mem_append.mp ht with ht | ht
          · exact h.ready_done t ht
          · exact h'.ready_done t ht }

end Scan

/-! ### The loop -/

theorem sortTasks_perm (tasks : List Task) : (sortTasks tasks).Perm tasks :=
  List.perm_insertionSort _ _

/-- What the scan of the pending tasks collects. -/
theorem scanPending_extends (st : DagState) : ∃ ready blocked removed,
    Scan.Extends st.completed (sortTasks st.pending)
      { terminalFailures := st.terminalFailures, blockedTasks := st.blockedTasks,
        ready := [], toRemove := [] }
      (scanPending env st) ready blocked removed :=
  foldl_visit_extends env st.completed (sortTasks st.pending) _

/-- A ready task is pending and will be removed. -/
theorem mem_ready {st : DagState} {t : Task} (h : t ∈ (scanPending env st).ready) :
    t ∈ st.pending ∧ t.taskId ∈ (scanPending env st).toRemove := by
  obtain ⟨ready, blocked, removed, hscan⟩ := scanPending_extends env st
  rw [hscan.ready_eq, List.nil_append] at h
  refine ⟨(sortTasks_perm st.pending).mem_iff.mp (hscan.ready_sublist.subset h), ?_⟩
  rw [hscan.removed_eq, List.nil_append, ← hscan.split.mem_iff]
  exact List.mem_append_left _ (List.mem_map_of_mem h)

theorem remaining_length_lt {st : DagState} (h : (scanPending env st).ready ≠ []) :
    (remaining st (scanPending env st)).length < st.pending.length := by
  obtain ⟨t, ht⟩ := List.exists_mem_of_ne_nil _ h
  obtain ⟨hpending, hremove⟩ := mem_ready env ht
  rw [remaining, List.length_filter_lt_length_iff_exists]
  exact ⟨t, hpending, by simpa using hremove⟩

@[simp] theorem record_pending (st : DagState) (result : TaskResult) :
    (record st result).pending = st.pending := by
  unfold record
  split <;> rfl

@[simp] theorem foldl_record_pending (results : List TaskResult) :
    ∀ st : DagState, (results.foldl record st).pending = st.pending := by
  induction results with
  | nil => exact fun _ => rfl
  | cons result results ih =>
      intro st
      rw [List.foldl_cons, ih, record_pending]

/-- A pass that executes tasks leaves fewer pending. -/
theorem pass_next_lt {st st' : DagState} (h : pass env st = .next st') :
    st'.pending.length < st.pending.length := by
  unfold pass at h
  dsimp only at h
  split_ifs at h with hready hpending
  cases h
  rw [foldl_record_pending]
  exact remaining_length_lt env hready

/-- The text of a list of ids, `str(ids)`. -/
def idsText (ids : List String) : String :=
  "[" ++ String.intercalate ", " (ids.map fun id => "'" ++ id ++ "'") ++ "]"

/-- `while pending`. -/
def loop (st : DagState) : Except PyError (List TaskResult × List BlockedTask) :=
  if st.pending = [] then .ok (st.results, st.blockedTasks)
  else
    match _h : pass env st with
    | .finished results blockedTasks => .ok (results, blockedTasks)
    | .stalled pending =>
        .error ⟨.runtimeError, "Artifact DAG stalled with unresolved tasks: " ++
          idsText ((sortTasks pending).map (·.taskId))⟩
    | .next st' => loop st'
termination_by st.pending.length
decreasing_by exact pass_next_lt env _h

/-- `_execute_dag`. -/
def executeDag (tasks : List Task) : Except PyError (List TaskResult × List BlockedTask) :=
  loop env { pending := tasks.foldl putTask [], completed := [], terminalFailures := [],
             results := [], blockedTasks := [] }

end Vrl.Coordinator

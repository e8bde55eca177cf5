import Vrl.Coordinator.ArtifactGraphRuns
import Vrl.Coordinator.System
import Vrl.Memory.ApplyEntries

/-!
# Vrl.Coordinator.Cycle

The scheduler with the artifacts that its tasks pass on (`coordinator/system.py`).

A task is prepared with the artifacts that it requires when a pass finds it ready. What its agent
reports is held to the limits of the task, and only what is still a success then goes into the
graph. An exception in between leaves the graph as it is at that moment.

Agents, thread pool and shared memory are a `Team`: what an agent makes of a prepared task, in
which order a pass completes, what the memory decides. How durations are written is left to it
as well.
-/

open TextCodec Pydantic Vrl.Zk

namespace Vrl.Coordinator

variable {std : PyStd}

/-! ### Looking up artifacts -/

/-- The values of `ArtifactType`. -/
def ArtifactType.value : ArtifactType → String
  | .circuit => "circuit"
  | .trace => "trace"
  | .witness => "witness"
  | .proof => "proof"
  | .verificationResult => "verification_result"

/-- `repr` of an optional name. -/
def nameText : Option String → String
  | some name => "'" ++ name ++ "'"
  | none => "None"

/-- `repr` of an optional number. -/
def numberText : Option Int → String
  | some i => String.ofList (intText i)
  | none => "None"

namespace DeterministicArtifact

/-- `cycle`. -/
def cycle : DeterministicArtifact std → Int
  | .circuit c => c.cycle
  | .trace t => t.cycle
  | .witness w => w.cycle
  | .proof p => p.cycle
  | .verificationResult r => r.cycle

/-- `canonical_payload`, which raises at an integer that is too long. -/
def canonicalPayload : DeterministicArtifact std → Except PyError String
  | .circuit c => checkedCanonicalJson std (.dict c.dump)
  | .trace t => checkedCanonicalJson std (.dict (t.dump std))
  | .witness w => checkedCanonicalJson std (.dict (w.dump std))
  | .proof p => checkedCanonicalJson std (.dict (proofDump std p))
  | .verificationResult r => checkedCanonicalJson std (.dict (resultDump r))

/-- `artifact_size_bytes`. -/
def sizeBytes (artifact : DeterministicArtifact std) : Except PyError Nat := do
  return (← artifact.canonicalPayload).utf8ByteSize

/-- `constraint_count` of a circuit, no constraints of other artifacts. -/
def constraintCount : DeterministicArtifact std → Int
  | .circuit c => c.constraintCount
  | _ => 0

/-- The order in which `latest` sorts. -/
def Le (a b : DeterministicArtifact std) : Prop :=
  a.cycle < b.cycle ∨ a.cycle = b.cycle ∧ a.artifactId ≤ b.artifactId

instance : DecidableRel (@Le std) := fun _ _ => inferInstanceAs (Decidable (_ ∨ _))

end DeterministicArtifact

namespace ArtifactGraph

/-- `get`. -/
def get (g : ArtifactGraph std) (artifactId : String) :
    Except PyError (DeterministicArtifact std) :=
  match g.artifacts.find? fun a => a.artifactId = artifactId with
  | some artifact => .ok artifact
  | none => .error ⟨.keyError, "Artifact not found: " ++ artifactId⟩

/-- `self._artifacts[artifact_id]`. -/
def stored (g : ArtifactGraph std) (artifactId : String) :
    Except PyError (DeterministicArtifact std) :=
  match g.artifacts.find? fun a => a.artifactId = artifactId with
  | some artifact => .ok artifact
  | none => .error ⟨.keyError, nameText artifactId⟩

/-- `artifacts_by_type`. -/
def artifactsByType (g : ArtifactGraph std) (artifactType : ArtifactType) :
    Except PyError (List (DeterministicArtifact std)) :=
  ((g.byType.lookup artifactType).getD []).mapM g.stored

/-- `latest`. -/
def latest (g : ArtifactGraph std) (artifactType : ArtifactType) (producedBy : Option String)
    (cycle : Option Int) : Except PyError (DeterministicArtifact std) := do
  let candidates ← g.artifactsByType artifactType
  let candidates := candidates.filter fun a => producedBy.all (a.producedBy = ·)
  let candidates := candidates.filter fun a => cycle.all (a.cycle = ·)
  match (candidates.insertionSort DeterministicArtifact.Le).getLast? with
  | some artifact => .ok artifact
  | none => .error ⟨.keyError, "No artifact available for type=" ++ nameText artifactType.value ++
      ", produced_by=" ++ nameText producedBy ++ ", cycle=" ++ numberText cycle⟩

/-- `require`. -/
def require (g : ArtifactGraph std) (artifactType : ArtifactType) (producedBy : Option String)
    (cycle : Option Int) : Option String → Except PyError (DeterministicArtifact std)
  | some artifactId => do
      let artifact ← g.get artifactId
      if artifact.artifactType = artifactType then return artifact
      else .error ⟨.typeError, "Artifact " ++ artifactId ++ " has type " ++
        artifact.artifactType.value ++ ", expected " ++ artifactType.value⟩
  | none => g.latest artifactType producedBy cycle

end ArtifactGraph

/-! ### Tasks -/

/-- An entry of `artifact_requirements`. -/
structure ArtifactRequirement where
  artifactType : ArtifactType
  producedBy : Option String := none
  artifactId : Option String := none
  deriving DecidableEq, Repr

/-- `Task`, as far as a cycle reads it. -/
structure CycleTask extends Task where
  cycle : Int
  produces : List ArtifactType := []
  artifactRequirements : List ArtifactRequirement := []
  maxExecutionMs : Option Rat := none
  maxArtifactBytes : Option Int := none
  maxCircuitConstraints : Option Int := none
  deriving DecidableEq

variable (std) in
/-- A task with the artifacts that it is given. -/
structure PreparedTask extends CycleTask where
  artifactInputs : List (ArtifactType × List (DeterministicArtifact std))
  consumedArtifactIds : List String

/-- `bucket.setdefault(artifact_type, []).append(artifact)`. -/
def addInput (artifact : DeterministicArtifact std) :
    List (ArtifactType × List (DeterministicArtifact std)) →
      List (ArtifactType × List (DeterministicArtifact std))
  | [] => [(artifact.artifactType, [artifact])]
  | (artifactType, artifacts) :: bucket =>
      if artifactType = artifact.artifactType then (artifactType, artifacts ++ [artifact]) :: bucket
      else (artifactType, artifacts) :: addInput artifact bucket

/-- The artifacts that a task requires, in the order of its requirements. -/
def requiredArtifacts (task : CycleTask) (g : ArtifactGraph std) :
    Except PyError (List (DeterministicArtifact std)) :=
  task.artifactRequirements.mapM fun requirement =>
    g.require requirement.artifactType requirement.producedBy (some task.cycle)
      requirement.artifactId

/-- `_prepare_task`, with `_resolve_artifact_inputs`. -/
def prepareTask (task : CycleTask) (g : ArtifactGraph std) : Except PyError (PreparedTask std) := do
  let artifacts ← requiredArtifacts task g
  return { task with
    artifactInputs := artifacts.foldl (fun bucket artifact => addInput artifact bucket) []
    consumedArtifactIds := sortedParents (artifacts.map DeterministicArtifact.artifactId) }

/-! ### Agents and results -/

/-- The values of `TaskDomain`. -/
def TaskDomain.value : TaskDomain → String
  | .architecture => "architecture"
  | .circuit => "circuit"
  | .backend => "backend"
  | .verification => "verification"
  | .performance => "performance"
  | .security => "security"
  | .dataIntegrity => "data_integrity"
  | .devops => "devops"
  | .testing => "testing"
  | .research => "research"
  | .coordination => "coordination"

/-- `BaseAgent`. -/
structure Agent where
  agentId : String
  domain : TaskDomain
  deriving DecidableEq, Repr

variable (std) in
/-- What an agent passes to `_make_result`, as far as the coordinator reads it, and how long it
took. -/
structure AgentReport where
  status : TaskStatus
  producedArtifacts : List (DeterministicArtifact std) := []
  consumedArtifactIds : List String := []
  errors : List String := []
  constraintViolations : List String := []
  durationMs : Rat := 0
  memoryEntries : List Memory.MemoryEntry := []

variable (std) in
/-- `TaskResult`, as far as the coordinator reads it. -/
structure CycleResult extends AgentReport std where
  taskId : String
  agentId : String

variable (std) in
/-- The agents, and what is outside the scheduler: what they report or raise, how a pass
completes, the memory, and how durations are written. -/
structure Team where
  agents : List Agent
  run : Agent → PreparedTask std → Except String (AgentReport std)
  controlDecision : Task → ControlDecision
  asCompleted : List (Agent × PreparedTask std) → List (Agent × PreparedTask std)
  asCompleted_perm : ∀ assignments, (asCompleted assignments).Perm assignments
  roundedText : Rat → String
  limitText : Rat → String

variable (team : Team std)

/-- `_assign`. -/
def assign (task : PreparedTask std) : Except PyError Agent :=
  match team.agents.find? fun agent => agent.domain = task.domain with
  | some agent => .ok agent
  | none => .error ⟨.runtimeError, "No agent available for task " ++ task.taskId ++ " (" ++
      task.domain.value ++ ")"⟩

/-! ### The limits of a task -/

/-- `sorted(item.value for item in types)`. -/
def typesText (types : List ArtifactType) : String :=
  idsText ((types.map ArtifactType.value).insertionSort (· ≤ ·))

/-- The types of the artifacts are not those that the task produces. -/
def typeViolations (task : CycleTask) (types : List ArtifactType) : List String :=
  if types.Perm task.produces then []
  else ["Produced artifact types " ++ typesText types ++ " do not match expected " ++
    typesText task.produces]

/-- The execution took too long. -/
def timeViolations (task : CycleTask) (durationMs : Rat) : List String :=
  match task.maxExecutionMs with
  | some limit =>
      if limit < durationMs then
        ["Execution exceeded limit: " ++ team.roundedText durationMs ++ "ms > " ++
          team.limitText limit ++ "ms"]
      else []
  | none => []

/-- An artifact is too large. -/
def sizeViolation (limit : Int) (artifact : DeterministicArtifact std) :
    Except PyError (List String) := do
  let size : Nat ← artifact.sizeBytes
  return if limit < size then
    ["Artifact " ++ artifact.artifactId ++ " exceeded size limit: " ++
      String.ofList (natText size) ++ " > " ++ String.ofList (intText limit)]
  else []

/-- The artifacts that are too large, which raises where a size cannot be computed. -/
def sizeViolations (task : CycleTask) (artifacts : List (DeterministicArtifact std)) :
    Except PyError (List String) :=
  match task.maxArtifactBytes with
  | some limit => do return (← artifacts.mapM (sizeViolation limit)).flatten
  | none => .ok []

/-- The circuits that have too many constraints. -/
def complexityViolations (task : CycleTask) (artifacts : List (DeterministicArtifact std)) :
    List String :=
  match task.maxCircuitConstraints with
  | some limit => artifacts.flatMap fun artifact =>
      if artifact.artifactType = .circuit ∧ limit < artifact.constraintCount then
        ["CIRCUIT " ++ artifact.artifactId ++ " exceeded complexity limit: " ++
          String.ofList (intText artifact.constraintCount) ++ " > " ++
          String.ofList (intText limit)]
      else []
  | none => []

/-- `_enforce_task_constraints`. -/
def enforceTaskConstraints (task : PreparedTask std) (result : CycleResult std) :
    Except PyError (CycleResult std) := do
  let artifacts := result.producedArtifacts
  let sizes ← sizeViolations task.toCycleTask artifacts
  let violations := result.constraintViolations ++
    typeViolations task.toCycleTask (artifacts.map DeterministicArtifact.artifactType) ++
    timeViolations team task.toCycleTask result.durationMs ++ sizes ++
    complexityViolations task.toCycleTask artifacts
  let consumedArtifactIds :=
    if result.consumedArtifactIds = [] then task.consumedArtifactIds
    else result.consumedArtifactIds
  if violations = [] then return { result with consumedArtifactIds, constraintViolations := [] }
  else return { result with
    consumedArtifactIds
    constraintViolations := violations
    status := .failure
    errors := result.errors ++ violations
    producedArtifacts := [] }

/-- The result of an agent that raised. -/
def raisedResult (agent : Agent) (task : PreparedTask std) (text : String) : CycleResult std where
  status := .failure
  errors := [text]
  memoryEntries := [{
    type := "strategy"
    domain := some agent.domain.value
    outcome := some "failure"
    pattern := some (if task.strategyKey = "" then "agent_execution_exception"
      else task.strategyKey)
    detail := some text
    tags := some ["coordinator", "exception"] }]
  taskId := task.taskId
  agentId := agent.agentId

/-- The result of an assignment: what the agent reports is held to the limits of the task. -/
def execute (assignment : Agent × PreparedTask std) : Except PyError (CycleResult std) :=
  match team.run assignment.1 assignment.2 with
  | .ok report => enforceTaskConstraints team assignment.2
      { report with taskId := assignment.2.taskId, agentId := assignment.1.agentId }
  | .error text => .ok (raisedResult assignment.1 assignment.2 text)

/-- `_execute_ready_set`. -/
def executeAssignments (assignments : List (Agent × PreparedTask std)) :
    Except PyError (List (CycleResult std)) :=
  (team.asCompleted assignments).mapM (execute team)

/-! ### A pass -/

/-- Where `_execute_dag` raises. -/
inductive Place where
  | resolution
  | assignment
  | enforcement
  | recording
  | stall
  deriving DecidableEq, Repr

variable (std) in
/-- The state of `_execute_dag` between two passes, and the graph. -/
structure CycleState where
  pending : List CycleTask
  completed : List String
  terminalFailures : List String
  results : List (CycleResult std)
  blockedTasks : List BlockedTask
  graph : ArtifactGraph std

variable (std) in
/-- What a pass over the pending tasks collects. -/
structure CycleScan where
  terminalFailures : List String
  blockedTasks : List BlockedTask
  readyAssignments : List (Agent × PreparedTask std)
  toRemove : List String

/-- An exception of the given place. -/
def raisedAt {α : Type} (place : Place) : Except PyError α → Except (Place × PyError) α
  | .ok a => .ok a
  | .error e => .error (place, e)

/-- `sorted(pending.items())`. -/
def sortCycleTasks (pending : List CycleTask) : List CycleTask :=
  pending.insertionSort fun s t => s.taskId ≤ t.taskId

/-- The body of the loop over the pending tasks. -/
def visitTask (completed : List String) (g : ArtifactGraph std) (scan : CycleScan std)
    (task : CycleTask) : Except (Place × PyError) (CycleScan std) :=
  let failedDependencies := task.dependsOn.filter (· ∈ scan.terminalFailures)
  if failedDependencies ≠ [] then
    .ok { scan with
      blockedTasks := scan.blockedTasks ++
        [⟨task.taskId, task.domain, .dependencyFailed failedDependencies⟩]
      toRemove := scan.toRemove ++ [task.taskId] }
  else if ∀ dependency ∈ task.dependsOn, dependency ∈ completed then
    let decision := team.controlDecision task.toTask
    if decision.blocked then
      .ok { scan with
        terminalFailures := scan.terminalFailures ++ [task.taskId]
        blockedTasks := scan.blockedTasks ++
          [⟨task.taskId, task.domain, .memoryBlocked task.strategyKey decision.latestEntry⟩]
        toRemove := scan.toRemove ++ [task.taskId] }
    else do
      let preparedTask ← raisedAt .resolution (prepareTask task g)
      let agent ← raisedAt .assignment (assign team preparedTask)
      return { scan with
        readyAssignments := scan.readyAssignments ++ [(agent, preparedTask)]
        toRemove := scan.toRemove ++ [task.taskId] }
  else .ok scan

/-- The loop over the pending tasks, in the order of their ids. -/
def scanTasks (st : CycleState std) : Except (Place × PyError) (CycleScan std) :=
  (sortCycleTasks st.pending).foldlM (visitTask team st.completed st.graph)
    { terminalFailures := st.terminalFailures, blockedTasks := st.blockedTasks,
      readyAssignments := [], toRemove := [] }

/-- The loop over the artifacts of a result. -/
def addArtifacts (consumedArtifactIds : List String) :
    List (DeterministicArtifact std) → ArtifactGraph std → ArtifactGraph std × Except PyError Unit
  | [], g => (g, .ok ())
  | artifact :: artifacts, g =>
      match g.addArtifact artifact consumedArtifactIds with
      | (g', .ok _) => addArtifacts consumedArtifactIds artifacts g'
      | (g', .error e) => (g', .error e)

/-- The loop over the results of a pass. -/
def recordResults : List (CycleResult std) → CycleState std → CycleState std × Except PyError Unit
  | [], st => (st, .ok ())
  | result :: results, st =>
      match result.status with
      | .success =>
          match addArtifacts result.consumedArtifactIds result.producedArtifacts st.graph with
          | (graph, .ok _) =>
              recordResults results { st with
                completed := st.completed ++ [result.taskId]
                results := st.results ++ [result]
                graph }
          | (graph, .error e) => ({ st with graph }, .error e)
      | .failure =>
          recordResults results { st with
            terminalFailures := st.terminalFailures ++ [result.taskId]
            results := st.results ++ [result] }

variable (std) in
/-- What a pass leads to: an end, with the graph that is left and how it came to it, or another
pass. -/
inductive CyclePass where
  | ended (st : CycleState std) (stop : Except (Place × PyError) Unit)
  | next (st : CycleState std)

/-- The state after the scan of a pass. -/
def CycleState.scanned (st : CycleState std) (scan : CycleScan std) : CycleState std :=
  { st with
    pending := st.pending.filter fun task => task.taskId ∉ scan.toRemove
    terminalFailures := scan.terminalFailures
    blockedTasks := scan.blockedTasks }

/-- The body of `while pending`. -/
def cyclePass (st : CycleState std) : CyclePass std :=
  match scanTasks team st with
  | .error e => .ended st (.error e)
  | .ok scan =>
      let st := st.scanned scan
      if scan.readyAssignments = [] then
        if st.pending = [] then .ended st (.ok ())
        else .ended st (.error (.stall, ⟨.runtimeError,
          "Artifact DAG stalled with unresolved tasks: " ++
            idsText ((sortCycleTasks st.pending).map (·.taskId))⟩))
      else
        match executeAssignments team scan.readyAssignments with
        | .error e => .ended st (.error (.enforcement, e))
        | .ok results =>
            match recordResults results st with
            | (st, .ok _) => .next st
            | (st, .error e) => .ended st (.error (.recording, e))

/-! ### The scheduler below -/

/-- A result as the scheduler sees it. -/
def CycleResult.outcome (result : CycleResult std) : TaskResult := ⟨result.taskId, result.status⟩

/-- A scan as the scheduler sees it. -/
def CycleScan.schedule (scan : CycleScan std) : Scan where
  terminalFailures := scan.terminalFailures
  blockedTasks := scan.blockedTasks
  ready := scan.readyAssignments.map fun assignment => assignment.2.toTask
  toRemove := scan.toRemove

/-- A state as the scheduler sees it. -/
def CycleState.schedule (st : CycleState std) : DagState where
  pending := st.pending.map CycleTask.toTask
  completed := st.completed
  terminalFailures := st.terminalFailures
  results := st.results.map CycleResult.outcome
  blockedTasks := st.blockedTasks

/-- An assignment that a pass makes of a task. -/
structure IsAssignment (g : ArtifactGraph std) (task : CycleTask)
    (assignment : Agent × PreparedTask std) : Prop where
  prepared : prepareTask task g = .ok assignment.2
  assigned : assign team assignment.2 = .ok assignment.1

section Scan

variable {team}

theorem raisedAt_eq_ok {α : Type} {place : Place} {x : Except PyError α} {a : α} :
    raisedAt place x = .ok a ↔ x = .ok a := by
  cases x <;> simp [raisedAt]

theorem prepareTask_toCycleTask {task : CycleTask} {g : ArtifactGraph std}
    {prepared : PreparedTask std} (h : prepareTask task g = .ok prepared) :
    prepared.toCycleTask = task := by
  obtain ⟨artifacts, -, h⟩ := Except.bind_eq_ok_iff.mp h
  cases h
  rfl

/-- **What a visit that does not raise does**: what the scheduler does, with an assignment for a
task that is ready. -/
theorem visitTask_ok {env : Environment} (henv : env.controlDecision = team.controlDecision)
    {completed : List String} {g : ArtifactGraph std} {scan scan' : CycleScan std}
    {task : CycleTask} (h : visitTask team completed g scan task = .ok scan') :
    scan'.schedule = visit env completed scan.schedule task.toTask ∧
      (scan'.readyAssignments = scan.readyAssignments ∨ ∃ assignment,
        scan'.readyAssignments = scan.readyAssignments ++ [assignment] ∧
          IsAssignment team g task assignment) := by
  by_cases hfailed : task.dependsOn.filter (· ∈ scan.terminalFailures) ≠ []
  · rw [visitTask, if_pos hfailed] at h
    cases h
    exact ⟨(if_pos hfailed).symm, .inl rfl⟩
  have hnot : visit env completed scan.schedule task.toTask = _ := if_neg hfailed
  rw [visitTask, if_neg hfailed] at h
  by_cases hdone : ∀ dependency ∈ task.dependsOn, dependency ∈ completed
  · rw [if_pos hdone] at h hnot
    rw [henv] at hnot
    cases hblocked : (team.controlDecision task.toTask).blocked with
    | true =>
        simp only [hblocked, if_true] at h hnot
        cases h
        exact ⟨hnot.symm, .inl rfl⟩
    | false =>
        simp only [hblocked, Bool.false_eq_true, if_false] at h hnot
        obtain ⟨prepared, hprepared, h⟩ := Except.bind_eq_ok_iff.mp h
        obtain ⟨agent, hagent, h⟩ := Except.bind_eq_ok_iff.mp h
        rw [raisedAt_eq_ok] at hprepared hagent
        cases h
        refine ⟨?_, .inr ⟨(agent, prepared), rfl, hprepared, hagent⟩⟩
        rw [hnot, CycleScan.schedule, List.map_append, ← prepareTask_toCycleTask hprepared]
        rfl
  · rw [if_neg hdone] at h hnot
    cases h
    exact ⟨hnot.symm, .inl rfl⟩

theorem foldlM_visitTask_ok {env : Environment} (henv : env.controlDecision = team.controlDecision)
    {completed : List String} {g : ArtifactGraph std} {tasks : List CycleTask}
    {scan scan' : CycleScan std} (h : tasks.foldlM (visitTask team completed g) scan = .ok scan') :
    scan'.schedule = (tasks.map CycleTask.toTask).foldl (visit env completed) scan.schedule ∧
      ∀ assignment ∈ scan'.readyAssignments, assignment ∈ scan.readyAssignments ∨
        ∃ task ∈ tasks, IsAssignment team g task assignment := by
  induction tasks generalizing scan with
  | nil =>
      cases h
      exact ⟨rfl, fun _ hmem => .inl hmem⟩
  | cons task tasks ih =>
      rw [List.foldlM_cons] at h
      obtain ⟨scan₁, hvisit, h⟩ := Except.bind_eq_ok_iff.mp h
      obtain ⟨hschedule, hready⟩ := visitTask_ok henv hvisit
      obtain ⟨hschedule', hready'⟩ := ih h
      refine ⟨?_, fun assignment hmem => ?_⟩
      · rw [hschedule', hschedule, List.map_cons, List.foldl_cons]
      · rcases hready' assignment hmem with hmem | ⟨t, ht, hassigned⟩
        · rcases hready with heq | ⟨new, heq, hassigned⟩
          · exact .inl (heq ▸ hmem)
          · rw [heq, List.mem_append, List.mem_singleton] at hmem
            rcases hmem with hmem | rfl
            · exact .inl hmem
            · exact .inr ⟨task, List.mem_cons_self .., hassigned⟩
        · exact .inr ⟨t, List.mem_cons_of_mem _ ht, hassigned⟩

theorem sortCycleTasks_map (pending : List CycleTask) :
    (sortCycleTasks pending).map CycleTask.toTask = sortTasks (pending.map CycleTask.toTask) :=
  List.map_insertionSort _ _ _ _ fun _ _ _ _ => Iff.rfl

/-- **A scan that does not raise is the scheduler's.** -/
theorem scanTasks_ok {env : Environment} (henv : env.controlDecision = team.controlDecision)
    {st : CycleState std} {scan : CycleScan std} (h : scanTasks team st = .ok scan) :
    scan.schedule = scanPending env st.schedule ∧
      ∀ assignment ∈ scan.readyAssignments,
        ∃ task ∈ st.pending, IsAssignment team st.graph task assignment := by
  obtain ⟨hschedule, hready⟩ := foldlM_visitTask_ok henv h
  refine ⟨?_, fun assignment hmem => ?_⟩
  · rw [hschedule, sortCycleTasks_map]
    rfl
  · rcases hready assignment hmem with hmem | ⟨task, htask, hassigned⟩
    · cases hmem
    · exact ⟨task, (List.perm_insertionSort _ _).mem_iff.mp htask, hassigned⟩

end Scan

/-! ### What a pass does -/

section Pass

variable {team} {st st' : CycleState std}

/-- Recording that does not raise is the scheduler's. -/
theorem recordResults_ok {results : List (CycleResult std)}
    (h : recordResults results st = (st', .ok ())) :
    st'.pending = st.pending ∧ st'.results = st.results ++ results ∧
      st'.schedule = (results.map CycleResult.outcome).foldl record st.schedule := by
  induction results generalizing st with
  | nil =>
      cases h
      exact ⟨rfl, (List.append_nil _).symm, rfl⟩
  | cons result results ih =>
      rw [recordResults] at h
      cases hstatus : result.status with
      | success =>
          rw [hstatus] at h
          dsimp only at h
          rcases hadd : addArtifacts result.consumedArtifactIds result.producedArtifacts
            st.graph with ⟨graph, stop⟩
          rw [hadd] at h
          cases stop with
          | error e => cases congrArg Prod.snd h
          | ok _ =>
              obtain ⟨hpending, hresults, hschedule⟩ := ih h
              refine ⟨hpending, ?_, ?_⟩
              · rw [hresults, List.append_assoc, List.singleton_append]
              · rw [hschedule, List.map_cons, List.foldl_cons]
                congr 1
                simp [record, CycleResult.outcome, hstatus, CycleState.schedule]
      | failure =>
          rw [hstatus] at h
          obtain ⟨hpending, hresults, hschedule⟩ := ih h
          refine ⟨hpending, ?_, ?_⟩
          · rw [hresults, List.append_assoc, List.singleton_append]
          · rw [hschedule, List.map_cons, List.foldl_cons]
            congr 1
            simp [record, CycleResult.outcome, hstatus, CycleState.schedule]

/-- **What a pass that leads to another one does.** -/
theorem cyclePass_next (h : cyclePass team st = .next st') :
    ∃ scan results, scanTasks team st = .ok scan ∧ scan.readyAssignments ≠ [] ∧
      executeAssignments team scan.readyAssignments = .ok results ∧
      recordResults results (st.scanned scan) = (st', .ok ()) := by
  unfold cyclePass at h
  cases hscan : scanTasks team st with
  | error e =>
      rw [hscan] at h
      cases h
  | ok scan =>
      rw [hscan] at h
      dsimp only at h
      split_ifs at h with hready
      cases hresults : executeAssignments team scan.readyAssignments with
      | error e =>
          rw [hresults] at h
          cases h
      | ok results =>
          rw [hresults] at h
          dsimp only at h
          rcases hrecord : recordResults results (st.scanned scan) with ⟨st₁, stop⟩
          rw [hrecord] at h
          cases stop with
          | error e => cases h
          | ok _ =>
              cases h
              exact ⟨scan, results, rfl, hready, hresults, hrecord⟩

/-- The tasks that a scan leaves pending are those that the scheduler's leaves. -/
theorem scanned_pending {env : Environment} (henv : env.controlDecision = team.controlDecision)
    {scan : CycleScan std} (h : scanTasks team st = .ok scan) :
    (st.scanned scan).pending.map CycleTask.toTask =
      remaining st.schedule (scanPending env st.schedule) := by
  rw [← (scanTasks_ok henv h).1, remaining, CycleState.schedule, List.filter_map]
  rfl

/-- The scheduler of a team, as far as a scan asks it. -/
def Team.environment (team : Team std) : Environment where
  controlDecision := team.controlDecision
  succeeds _ := true
  asCompleted tasks := tasks
  asCompleted_perm _ := .refl _

/-- A pass that leads to another one leaves fewer tasks pending. -/
theorem cyclePass_next_lt (h : cyclePass team st = .next st') :
    st'.pending.length < st.pending.length := by
  obtain ⟨scan, results, hscan, hready, -, hrecord⟩ := cyclePass_next h
  have henv : team.environment.controlDecision = team.controlDecision := rfl
  have hbase : (scanPending team.environment st.schedule).ready ≠ [] := by
    rw [← (scanTasks_ok henv hscan).1, CycleScan.schedule, Ne, List.map_eq_nil_iff]
    exact hready
  have hlt := remaining_length_lt team.environment hbase
  rw [← scanned_pending henv hscan, List.length_map, CycleState.schedule, List.length_map] at hlt
  rwa [(recordResults_ok hrecord).1]

end Pass

/-! ### Whole runs -/

/-- `while pending`: the state that is left, and whether the loop returns or raises. The lists of
a pass that raises are lost with it, the graph is not. -/
def cycleLoop (st : CycleState std) : CycleState std × Except (Place × PyError) Unit :=
  if st.pending = [] then (st, .ok ())
  else
    match _h : cyclePass team st with
    | .ended st' stop => (st', stop)
    | .next st' => cycleLoop st'
termination_by st.pending.length
decreasing_by exact cyclePass_next_lt _h

/-- `pending[task.task_id] = task`. -/
def putCycleTask (pending : List CycleTask) (task : CycleTask) : List CycleTask :=
  if pending.any (·.taskId = task.taskId) then
    pending.map fun t => if t.taskId = task.taskId then task else t
  else pending ++ [task]

variable (std) in
/-- The state before the first pass. -/
def startCycle (tasks : List CycleTask) : CycleState std where
  pending := tasks.foldl putCycleTask []
  completed := []
  terminalFailures := []
  results := []
  blockedTasks := []
  graph := ArtifactGraph.empty

/-- `_execute_dag` on a graph without artifacts. -/
def executeCycle (tasks : List CycleTask) : CycleState std × Except (Place × PyError) Unit :=
  cycleLoop team (startCycle std tasks)

end Vrl.Coordinator

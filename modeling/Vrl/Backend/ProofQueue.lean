import Vrl.Lib.Runs
import Vrl.Zk.Interfaces
import Vrl.Zk.PlonkAdapter
import Mathlib.Data.List.Chain

/-!
# Vrl.Backend.ProofQueue

The queue of proof jobs (`backend/proof_queue.py`): clients that submit jobs, workers that
execute them, and the list of events that tells the status of every job.

A submit looks the latest event of its job up and goes on to append a new one, with steps of
others in between. An event is appended in memory first and written to the log after; every
step says whether its writes succeeded. What a worker computes is left to its steps: they say
whether the proof was made.
-/

namespace Vrl

open Zk

/-! ### Jobs -/

/-- The status of a `ProofTask`. -/
inductive JobStatus where
  | pending
  | processing
  | completed
  | failed
  deriving DecidableEq, Repr

/-- `ProofTask`, as far as the queue reads it. -/
structure ProofTask where
  taskId : String
  witnessArtifactId : String
  circuitArtifactId : String
  traceHash : String
  inputHash : String
  status : JobStatus
  deriving DecidableEq, Repr

/-- The same job with another status. -/
def ProofTask.withStatus (task : ProofTask) (status : JobStatus) : ProofTask := { task with status }

@[simp] theorem ProofTask.withStatus_taskId (task : ProofTask) (status : JobStatus) :
    (task.withStatus status).taskId = task.taskId := rfl

@[simp] theorem ProofTask.withStatus_status (task : ProofTask) (status : JobStatus) :
    (task.withStatus status).status = status := rfl

/-- The payload that the id of a job is taken from. -/
def jobPayload (witnessArtifactId traceHash producedBy : String) (cycle : Int)
    (circuitHash : String) : PyVal :=
  .dict [("witness_artifact_id", .str witnessArtifactId), ("trace_hash", .str traceHash),
    ("produced_by", .str producedBy), ("cycle", .int cycle), ("circuit_hash", .str circuitHash)]

/-- The pending task of a `submit`. -/
def pendingTask (std : PyStd) (witness : Witness std) (traceHash producedBy : String)
    (cycle : Int) : Except PyError ProofTask := do
  let circuit ← compileCircuit std
  let hash ← canonicalHash std
    (jobPayload witness.artifactId traceHash producedBy cycle circuit.circuitHash)
  return {
    taskId := "proofjob_" ++ String.ofList (hash.toList.take 24)
    witnessArtifactId := witness.artifactId
    circuitArtifactId := "circuit_" ++ String.ofList (circuit.circuitHash.toList.take 24)
    traceHash
    inputHash := witness.inputHash
    status := .pending }

/-- The task is one that some `submit` makes. -/
def IsSubmitted (std : PyStd) (task : ProofTask) : Prop :=
  ∃ witness traceHash producedBy cycle,
    pendingTask std witness traceHash producedBy cycle = .ok task

theorem IsSubmitted.status {std : PyStd} {task : ProofTask} (h : IsSubmitted std task) :
    task.status = .pending := by
  obtain ⟨witness, traceHash, producedBy, cycle, h⟩ := h
  obtain ⟨circuit, -, h⟩ := Except.bind_eq_ok_iff.mp h
  obtain ⟨hash, -, h⟩ := Except.bind_eq_ok_iff.mp h
  cases h
  rfl

theorem pendingTask_ok (std : PyStd) (witness : Witness std) (traceHash producedBy : String)
    (cycle : Int) : ∃ task, pendingTask std witness traceHash producedBy cycle = .ok task := by
  obtain ⟨circuit, hcircuit⟩ := compileCircuit_ok std
  have hfree : floatFree (jobPayload witness.artifactId traceHash producedBy cycle
      circuit.circuitHash) = true := rfl
  obtain ⟨hash, hhash⟩ := canonicalHash_ok std hfree
  exact ⟨_, by rw [pendingTask, hcircuit]; simp only [Except.ok_bind, hhash]; rfl⟩

/-- Some task is submitted. -/
theorem exists_isSubmitted (std : PyStd) : ∃ task, IsSubmitted std task := by
  let data : WitnessData := ⟨"", "", "", "", [], []⟩
  have hmembers : ∀ k v, (k, v) ∈ data.payload → ∃ j, canonicalize std v = .ok j := by
    intro k v hkv
    have hfree : floatFree (.dict data.payload) = true := rfl
    exact canonicalizeMembers_ok std hfree k v hkv
  obtain ⟨text, htext⟩ := canonicalJson_dict_ok std hmembers
  let witness : Witness std := {
    toWitnessData := data, artifactId := "", producedBy := "", cycle := 1,
    canonicalWitness := text, witnessHash := sha256Hex std text, canonical := htext, hashed := rfl }
  obtain ⟨task, htask⟩ := pendingTask_ok std witness "" "proof_queue" 1
  exact ⟨task, witness, _, _, _, htask⟩

/-! ### The queue -/

/-- How far a run of a job has come. A run is aborted when writing the log fails before its
work begins. -/
inductive Phase where
  | enqueued
  | executing
  | completed
  | failed
  | aborted
  deriving DecidableEq, Repr

/-- A run of a job. -/
structure JobRun where
  task : ProofTask
  phase : Phase
  deriving DecidableEq, Repr

/-- The events in memory, the submits that have looked their job up and are about to append
it, and all runs in the order in which they were enqueued. -/
structure QueueState where
  events : List ProofTask
  inFlight : List ProofTask
  runs : List JobRun

/-- The queue before the first submit. -/
def QueueState.empty : QueueState := ⟨[], [], []⟩

/-- `_latest_for`. -/
def latestFor (events : List ProofTask) (taskId : String) : Option ProofTask :=
  events.reverse.find? fun task => task.taskId = taskId

/-- The condition on which `submit` returns the id of an existing job. -/
def isReplay (existing : Option ProofTask) : Bool :=
  match existing with
  | some task => task.status ∈ [.pending, .processing, .completed]
  | none => false

/-- What a client or a worker does, and which of its writes to the log succeed. -/
inductive QueueAction where
  | lookup (task : ProofTask)
  | enqueue (task : ProofTask) (logged : Bool)
  | start (task : ProofTask) (logged : Bool)
  | finish (task : ProofTask) (proved logged failedLogged : Bool)

/-- The events that the end of a run appends. The event of the completed job is appended and
written where an exception still counts as a failure of the job. -/
def finishEvents (task : ProofTask) (proved logged : Bool) : List ProofTask :=
  match proved, logged with
  | true, true => [task.withStatus .completed]
  | true, false => [task.withStatus .completed, task.withStatus .failed]
  | false, _ => [task.withStatus .failed]

/-- How a run ends. That the last event was not written changes nothing. -/
def finishPhase (proved logged : Bool) : Phase := if proved && logged then .completed else .failed

variable (std : PyStd) (maxWorkers : Nat)

/-- The steps of `submit` and `_run_task`. Runs are started in the order of the queue. -/
inductive QueueStep : QueueState → QueueAction → QueueState → Prop where
  | replay {st task} : IsSubmitted std task → isReplay (latestFor st.events task.taskId) = true →
      QueueStep st (.lookup task) st
  | lookup {st task} : IsSubmitted std task →
      isReplay (latestFor st.events task.taskId) = false →
      QueueStep st (.lookup task) { st with inFlight := st.inFlight ++ [task] }
  | enqueue {st task before after} (logged : Bool) : st.inFlight = before ++ task :: after →
      QueueStep st (.enqueue task logged) {
        events := st.events ++ [task]
        inFlight := before ++ after
        -- an exception of the write leaves `submit` before the job is handed to the pool
        runs := if logged then st.runs ++ [⟨task, .enqueued⟩] else st.runs }
  | start {st task before after} (logged : Bool) : st.runs = before ++ ⟨task, .enqueued⟩ :: after →
      (∀ run ∈ before, run.phase ≠ .enqueued) →
      st.runs.countP (·.phase = .executing) < maxWorkers →
      QueueStep st (.start task logged) { st with
        events := st.events ++ [task.withStatus .processing]
        runs := before ++ ⟨task, if logged then .executing else .aborted⟩ :: after }
  | finish {st task before after} (proved logged failedLogged : Bool) :
      st.runs = before ++ ⟨task, .executing⟩ :: after →
      QueueStep st (.finish task proved logged failedLogged) { st with
        events := st.events ++ finishEvents task proved logged
        runs := before ++ ⟨task, finishPhase proved logged⟩ :: after }

/-! ### The history of a job -/

/-- The statuses that a job has gone through. -/
def historyOf (events : List ProofTask) (taskId : String) : List JobStatus :=
  (events.filter fun task => task.taskId = taskId).map (·.status)

/-- The phases of the runs of a job, in the order in which they were enqueued. -/
def phasesOf (runs : List JobRun) (taskId : String) : List Phase :=
  (runs.filter fun run => run.task.taskId = taskId).map (·.phase)

/-- A run that is enqueued or executing. -/
def Phase.isActive : Phase → Bool
  | .enqueued | .executing => true
  | _ => false

/-- The statuses that a run has gone through. -/
def Phase.history : Phase → List JobStatus
  | .enqueued => [.pending]
  | .executing | .aborted => [.pending, .processing]
  | .completed => [.pending, .processing, .completed]
  | .failed => [.pending, .processing, .failed]

section History

variable {events : List ProofTask} {runs before after : List JobRun} {task : ProofTask}
  {taskId : String} {phase : Phase}

theorem historyOf_append (events' : List ProofTask) :
    historyOf (events ++ events') taskId = historyOf events taskId ++ historyOf events' taskId := by
  simp [historyOf]

theorem phasesOf_append : phasesOf (before ++ after) taskId =
    phasesOf before taskId ++ phasesOf after taskId := by
  simp [phasesOf]

theorem historyOf_cons : historyOf (task :: events) taskId =
    if task.taskId = taskId then task.status :: historyOf events taskId
    else historyOf events taskId := by
  by_cases h : task.taskId = taskId <;> simp [historyOf, h]

theorem phasesOf_cons : phasesOf (⟨task, phase⟩ :: runs) taskId =
    if task.taskId = taskId then phase :: phasesOf runs taskId else phasesOf runs taskId := by
  by_cases h : task.taskId = taskId <;> simp [phasesOf, h]

/-- The latest event tells the last status. -/
theorem latestFor_status (events : List ProofTask) (taskId : String) :
    (latestFor events taskId).map (·.status) = (historyOf events taskId).getLast? := by
  rw [latestFor, historyOf, List.getLast?_map, List.getLast?_eq_head?_reverse,
    ← List.filter_reverse, List.head?_filter]

/-- A submit is no replay when the job is new or its last status is a failure. -/
theorem isReplay_eq_false_iff : isReplay (latestFor events taskId) = false ↔
    ∀ status, (historyOf events taskId).getLast? = some status → status = .failed := by
  rw [← latestFor_status]
  cases latestFor events taskId with
  | none => simp [isReplay]
  | some existing =>
      obtain ⟨_, _, _, _, _, status⟩ := existing
      cases status <;> simp [isReplay]

end History

end Vrl

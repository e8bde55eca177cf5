import Vrl.Backend.ProofQueueRuns

/-!
# Vrl.Backend.ProofQueueLog

The log that mirrors the events of the proof queue (`backend/proof_queue.py`).

An event is appended in memory under the lock, its line is written to `proof_queue.jsonl` after
the lock is released. So the lines of two threads may come in another order than their events. A
run keeps the log faithful exactly when no line overtakes another of its job that has another
status (**`replays_iff_inOrder`**): once all lines are written, the log then tells of every job
what the memory tells.
-/

namespace Vrl

namespace MirroredQueue

/-! ### Steps -/

/-- How far a run of a job has come. Between two stages the line of an event is written. -/
inductive Stage where
  | enqueued
  | starting
  | executing
  | ending
  | ended
  deriving DecidableEq, Repr

/-- A worker of the pool is taken up by the run. -/
def Stage.isBusy : Stage → Bool
  | .starting | .executing | .ending => true
  | .enqueued | .ended => false

/-- A run of a job. -/
structure Run where
  task : ProofTask
  stage : Stage
  deriving DecidableEq, Repr

/-- The events in memory, the lines of the log, the events whose lines are still to be written in
the order in which they were appended, the submits that have looked their job up and are about
to append it, and the runs in the order in which they were enqueued. -/
structure State where
  events : List ProofTask
  log : List ProofTask
  unwritten : List ProofTask
  inFlight : List ProofTask
  runs : List Run

/-- The queue and its log before the first submit. -/
def State.empty : State := ⟨[], [], [], [], []⟩

/-- An event is appended in memory. -/
def State.append (st : State) (event : ProofTask) : State :=
  { st with events := st.events ++ [event], unwritten := st.unwritten ++ [event] }

/-- What a client or a worker does. A line that is written overtakes those of the events that
were appended before its own and are not written yet. -/
inductive Action where
  | lookup (task : ProofTask)
  | append (task : ProofTask)
  | start (task : ProofTask)
  | finish (task : ProofTask) (proved : Bool)
  | write (overtaken : List ProofTask) (event : ProofTask)

/-- The event that the end of a run appends. -/
def finalEvent (task : ProofTask) (proved : Bool) : ProofTask :=
  task.withStatus (if proved then .completed else .failed)

variable (std : PyStd) (maxWorkers : Nat)

/-- The steps of `submit`, `_run_task` and `_append_event`, whose two halves are steps of their
own. A thread goes on only after its line is written. -/
inductive Step : State → Action → State → Prop where
  | replay {st task} : IsSubmitted std task → isReplay (latestFor st.events task.taskId) = true →
      Step st (.lookup task) st
  | lookup {st task} : IsSubmitted std task →
      isReplay (latestFor st.events task.taskId) = false →
      Step st (.lookup task) { st with inFlight := st.inFlight ++ [task] }
  | append {st task before after} : st.inFlight = before ++ task :: after →
      Step st (.append task) { st.append task with inFlight := before ++ after }
  | start {st task before after} : st.runs = before ++ ⟨task, .enqueued⟩ :: after →
      (∀ run ∈ before, run.stage ≠ .enqueued) → st.runs.countP (·.stage.isBusy) < maxWorkers →
      Step st (.start task) { st.append (task.withStatus .processing) with
        runs := before ++ ⟨task, .starting⟩ :: after }
  | finish {st task before after} (proved : Bool) :
      st.runs = before ++ ⟨task, .executing⟩ :: after →
      Step st (.finish task proved) { st.append (finalEvent task proved) with
        runs := before ++ ⟨task, .ending⟩ :: after }
  -- `submit` hands the job to the pool
  | writePending {st event overtaken later} :
      st.unwritten = overtaken ++ event :: later → event.status = .pending →
      Step st (.write overtaken event) { st with
        log := st.log ++ [event]
        unwritten := overtaken ++ later
        runs := st.runs ++ [⟨event, .enqueued⟩] }
  -- the worker sets out to make the proof
  | writeProcessing {st task overtaken later before after} :
      st.unwritten = overtaken ++ task.withStatus .processing :: later →
      st.runs = before ++ ⟨task, .starting⟩ :: after →
      Step st (.write overtaken (task.withStatus .processing)) { st with
        log := st.log ++ [task.withStatus .processing]
        unwritten := overtaken ++ later
        runs := before ++ ⟨task, .executing⟩ :: after }
  -- the worker is free again
  | writeFinal {st task overtaken later before after} (proved : Bool) :
      st.unwritten = overtaken ++ finalEvent task proved :: later →
      st.runs = before ++ ⟨task, .ending⟩ :: after →
      Step st (.write overtaken (finalEvent task proved)) { st with
        log := st.log ++ [finalEvent task proved]
        unwritten := overtaken ++ later
        runs := before ++ ⟨task, .ended⟩ :: after }

/-! ### What the log tells -/

/-- The log and the lines still to be written tell of every job what the memory tells. -/
def Mirrors (st : State) : Prop :=
  ∀ taskId, historyOf st.log taskId ++ historyOf st.unwritten taskId = historyOf st.events taskId

/-- **Replaying the log gives every job the statuses that it has in memory**, and so the latest
status that `get_task` and `snapshot` report. -/
def Replays (st : State) : Prop :=
  ∀ taskId, historyOf st.log taskId = historyOf st.events taskId ∧
    (latestFor st.log taskId).map (·.status) = (latestFor st.events taskId).map (·.status)

/-- The line does not overtake one of its job with another status. -/
def InOrder : Action → Prop
  | .write overtaken event => ∀ e ∈ overtaken, e.taskId = event.taskId → e.status = event.status
  | _ => True

section Runs

variable {std maxWorkers} {st st' : State} {action : Action}

/-- A log that is complete mirrors the memory only by replaying it. -/
theorem Mirrors.replays (h : Mirrors st) (hwritten : st.unwritten = []) : Replays st := by
  intro taskId
  have hhistory := h taskId
  rw [hwritten] at hhistory
  have heq : historyOf st.log taskId = historyOf st.events taskId := by
    rw [← hhistory]
    exact (List.append_nil _).symm
  exact ⟨heq, by rw [latestFor_status, latestFor_status, heq]⟩

/-- **What a step does to events and lines**: nothing, an event is appended in memory, or a line
is written. -/
theorem step_cases (h : Step std maxWorkers st action st') :
    (InOrder action ∧ st'.events = st.events ∧ st'.log = st.log ∧ st'.unwritten = st.unwritten) ∨
    (∃ event, InOrder action ∧ st'.events = st.events ++ [event] ∧ st'.log = st.log ∧
      st'.unwritten = st.unwritten ++ [event]) ∨
    ∃ overtaken event later, action = .write overtaken event ∧ st'.events = st.events ∧
      st'.log = st.log ++ [event] ∧ st.unwritten = overtaken ++ event :: later ∧
      st'.unwritten = overtaken ++ later := by
  cases h with
  | replay _ _ => exact .inl ⟨trivial, rfl, rfl, rfl⟩
  | lookup _ _ => exact .inl ⟨trivial, rfl, rfl, rfl⟩
  | append _ => exact .inr (.inl ⟨_, trivial, rfl, rfl, rfl⟩)
  | start _ _ _ => exact .inr (.inl ⟨_, trivial, rfl, rfl, rfl⟩)
  | finish _ _ => exact .inr (.inl ⟨_, trivial, rfl, rfl, rfl⟩)
  | writePending hunwritten _ => exact .inr (.inr ⟨_, _, _, rfl, rfl, rfl, hunwritten, rfl⟩)
  | writeProcessing hunwritten _ => exact .inr (.inr ⟨_, _, _, rfl, rfl, rfl, hunwritten, rfl⟩)
  | writeFinal _ hunwritten _ => exact .inr (.inr ⟨_, _, _, rfl, rfl, rfl, hunwritten, rfl⟩)

/-- An item may be moved to the front of a list when the items before it are equal to it. -/
theorem cons_eq_concat_iff {α : Type} {a : α} {l : List α} :
    a :: l = l ++ [a] ↔ ∀ b ∈ l, b = a := by
  constructor
  · intro h
    induction l with
    | nil => simp
    | cons b l ih =>
        rw [List.cons_append, List.cons.injEq] at h
        obtain ⟨rfl, h⟩ := h
        exact List.forall_mem_cons.mpr ⟨rfl, ih h⟩
  · intro h
    rw [List.eq_replicate_of_mem h, ← List.replicate_succ, List.replicate_succ']

theorem mem_historyOf {events : List ProofTask} {taskId : String} {status : JobStatus} :
    status ∈ historyOf events taskId ↔ ∃ e ∈ events, e.taskId = taskId ∧ e.status = status := by
  simp [historyOf, and_assoc]

/-- A line keeps the log faithful exactly when it overtakes none of its job with another status. -/
theorem mirrors_write_iff {log overtaken later events : List ProofTask} {event : ProofTask}
    (h : ∀ taskId, historyOf log taskId ++ historyOf (overtaken ++ event :: later) taskId =
      historyOf events taskId) :
    (∀ taskId, historyOf (log ++ [event]) taskId ++ historyOf (overtaken ++ later) taskId =
      historyOf events taskId) ↔ InOrder (.write overtaken event) := by
  have hjob : ∀ taskId, (historyOf (log ++ [event]) taskId ++
      historyOf (overtaken ++ later) taskId = historyOf events taskId ↔
        event.taskId = taskId → ∀ status ∈ historyOf overtaken taskId, status = event.status) := by
    intro taskId
    have hnil : historyOf [] taskId = [] := rfl
    rw [← h taskId, historyOf_append, historyOf_append, historyOf_append, List.append_assoc,
      List.append_cancel_left_eq, historyOf_cons, historyOf_cons, hnil]
    by_cases hid : event.taskId = taskId
    · rw [if_pos hid, if_pos hid, List.append_cons, ← List.append_assoc,
        List.append_cancel_right_eq, List.singleton_append, cons_eq_concat_iff]
      exact ⟨fun hall _ => hall, fun hall => hall hid⟩
    · rw [if_neg hid, if_neg hid, List.nil_append]
      exact iff_of_true rfl fun heq => absurd heq hid
  rw [forall_congr' hjob]
  constructor
  · intro hall e he hid
    exact hall event.taskId rfl e.status (mem_historyOf.mpr ⟨e, he, hid, rfl⟩)
  · intro horder taskId hid status hstatus
    obtain ⟨e, he, heid, rfl⟩ := mem_historyOf.mp hstatus
    exact horder e he (heid.trans hid.symm)

/-- **A step keeps the log faithful exactly when no line overtakes another of its job** that has
another status. -/
theorem Mirrors.step_iff (h : Mirrors st) (hstep : Step std maxWorkers st action st') :
    Mirrors st' ↔ InOrder action := by
  obtain ⟨horder, hevents, hlog, hunwritten⟩ | ⟨event, horder, hevents, hlog, hunwritten⟩ |
    ⟨overtaken, event, later, rfl, hevents, hlog, hunwritten, hunwritten'⟩ := step_cases hstep
  · refine iff_of_true ?_ horder
    intro taskId
    rw [hevents, hlog, hunwritten]
    exact h taskId
  · refine iff_of_true ?_ horder
    intro taskId
    rw [hevents, hlog, hunwritten, historyOf_append, historyOf_append, ← h taskId,
      List.append_assoc]
  · rw [Mirrors, hevents, hlog, hunwritten']
    refine mirrors_write_iff ?_
    rw [← hunwritten]
    exact h

theorem mirrors_empty : Mirrors .empty := fun _ => rfl

/-- **The log stays faithful in a run exactly when no line overtakes another of its job** that
has another status. Then, whenever all lines are written, replaying the log gives every job the
statuses that it has in memory. -/
theorem replays_iff_inOrder {trace : List (State × Action)}
    (hrun : Runs.Trace (Step std maxWorkers) .empty trace st) :
    (((∀ p ∈ trace, Mirrors p.1) ∧ Mirrors st) ↔ ∀ p ∈ trace, InOrder p.2) ∧
      ((∀ p ∈ trace, InOrder p.2) →
        (∀ p ∈ trace, p.1.unwritten = [] → Replays p.1) ∧ (st.unwritten = [] → Replays st)) := by
  have hiff : ((∀ p ∈ trace, Mirrors p.1) ∧ Mirrors st) ↔ ∀ p ∈ trace, InOrder p.2 := by
    refine @Runs.Trace.good_iff _ _ _ Mirrors Mirrors (fun _ action => InOrder action)
      (fun t ht => ht) ?_ ?_ _ _ _ mirrors_empty hrun
    · intro t action u ht hstep horder
      exact (ht.step_iff hstep).mpr horder
    · intro t action u ht hstep horder hmirrors
      exact horder ((ht.step_iff hstep).mp hmirrors)
  refine ⟨hiff, ?_⟩
  intro horder
  obtain ⟨htrace, hst⟩ := hiff.mpr horder
  exact ⟨fun p hp => (htrace p hp).replays, hst.replays⟩

/-- One submit, whose line is written. -/
theorem replays_iff_inOrder_submit : ∃ trace st, st.events ≠ [] ∧
    Runs.Trace (Step lengthStd 1) .empty trace st ∧ Replays st := by
  obtain ⟨task, htask⟩ := exists_isSubmitted lengthStd
  have hlookup : Runs.Trace (Step lengthStd 1) .empty _ ⟨[], [], [], [task], []⟩ :=
    .snoc .nil (.lookup htask rfl)
  have happend : Step lengthStd 1 ⟨[], [], [], [task], []⟩ (.append task)
      ⟨[task], [], [task], [], []⟩ := @Step.append _ _ _ _ [] [] rfl
  have hwrite : Step lengthStd 1 ⟨[task], [], [task], [], []⟩ (.write [] task)
      ⟨[task], [task], [], [], [⟨task, .enqueued⟩]⟩ :=
    @Step.writePending _ _ _ _ [] [] rfl htask.status
  have hrun := (hlookup.snoc happend).snoc hwrite
  refine ⟨_, _, by simp, hrun, ((replays_iff_inOrder hrun).2 ?_).2 rfl⟩
  simp [InOrder]

/-- **A submit overtakes the end of the last run**: the job has failed in memory, and it is
submitted again and the line of the new event written before the line of the failure. -/
theorem submit_overtakes_failure : ∃ trace st,
    Runs.Trace (Step lengthStd 1) .empty trace st ∧ st.unwritten = [] ∧ ¬ Replays st := by
  obtain ⟨task, htask⟩ := exists_isSubmitted lengthStd
  have hpending := htask.status
  let processing := task.withStatus .processing
  let failed := task.withStatus .failed
  have hlookup : Runs.Trace (Step lengthStd 1) .empty _ ⟨[], [], [], [task], []⟩ :=
    .snoc .nil (.lookup htask rfl)
  have happend : Step lengthStd 1 ⟨[], [], [], [task], []⟩ (.append task)
      ⟨[task], [], [task], [], []⟩ := @Step.append _ _ _ _ [] [] rfl
  have hwrite : Step lengthStd 1 ⟨[task], [], [task], [], []⟩ (.write [] task)
      ⟨[task], [task], [], [], [⟨task, .enqueued⟩]⟩ := @Step.writePending _ _ _ _ [] [] rfl hpending
  have hstart : Step lengthStd 1 ⟨[task], [task], [], [], [⟨task, .enqueued⟩]⟩ (.start task)
      ⟨[task, processing], [task], [processing], [], [⟨task, .starting⟩]⟩ :=
    @Step.start _ _ _ _ [] [] rfl (by simp) (by simp [Stage.isBusy])
  have hprocess : Step lengthStd 1
      ⟨[task, processing], [task], [processing], [], [⟨task, .starting⟩]⟩ (.write [] processing)
      ⟨[task, processing], [task, processing], [], [], [⟨task, .executing⟩]⟩ :=
    @Step.writeProcessing _ _ _ _ [] [] [] [] rfl rfl
  have hfinish : Step lengthStd 1
      ⟨[task, processing], [task, processing], [], [], [⟨task, .executing⟩]⟩ (.finish task false)
      ⟨[task, processing, failed], [task, processing], [failed], [], [⟨task, .ending⟩]⟩ :=
    @Step.finish _ _ _ _ [] [] false rfl
  -- the failure is in memory, so that the job may be submitted again
  have hretry : isReplay (latestFor [task, processing, failed] task.taskId) = false := by
    rw [isReplay_eq_false_iff]
    simp [historyOf, processing, failed]
  have hlookup' : Step lengthStd 1
      ⟨[task, processing, failed], [task, processing], [failed], [], [⟨task, .ending⟩]⟩
      (.lookup task)
      ⟨[task, processing, failed], [task, processing], [failed], [task], [⟨task, .ending⟩]⟩ :=
    .lookup htask hretry
  have happend' : Step lengthStd 1
      ⟨[task, processing, failed], [task, processing], [failed], [task], [⟨task, .ending⟩]⟩
      (.append task)
      ⟨[task, processing, failed, task], [task, processing], [failed, task], [],
        [⟨task, .ending⟩]⟩ := @Step.append _ _ _ _ [] [] rfl
  have hovertake : Step lengthStd 1
      ⟨[task, processing, failed, task], [task, processing], [failed, task], [],
        [⟨task, .ending⟩]⟩ (.write [failed] task)
      ⟨[task, processing, failed, task], [task, processing, task], [failed], [],
        [⟨task, .ending⟩, ⟨task, .enqueued⟩]⟩ := @Step.writePending _ _ _ _ [failed] [] rfl hpending
  have hlast : Step lengthStd 1
      ⟨[task, processing, failed, task], [task, processing, task], [failed], [],
        [⟨task, .ending⟩, ⟨task, .enqueued⟩]⟩ (.write [] failed)
      ⟨[task, processing, failed, task], [task, processing, task, failed], [], [],
        [⟨task, .ended⟩, ⟨task, .enqueued⟩]⟩ :=
    @Step.writeFinal _ _ _ _ [] [] [] [⟨task, .enqueued⟩] false rfl rfl
  have hrun := (((((((hlookup.snoc happend).snoc hwrite).snoc hstart).snoc hprocess).snoc
    hfinish).snoc hlookup').snoc happend').snoc hovertake
  refine ⟨_, _, hrun.snoc hlast, rfl, ?_⟩
  intro hreplays
  have hhistory := (hreplays task.taskId).1
  simp [historyOf, processing, failed, hpending] at hhistory

end Runs

/-! ### A queue that writes every line at once -/

section AtOnce

variable {std maxWorkers}

/-- The stage of a run between two steps of `QueueStep`. -/
def stageOf : Phase → Stage
  | .enqueued => .enqueued
  | .executing => .executing
  | .completed | .failed | .aborted => .ended

def Run.ofJob (run : JobRun) : Run := ⟨run.task, stageOf run.phase⟩

/-- The queue with all of its lines written. -/
def State.ofQueue (st : QueueState) : State :=
  ⟨st.events, st.events, [], st.inFlight, st.runs.map Run.ofJob⟩

theorem ofQueue_runs {st : QueueState} {task : ProofTask} {phase : Phase} {before after : List JobRun}
    (h : st.runs = before ++ ⟨task, phase⟩ :: after) :
    (State.ofQueue st).runs =
      before.map Run.ofJob ++ ⟨task, stageOf phase⟩ :: after.map Run.ofJob := by
  rw [State.ofQueue, h, List.map_append, List.map_cons, Run.ofJob]

theorem stageOf_ne {phase : Phase} (h : phase ≠ .enqueued) : stageOf phase ≠ .enqueued := by
  cases phase with
  | enqueued => exact absurd rfl h
  | executing | completed | failed | aborted => simp [stageOf]

theorem isBusy_stageOf (phase : Phase) : (stageOf phase).isBusy = decide (phase = .executing) := by
  cases phase <;> rfl

/-- A step in which no line overtakes another of its job with another status. -/
def InOrderStep (std : PyStd) (maxWorkers : Nat) (st st' : State) : Prop :=
  ∃ action, Step std maxWorkers st action st' ∧ InOrder action

/-- **Every step of the queue that appends and writes at once** is made of steps here in which no
line overtakes another. -/
theorem reachable_of_loggedStep {st st' : QueueState} {action : QueueAction}
    (hflight : ∀ task ∈ st.inFlight, task.status = .pending)
    (h : LoggedStep std maxWorkers st action st') :
    Relation.ReflTransGen (InOrderStep std maxWorkers) (.ofQueue st) (.ofQueue st') := by
  obtain ⟨hstep, hlogged⟩ := h
  cases hstep with
  | replay htask hreplay => exact .refl
  | lookup htask hreplay => exact .single ⟨_, .lookup htask hreplay, trivial⟩
  | @enqueue task before after logged hsplit =>
      obtain rfl : logged = true := hlogged
      have hpending : task.status = .pending := hflight task (by rw [hsplit]; simp)
      refine .tail (.single ⟨_, .append hsplit, trivial⟩) ⟨.write [] task, ?_, by simp [InOrder]⟩
      have hwrite := @Step.writePending std maxWorkers
        { (State.ofQueue st).append task with inFlight := before ++ after } task [] [] rfl hpending
      simpa [State.ofQueue, State.append, Run.ofJob, stageOf] using hwrite
  | @start task before after logged hsplit hfirst hcount =>
      obtain rfl : logged = true := hlogged
      have hqueue : ∀ run ∈ before.map Run.ofJob, run.stage ≠ .enqueued := by
        intro run hrun
        obtain ⟨earlier, hearlier, rfl⟩ := List.mem_map.mp hrun
        exact stageOf_ne (hfirst earlier hearlier)
      have hbusy : (State.ofQueue st).runs.countP (·.stage.isBusy) < maxWorkers := by
        rw [State.ofQueue, List.countP_map]
        simpa only [Function.comp_def, Run.ofJob, isBusy_stageOf] using hcount
      refine .tail (.single ⟨_, .start (ofQueue_runs hsplit) hqueue hbusy, trivial⟩)
        ⟨.write [] (task.withStatus .processing), ?_, by simp [InOrder]⟩
      have hwrite := @Step.writeProcessing std maxWorkers
        { (State.ofQueue st).append (task.withStatus .processing) with
          runs := before.map Run.ofJob ++ ⟨task, .starting⟩ :: after.map Run.ofJob }
        task [] [] _ _ rfl rfl
      simpa [State.ofQueue, State.append, Run.ofJob, stageOf] using hwrite
  | @finish task before after proved logged failedLogged hsplit =>
      obtain rfl : logged = true := hlogged.1
      have hevents : finishEvents task proved true = [finalEvent task proved] := by
        cases proved <;> rfl
      have hended : stageOf (finishPhase proved true) = .ended := by cases proved <;> rfl
      refine .tail (.single ⟨_, .finish proved (ofQueue_runs hsplit), trivial⟩)
        ⟨.write [] (finalEvent task proved), ?_, by simp [InOrder]⟩
      have hwrite := @Step.writeFinal std maxWorkers
        { (State.ofQueue st).append (finalEvent task proved) with
          runs := before.map Run.ofJob ++ ⟨task, .ending⟩ :: after.map Run.ofJob }
        task [] [] _ _ proved rfl rfl
      simpa [State.ofQueue, State.append, Run.ofJob, hevents, hended] using hwrite

theorem inFlight_pending {st st' : QueueState} {action : QueueAction}
    (hflight : ∀ task ∈ st.inFlight, task.status = .pending)
    (h : QueueStep std maxWorkers st action st') : ∀ task ∈ st'.inFlight, task.status = .pending := by
  cases h with
  | replay _ _ | start _ _ _ _ | finish _ _ _ _ => exact hflight
  | lookup htask _ =>
      rw [List.forall_mem_append, List.forall_mem_singleton]
      exact ⟨hflight, htask.status⟩
  | enqueue _ hsplit =>
      rw [hsplit, List.forall_mem_append, List.forall_mem_cons] at hflight
      rw [List.forall_mem_append]
      exact ⟨hflight.1, hflight.2.2⟩

/-- **What such a queue does, the queue with the log does in order**: it reaches a state with the
same events, whose log replays them. -/
theorem reachable_of_logged {trace : List (QueueState × QueueAction)} {st : QueueState}
    (hrun : Runs.Trace (LoggedStep std maxWorkers) .empty trace st) :
    Relation.ReflTransGen (InOrderStep std maxWorkers) .empty (.ofQueue st) := by
  have hboth : Relation.ReflTransGen (InOrderStep std maxWorkers) .empty (.ofQueue st) ∧
      ∀ task ∈ st.inFlight, task.status = .pending := by
    induction hrun with
    | nil => exact ⟨.refl, by simp [QueueState.empty]⟩
    | snoc _ hstep ih =>
        obtain ⟨hreach, hflight⟩ := ih
        exact ⟨hreach.trans (reachable_of_loggedStep hflight hstep),
          inFlight_pending hflight hstep.1⟩
  exact hboth.1

end AtOnce

end MirroredQueue

end Vrl

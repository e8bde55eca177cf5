import Vrl.Backend.ProofQueue

/-!
# Vrl.Backend.ProofQueueRuns

What the events of the proof queue tell about its runs, over whole runs of clients and
workers.

As long as every job is appended on a check that still holds and every write that matters
succeeds, the history of a job is the concatenation of the histories of its runs, of which all
but the last have failed (`JobConsistent`). Two things break this. A submit may append its job when another submit has
done so since its check. And a write that fails leaves an event behind in memory that nobody
acts upon.
-/

namespace Vrl

open Zk

/-! ### Histories and runs of one job -/

/-- The history of a job is that of its runs, and all runs but the last have failed. -/
inductive JobConsistent : List JobStatus → List Phase → Prop where
  | new : JobConsistent [] []
  | run {earlier : List Phase} {last : Phase} : (∀ phase ∈ earlier, phase = .failed) →
      last ≠ .aborted →
      JobConsistent ((earlier ++ [last]).flatMap Phase.history) (earlier ++ [last])

section Job

variable {history : List JobStatus} {phases before after : List Phase} {phase phase' : Phase}

/-- A run that has not failed is the last one. -/
theorem JobConsistent.split (h : JobConsistent history (before ++ phase :: after))
    (hphase : phase ≠ .failed) :
    after = [] ∧ (∀ p ∈ before, p = .failed) ∧
      history = before.flatMap Phase.history ++ phase.history := by
  generalize hphases : before ++ phase :: after = phases at h
  cases h with
  | new => simp at hphases
  | @run earlier last hearlier hlast =>
      rcases List.eq_nil_or_concat after with rfl | ⟨init, p, rfl⟩
      · obtain ⟨rfl, hlasts⟩ := List.append_inj' hphases rfl
        cases hlasts
        exact ⟨rfl, hearlier, by simp⟩
      · -- the run would be one of the earlier ones, which have failed
        have hinit : before ++ phase :: init = earlier := by
          have heq : (before ++ phase :: init) ++ [p] = earlier ++ [last] := by simpa using hphases
          exact (List.append_inj' heq rfl).1
        exact absurd (hearlier phase (by rw [← hinit]; simp)) hphase

/-- A job that is new or has failed can be run again. -/
theorem JobConsistent.enqueue (h : JobConsistent history phases)
    (hlast : ∀ status, history.getLast? = some status → status = .failed) :
    JobConsistent (history ++ [.pending]) (phases ++ [.enqueued]) := by
  cases h with
  | new =>
      have hrun := @JobConsistent.run [] .enqueued (by simp) (by decide)
      simpa [Phase.history] using hrun
  | @run earlier last hearlier haborted =>
      have hfailed : last = .failed := by
        cases last <;> simp_all [Phase.history]
      have hall : ∀ p ∈ earlier ++ [last], p = .failed := by
        intro p hp
        rcases List.mem_append.mp hp with hp | hp
        · exact hearlier p hp
        · rw [List.mem_singleton.mp hp]
          exact hfailed
      have hrun := @JobConsistent.run (earlier ++ [last]) .enqueued hall (by decide)
      simpa [Phase.history] using hrun

/-- A run that has not failed may go on. -/
theorem JobConsistent.advance (h : JobConsistent history (before ++ phase :: after))
    (hphase : phase ≠ .failed) {statuses : List JobStatus}
    (hhistory : phase'.history = phase.history ++ statuses) (haborted : phase' ≠ .aborted) :
    JobConsistent (history ++ statuses) (before ++ phase' :: after) := by
  obtain ⟨rfl, hbefore, rfl⟩ := h.split hphase
  have hrun := @JobConsistent.run before phase' hbefore haborted
  rw [List.flatMap_append, List.flatMap_singleton, hhistory, ← List.append_assoc] at hrun
  exact hrun

/-- At most one run is active. -/
theorem JobConsistent.active_length_le (h : JobConsistent history phases) :
    (phases.filter Phase.isActive).length ≤ 1 := by
  cases h with
  | new => simp
  | @run earlier last hearlier haborted =>
      have hnone : earlier.filter Phase.isActive = [] := by
        rw [List.filter_eq_nil_iff]
        intro p hp
        rw [hearlier p hp]
        decide
      rw [List.filter_append, hnone, List.nil_append]
      exact List.length_filter_le _ [last]

/-- `pending → processing → (completed | failed)`, and `failed → pending`. -/
def JobStatus.leadsTo : JobStatus → JobStatus → Bool
  | .pending, .processing | .processing, .completed | .processing, .failed
  | .failed, .pending => true
  | _, _ => false

/-- A history that begins with `pending` and goes on from one status to the next. -/
def LegalHistory (history : List JobStatus) : Prop :=
  (∀ status, history.head? = some status → status = .pending) ∧
    history.IsChain fun status next => status.leadsTo next = true

theorem JobConsistent.legal (h : JobConsistent history phases) : LegalHistory history := by
  cases h with
  | new => exact ⟨by simp, List.IsChain.nil⟩
  | @run earlier last hearlier haborted =>
      induction earlier with
      | nil =>
          rw [List.nil_append, List.flatMap_singleton]
          cases last <;> simp [LegalHistory, Phase.history, JobStatus.leadsTo] at haborted ⊢
      | cons p earlier ih =>
          rw [List.forall_mem_cons] at hearlier
          obtain ⟨hhead, hchain⟩ := ih hearlier.2
          rw [List.cons_append, List.flatMap_cons, hearlier.1]
          refine ⟨by simp [Phase.history], ?_⟩
          cases hrest : (earlier ++ [last]).flatMap Phase.history with
          | nil => simp [Phase.history, JobStatus.leadsTo]
          | cons status rest =>
              rw [hrest] at hhead hchain
              obtain rfl := hhead status rfl
              simp only [Phase.history, List.cons_append, List.nil_append, List.isChain_cons_cons]
              exact ⟨rfl, rfl, rfl, hchain⟩

/-- A job without an active run has come to an end. -/
theorem JobConsistent.settled (h : JobConsistent history phases)
    (hidle : ∀ p ∈ phases, p.isActive = false) {status : JobStatus}
    (hstatus : history.getLast? = some status) : status = .completed ∨ status = .failed := by
  cases h with
  | new => cases hstatus
  | @run earlier last hearlier haborted =>
      have hlast := hidle last (by simp)
      rw [List.flatMap_append, List.flatMap_singleton] at hstatus
      cases last with
      | enqueued => cases hlast
      | executing => cases hlast
      | completed => exact .inl (by simpa [Phase.history] using hstatus.symm)
      | failed => exact .inr (by simpa [Phase.history] using hstatus.symm)
      | aborted => exact absurd rfl haborted

end Job

/-! ### The whole queue -/

/-- All jobs are consistent, and what is in flight is pending. -/
structure Consistent (st : QueueState) : Prop where
  jobs : ∀ taskId, JobConsistent (historyOf st.events taskId) (phasesOf st.runs taskId)
  inFlight : ∀ task ∈ st.inFlight, task.status = .pending

theorem consistent_empty : Consistent .empty := by
  constructor
  · intro taskId
    exact .new
  · intro task htask
    cases htask

section Steps

variable {std : PyStd} {maxWorkers : Nat} {st st' : QueueState} {task : ProofTask}
  {before after : List JobRun} {phase phase' : Phase} {taskId : String}

theorem mem_phasesOf_iff {runs : List JobRun} :
    phase ∈ phasesOf runs taskId ↔ ∃ run ∈ runs, run.task.taskId = taskId ∧ run.phase = phase := by
  simp [phasesOf, and_assoc]

/-- The job of a run, with the run in its place. -/
theorem phasesOf_self (before after : List JobRun) (task : ProofTask) (phase : Phase) :
    phasesOf (before ++ ⟨task, phase⟩ :: after) task.taskId =
      phasesOf before task.taskId ++ phase :: phasesOf after task.taskId := by
  rw [phasesOf_append, phasesOf_cons, if_pos rfl]

/-- The phase of a run does not matter to other jobs. -/
theorem phasesOf_other (hne : task.taskId ≠ taskId) :
    phasesOf (before ++ ⟨task, phase⟩ :: after) taskId =
      phasesOf (before ++ ⟨task, phase'⟩ :: after) taskId := by
  rw [phasesOf_append, phasesOf_append, phasesOf_cons, phasesOf_cons, if_neg hne, if_neg hne]

theorem historyOf_other {events : List ProofTask}
    (h : ∀ event ∈ events, event.taskId ≠ taskId) : historyOf events taskId = [] := by
  rw [historyOf, List.map_eq_nil_iff, List.filter_eq_nil_iff]
  intro event hevent hid
  exact h event hevent (of_decide_eq_true hid)

/-- A run that goes on keeps the queue consistent. -/
theorem Consistent.advance (h : Consistent st) (hruns : st.runs = before ++ ⟨task, phase⟩ :: after)
    (hphase : phase ≠ .failed) (haborted : phase' ≠ .aborted) {events : List ProofTask}
    (hids : ∀ event ∈ events, event.taskId = task.taskId)
    (hhistory : phase'.history = phase.history ++ events.map (·.status)) :
    Consistent { st with
      events := st.events ++ events
      runs := before ++ ⟨task, phase'⟩ :: after } := by
  refine ⟨fun taskId => ?_, h.inFlight⟩
  have hjob := h.jobs taskId
  rw [hruns] at hjob
  by_cases hid : task.taskId = taskId
  · subst hid
    have hevents : historyOf events task.taskId = events.map (·.status) := by
      rw [historyOf, List.filter_eq_self.mpr]
      intro event hevent
      exact decide_eq_true (hids event hevent)
    rw [phasesOf_self] at hjob
    show JobConsistent (historyOf (st.events ++ events) task.taskId)
      (phasesOf (before ++ ⟨task, phase'⟩ :: after) task.taskId)
    rw [historyOf_append, hevents, phasesOf_self]
    exact hjob.advance hphase hhistory haborted
  · have hevents : historyOf events taskId = [] := by
      refine historyOf_other fun event hevent => ?_
      rw [hids event hevent]
      exact hid
    show JobConsistent (historyOf (st.events ++ events) taskId)
      (phasesOf (before ++ ⟨task, phase'⟩ :: after) taskId)
    rw [historyOf_append, hevents, List.append_nil]
    rw [phasesOf_other hid] at hjob
    exact hjob

/-- What a step needs to keep the queue consistent: a job is appended on a check that still
holds, and the events that are acted upon are written. -/
def Sound (st : QueueState) : QueueAction → Prop
  | .lookup _ => True
  | .enqueue task logged => isReplay (latestFor st.events task.taskId) = false ∧ logged = true
  | .start _ logged => logged = true
  | .finish _ proved logged _ => proved = true → logged = true

/-- **A sound step keeps the queue consistent.** -/
theorem Consistent.step (h : Consistent st) {action : QueueAction}
    (hstep : QueueStep std maxWorkers st action st') (hsound : Sound st action) :
    Consistent st' := by
  cases hstep with
  | replay _ _ => exact h
  | @lookup task hsubmitted _ =>
      refine ⟨h.jobs, fun t ht => ?_⟩
      rcases List.mem_append.mp ht with ht | ht
      · exact h.inFlight t ht
      · rw [List.mem_singleton.mp ht]
        exact hsubmitted.status
  | @enqueue task before after logged hflight =>
      obtain ⟨hreplay, rfl⟩ := hsound
      rw [isReplay_eq_false_iff] at hreplay
      have hstatus : task.status = .pending := h.inFlight task (by rw [hflight]; simp)
      refine ⟨fun taskId => ?_, fun t ht => h.inFlight t ?_⟩
      · show JobConsistent (historyOf (st.events ++ [task]) taskId)
          (phasesOf (st.runs ++ [⟨task, .enqueued⟩]) taskId)
        rw [historyOf_append, phasesOf_append, historyOf_cons, phasesOf_cons]
        by_cases hid : task.taskId = taskId
        · subst hid
          rw [if_pos rfl, if_pos rfl, hstatus]
          exact (h.jobs task.taskId).enqueue hreplay
        · rw [if_neg hid, if_neg hid]
          simpa [historyOf, phasesOf] using h.jobs taskId
      · rw [hflight]
        rcases List.mem_append.mp ht with ht | ht
        · exact List.mem_append_left _ ht
        · exact List.mem_append_right _ (List.mem_cons_of_mem _ ht)
  | start logged hruns _ _ =>
      obtain rfl : logged = true := hsound
      exact h.advance hruns (by decide) (by decide) (by simp) rfl
  | finish proved logged failedLogged hruns =>
      cases proved with
      | false => exact h.advance hruns (by decide) (by simp [finishPhase]) (by simp [finishEvents]) rfl
      | true =>
          obtain rfl : logged = true := hsound rfl
          exact h.advance hruns (by decide) (by simp [finishPhase]) (by simp [finishEvents]) rfl

end Steps

/-! ### Clients in parallel -/

/-- At most one run of a job is enqueued or executing, and a run is followed by another one of
its job only if it failed. -/
structure Deduplicated (st : QueueState) : Prop where
  atMostOne : ∀ taskId, (st.runs.filter fun run =>
    run.task.taskId = taskId ∧ run.phase.isActive = true).length ≤ 1
  restart : ∀ before run after, st.runs = before ++ run :: after →
    ∀ later ∈ after, later.task.taskId = run.task.taskId → run.phase = .failed

/-- Every write of the action succeeds. -/
def QueueAction.AllLogged : QueueAction → Prop
  | .lookup _ => True
  | .enqueue _ logged | .start _ logged => logged = true
  | .finish _ _ logged failedLogged => logged = true ∧ failedLogged = true

/-- The steps of a queue whose log never fails. -/
def LoggedStep (std : PyStd) (maxWorkers : Nat) (st : QueueState) (action : QueueAction)
    (st' : QueueState) : Prop :=
  QueueStep std maxWorkers st action st' ∧ action.AllLogged

/-- A submit appends its job only while its check would still let it. -/
def ChecksHold (st : QueueState) : QueueAction → Prop
  | .enqueue task _ => isReplay (latestFor st.events task.taskId) = false
  | _ => True

section Dedup

variable {std : PyStd} {maxWorkers : Nat} {st st' : QueueState} {action : QueueAction}

theorem Consistent.deduplicated (h : Consistent st) : Deduplicated st := by
  constructor
  · intro taskId
    have hle := (h.jobs taskId).active_length_le
    rw [phasesOf, List.filter_map, List.length_map, List.filter_filter] at hle
    refine le_trans (le_of_eq ?_) hle
    congr 1
    refine List.filter_congr fun run _ => ?_
    simp [Bool.and_comm]
  · intro before run after hruns later hlater hid
    by_contra hphase
    have hjob := h.jobs run.task.taskId
    rw [hruns, phasesOf_self before after run.task run.phase] at hjob
    -- a run that has not failed is the last of its job
    obtain ⟨hnil, -, -⟩ := hjob.split hphase
    have hmem : later.phase ∈ phasesOf after run.task.taskId :=
      mem_phasesOf_iff.mpr ⟨later, hlater, hid, rfl⟩
    rw [hnil] at hmem
    cases hmem

/-- A job that counts as a replay has a run that has not failed. -/
theorem Consistent.exists_run (h : Consistent st) {taskId : String}
    (hreplay : isReplay (latestFor st.events taskId) = true) :
    ∃ run ∈ st.runs, run.task.taskId = taskId ∧ run.phase ≠ .failed := by
  have hnot : ¬ ∀ status, (historyOf st.events taskId).getLast? = some status →
      status = .failed := by
    rw [← isReplay_eq_false_iff, hreplay]
    decide
  have hjob := h.jobs taskId
  generalize hhistory : historyOf st.events taskId = history at hjob hnot
  generalize hphases : phasesOf st.runs taskId = phases at hjob
  cases hjob with
  | new => exact absurd (fun status hstatus => by cases hstatus) hnot
  | @run earlier last hearlier haborted =>
      have hmem : last ∈ phasesOf st.runs taskId := by
        rw [hphases]
        simp
      obtain ⟨run, hrun, hid, rfl⟩ := mem_phasesOf_iff.mp hmem
      refine ⟨run, hrun, hid, fun hfailed => hnot fun status hstatus => ?_⟩
      rw [List.flatMap_append, List.flatMap_singleton, hfailed] at hstatus
      simpa [Phase.history] using hstatus.symm

/-- Appending a replay starts a second run of a job that has not failed. -/
theorem not_deduplicated_of_replay (h : Consistent st)
    (hstep : LoggedStep std maxWorkers st action st') (hcheck : ¬ ChecksHold st action) :
    ¬ Deduplicated st' := by
  intro hdedup
  obtain ⟨hstep, hlogged⟩ := hstep
  cases hstep with
  | replay _ _ => exact hcheck trivial
  | lookup _ _ => exact hcheck trivial
  | start _ _ _ _ => exact hcheck trivial
  | finish _ _ _ _ => exact hcheck trivial
  | @enqueue task before after logged hflight =>
      obtain rfl : logged = true := hlogged
      obtain ⟨run, hrun, hid, hphase⟩ := h.exists_run (Bool.not_eq_false _ ▸ hcheck)
      obtain ⟨earlier, later, hruns⟩ := List.append_of_mem hrun
      have hsplit : st.runs ++ [⟨task, .enqueued⟩] =
          earlier ++ run :: (later ++ [⟨task, .enqueued⟩]) := by
        rw [hruns]
        simp
      exact hphase (hdedup.restart earlier run _ hsplit ⟨task, .enqueued⟩ (by simp) hid.symm)

/-- **Jobs are deduplicated in a run exactly when every submit appends its job on a check that
still holds.** -/
theorem proofQueue_deduplicates_iff {trace : List (QueueState × QueueAction)}
    (hrun : Runs.Trace (LoggedStep std maxWorkers) .empty trace st) :
    ((∀ p ∈ trace, Deduplicated p.1) ∧ Deduplicated st) ↔
      ∀ p ∈ trace, ChecksHold p.1 p.2 := by
  refine hrun.good_iff (fun t ht => ht.deduplicated) ?_ ?_ consistent_empty
  · intro t action u ht hstep hcheck
    refine ht.step hstep.1 ?_
    have hlogged := hstep.2
    cases action with
    | lookup task => trivial
    | enqueue task logged => exact ⟨hcheck, hlogged⟩
    | start task logged => exact hlogged
    | finish task proved logged failedLogged => exact fun _ => hlogged.1
  · intro t action u ht hstep hcheck
    exact not_deduplicated_of_replay ht hstep hcheck

/-- One submit, on its own. -/
theorem exists_submit (std : PyStd) (maxWorkers : Nat) : ∃ task trace,
    Runs.Trace (LoggedStep std maxWorkers) .empty trace ⟨[task], [], [⟨task, .enqueued⟩]⟩ ∧
      ∀ p ∈ trace, ChecksHold p.1 p.2 := by
  obtain ⟨task, htask⟩ := exists_isSubmitted std
  have hlookup : Runs.Trace (LoggedStep std maxWorkers) .empty _ ⟨[], [task], []⟩ :=
    .snoc .nil ⟨.lookup htask rfl, trivial⟩
  have henqueue : LoggedStep std maxWorkers ⟨[], [task], []⟩ (.enqueue task true)
      ⟨[task], [], [⟨task, .enqueued⟩]⟩ := ⟨@QueueStep.enqueue _ _ _ _ [] [] true rfl, rfl⟩
  refine ⟨task, _, .snoc hlookup henqueue, ?_⟩
  intro p hp
  simp only [List.nil_append, List.cons_append, List.mem_cons, List.not_mem_nil, or_false] at hp
  rcases hp with rfl | rfl
  · trivial
  · rfl

theorem proofQueue_deduplicates_iff_submit : ∃ st, st.runs ≠ [] ∧ Deduplicated st := by
  obtain ⟨task, trace, hrun, hchecks⟩ := exists_submit lengthStd 1
  exact ⟨_, by simp, ((proofQueue_deduplicates_iff hrun).mpr hchecks).2⟩

/-- Two submits of one job that both look it up before either appends it start two runs. -/
theorem proofQueue_races : ∃ trace st,
    Runs.Trace (LoggedStep lengthStd 1) .empty trace st ∧ ¬ Deduplicated st := by
  obtain ⟨task, htask⟩ := exists_isSubmitted lengthStd
  have hfirst : Runs.Trace (LoggedStep lengthStd 1) .empty _ ⟨[], [task], []⟩ :=
    .snoc .nil ⟨.lookup htask rfl, trivial⟩
  have hsecond : Runs.Trace (LoggedStep lengthStd 1) .empty _ ⟨[], [task, task], []⟩ :=
    .snoc hfirst ⟨.lookup htask rfl, trivial⟩
  have hone : LoggedStep lengthStd 1 ⟨[], [task, task], []⟩ (.enqueue task true)
      ⟨[task], [task], [⟨task, .enqueued⟩]⟩ := ⟨@QueueStep.enqueue _ _ _ _ [] [task] true rfl, rfl⟩
  have htwo : LoggedStep lengthStd 1 ⟨[task], [task], [⟨task, .enqueued⟩]⟩ (.enqueue task true)
      ⟨[task, task], [], [⟨task, .enqueued⟩, ⟨task, .enqueued⟩]⟩ :=
    ⟨@QueueStep.enqueue _ _ _ _ [] [] true rfl, rfl⟩
  refine ⟨_, _, .snoc (.snoc hsecond hone) htwo, ?_⟩
  intro hdedup
  have hle := hdedup.atMostOne task.taskId
  simp [Phase.isActive] at hle

end Dedup

/-! ### Writes that fail -/

/-- The histories of all jobs are legal, and a job without an enqueued or executing run has
completed or failed. -/
structure LifecycleHolds (st : QueueState) : Prop where
  history : ∀ taskId, LegalHistory (historyOf st.events taskId)
  settled : ∀ taskId, (∀ run ∈ st.runs, run.task.taskId = taskId → run.phase.isActive = false) →
    ∀ status, (historyOf st.events taskId).getLast? = some status →
      status = .completed ∨ status = .failed

/-- The steps of a queue whose clients submit one after the other. -/
def SequentialStep (std : PyStd) (maxWorkers : Nat) (st : QueueState) (action : QueueAction)
    (st' : QueueState) : Prop :=
  QueueStep std maxWorkers st action st' ∧ ∀ task, action = .lookup task → st.inFlight = []

/-- Every event that the action appends is written to the log, the event of a failed job
apart. -/
def QueueAction.Written : QueueAction → Prop
  | .lookup _ => True
  | .enqueue _ logged | .start _ logged => logged = true
  | .finish _ proved logged _ => proved = true → logged = true

/-- A consistent queue with at most one submit in flight, whose check still holds. -/
structure Orderly (st : QueueState) : Prop extends Consistent st where
  single : st.inFlight.length ≤ 1
  checked : ∀ task ∈ st.inFlight, isReplay (latestFor st.events task.taskId) = false

section Lifecycle

variable {std : PyStd} {maxWorkers : Nat} {st st' : QueueState} {action : QueueAction}
  {task : ProofTask} {taskId : String}

theorem Consistent.lifecycleHolds (h : Consistent st) : LifecycleHolds st := by
  constructor
  · intro taskId
    exact (h.jobs taskId).legal
  · intro taskId hidle status hstatus
    refine (h.jobs taskId).settled ?_ hstatus
    intro p hp
    obtain ⟨run, hrun, hid, rfl⟩ := mem_phasesOf_iff.mp hp
    exact hidle run hrun hid

/-- A job with an active run counts as a replay. -/
theorem Consistent.isReplay_of_active (h : Consistent st) {before after : List JobRun}
    {phase : Phase} (hruns : st.runs = before ++ ⟨task, phase⟩ :: after)
    (hactive : phase.isActive = true) : isReplay (latestFor st.events task.taskId) = true := by
  have hjob := h.jobs task.taskId
  rw [hruns, phasesOf_self] at hjob
  have hphase : phase ≠ .failed := by
    rintro rfl
    cases hactive
  obtain ⟨-, -, hhistory⟩ := hjob.split hphase
  by_contra hreplay
  rw [Bool.not_eq_true, isReplay_eq_false_iff, hhistory] at hreplay
  cases phase with
  | enqueued => exact absurd (hreplay .pending (by simp [Phase.history])) (by decide)
  | executing => exact absurd (hreplay .processing (by simp [Phase.history])) (by decide)
  | completed => cases hactive
  | failed => cases hactive
  | aborted => cases hactive

/-- A worker's events leave the check of a submit in flight as it was. -/
theorem Orderly.checked_append (h : Orderly st) {before after : List JobRun} {phase : Phase}
    (hruns : st.runs = before ++ ⟨task, phase⟩ :: after) (hactive : phase.isActive = true)
    {events : List ProofTask} (hids : ∀ event ∈ events, event.taskId = task.taskId)
    {other : ProofTask} (hother : other ∈ st.inFlight) :
    isReplay (latestFor (st.events ++ events) other.taskId) = false := by
  have hchecked := h.checked other hother
  have hne : task.taskId ≠ other.taskId := by
    intro hid
    rw [← hid, h.isReplay_of_active hruns hactive] at hchecked
    cases hchecked
  have hnone : historyOf events other.taskId = [] := by
    refine historyOf_other fun event hevent => ?_
    rw [hids event hevent]
    exact hne
  rw [isReplay_eq_false_iff] at hchecked ⊢
  rw [historyOf_append, hnone, List.append_nil]
  exact hchecked

theorem finishEvents_taskId {proved logged : Bool} :
    ∀ event ∈ finishEvents task proved logged, event.taskId = task.taskId := by
  cases proved <;> cases logged <;> simp [finishEvents]

/-- **A step whose events are written keeps an orderly queue orderly.** -/
theorem Orderly.step (h : Orderly st) (hstep : SequentialStep std maxWorkers st action st')
    (hwritten : action.Written) : Orderly st' := by
  obtain ⟨hstep, hsequential⟩ := hstep
  have hconsistent : Sound st action → Consistent st' := h.toConsistent.step hstep
  cases hstep with
  | replay _ _ => exact h
  | @lookup task hsubmitted hreplay =>
      have hempty : st.inFlight = [] := hsequential task rfl
      refine { toConsistent := hconsistent trivial, single := ?_, checked := ?_ }
      · show (st.inFlight ++ [task]).length ≤ 1
        rw [hempty]
        exact Nat.le_refl 1
      · intro other hother
        have hmem : other ∈ st.inFlight ++ [task] := hother
        rw [hempty, List.nil_append, List.mem_singleton] at hmem
        rw [hmem]
        exact hreplay
  | @enqueue task before after logged hflight =>
      -- the one task in flight is taken, and none is left
      have hsingle := h.single
      have hlength : before.length + after.length = 0 := by
        rw [hflight, List.length_append, List.length_cons] at hsingle
        omega
      obtain rfl : before = [] := List.length_eq_zero_iff.mp (by omega)
      obtain rfl : after = [] := List.length_eq_zero_iff.mp (by omega)
      have hchecked := h.checked task (by rw [hflight]; simp)
      exact { toConsistent := hconsistent ⟨hchecked, hwritten⟩
              single := Nat.zero_le 1
              checked := fun other hother => absurd hother List.not_mem_nil }
  | start logged hruns _ _ =>
      exact { toConsistent := hconsistent hwritten
              single := h.single
              checked := fun other hother =>
                h.checked_append hruns rfl (by simp) hother }
  | finish proved logged failedLogged hruns =>
      exact { toConsistent := hconsistent hwritten
              single := h.single
              checked := fun other hother =>
                h.checked_append hruns rfl finishEvents_taskId hother }

/-- An event that is not written leaves its job pending or processing for ever, or turns it
from completed into failed. -/
theorem Orderly.not_lifecycleHolds (h : Orderly st)
    (hstep : SequentialStep std maxWorkers st action st') (hwritten : ¬ action.Written) :
    ¬ LifecycleHolds st' := by
  intro hlife
  obtain ⟨hstep, -⟩ := hstep
  cases hstep with
  | replay _ _ => exact hwritten trivial
  | lookup _ _ => exact hwritten trivial
  | @enqueue task before after logged hflight =>
      -- the job was never handed to the pool: it stays pending
      obtain rfl : logged = false := Bool.not_eq_true _ ▸ hwritten
      have hchecked := h.checked task (by rw [hflight]; simp)
      have hidle : ∀ run ∈ st.runs, run.task.taskId = task.taskId → run.phase.isActive = false := by
        intro run hrun hid
        obtain ⟨earlier, later, hruns⟩ := List.append_of_mem hrun
        by_contra hactive
        have hreplay := h.isReplay_of_active hruns (by simpa using hactive)
        rw [hid, hchecked] at hreplay
        cases hreplay
      have hstatus : task.status = .pending := h.inFlight task (by rw [hflight]; simp)
      have hlast : (historyOf (st.events ++ [task]) task.taskId).getLast? = some .pending := by
        rw [historyOf_append, historyOf_cons, if_pos rfl, hstatus]
        simp [historyOf]
      rcases hlife.settled task.taskId hidle .pending hlast with hend | hend <;> cases hend
  | @start task before after logged hruns _ _ =>
      obtain rfl : logged = false := Bool.not_eq_true _ ▸ hwritten
      -- the run is aborted before its work begins: the job stays processing
      have hjob := h.jobs task.taskId
      rw [hruns, phasesOf_self] at hjob
      obtain ⟨hafter, hbefore, -⟩ := hjob.split (by decide)
      have hidle : ∀ run ∈ before ++ ⟨task, .aborted⟩ :: after,
          run.task.taskId = task.taskId → run.phase.isActive = false := by
        intro run hrun hid
        rcases List.mem_append.mp hrun with hrun | hrun
        · rw [hbefore run.phase (mem_phasesOf_iff.mpr ⟨run, hrun, hid, rfl⟩)]
          rfl
        · rcases List.mem_cons.mp hrun with rfl | hrun
          · rfl
          · have hmem := mem_phasesOf_iff.mpr ⟨run, hrun, hid, rfl⟩
            rw [hafter] at hmem
            cases hmem
      have hlast : (historyOf (st.events ++ [task.withStatus .processing]) task.taskId).getLast? =
          some .processing := by
        rw [historyOf_append, historyOf_cons]
        simp [historyOf]
      rcases hlife.settled task.taskId hidle .processing hlast with hend | hend <;> cases hend
  | @finish task before after proved logged failedLogged hruns =>
      obtain ⟨rfl, rfl⟩ : proved = true ∧ logged = false := by
        cases proved <;> cases logged <;> simp_all [QueueAction.Written]
      -- the completed event is in memory, and the failed one follows
      obtain ⟨-, hchain⟩ := hlife.history task.taskId
      have hhistory : historyOf (st.events ++ finishEvents task true false) task.taskId =
          historyOf st.events task.taskId ++ [.completed, .failed] := by
        rw [historyOf_append]
        simp [historyOf, finishEvents]
      rw [hhistory] at hchain
      have hpair := hchain.right_of_append
      simp [JobStatus.leadsTo] at hpair

/-- **In a run with sequential submits, all jobs keep to their life cycle exactly when every
event is written to the log, the events of failed jobs apart.** -/
theorem proofQueue_lifecycle_iff {trace : List (QueueState × QueueAction)}
    (hrun : Runs.Trace (SequentialStep std maxWorkers) .empty trace st) :
    ((∀ p ∈ trace, LifecycleHolds p.1) ∧ LifecycleHolds st) ↔
      ∀ p ∈ trace, p.2.Written := by
  have hempty : Orderly .empty := {
    toConsistent := consistent_empty
    single := Nat.zero_le 1
    checked := fun task htask => absurd htask List.not_mem_nil }
  have hkeep : ∀ t action u, Orderly t → SequentialStep std maxWorkers t action u →
      action.Written → Orderly u := by
    intro t action u ht hstep hwritten
    exact ht.step hstep hwritten
  have hbreak : ∀ t action u, Orderly t → SequentialStep std maxWorkers t action u →
      ¬ action.Written → ¬ LifecycleHolds u := by
    intro t action u ht hstep hwritten
    exact ht.not_lifecycleHolds hstep hwritten
  exact Runs.Trace.good_iff (fun t ht => ht.toConsistent.lifecycleHolds) hkeep hbreak hempty hrun

/-- One job, from its submit to its proof. -/
theorem exists_job (std : PyStd) : ∃ task trace,
    Runs.Trace (SequentialStep std 1) .empty trace
        ⟨[task, task.withStatus .processing, task.withStatus .completed], [],
          [⟨task, .completed⟩]⟩ ∧
      ∀ p ∈ trace, p.2.Written := by
  obtain ⟨task, htask⟩ := exists_isSubmitted std
  have hlookup : Runs.Trace (SequentialStep std 1) .empty _ ⟨[], [task], []⟩ :=
    .snoc .nil ⟨.lookup htask rfl, fun _ _ => rfl⟩
  have henqueue : SequentialStep std 1 ⟨[], [task], []⟩ (.enqueue task true)
      ⟨[task], [], [⟨task, .enqueued⟩]⟩ :=
    ⟨@QueueStep.enqueue _ _ _ _ [] [] true rfl, fun _ h => by cases h⟩
  have hstart : SequentialStep std 1 ⟨[task], [], [⟨task, .enqueued⟩]⟩ (.start task true)
      ⟨[task, task.withStatus .processing], [], [⟨task, .executing⟩]⟩ :=
    ⟨@QueueStep.start _ _ _ _ [] [] true rfl (by simp) (by simp), fun _ h => by cases h⟩
  have hfinish : SequentialStep std 1
      ⟨[task, task.withStatus .processing], [], [⟨task, .executing⟩]⟩
      (.finish task true true true)
      ⟨[task, task.withStatus .processing, task.withStatus .completed], [],
        [⟨task, .completed⟩]⟩ :=
    ⟨@QueueStep.finish _ _ _ _ [] [] true true true rfl, fun _ h => by cases h⟩
  refine ⟨task, _, .snoc (.snoc (.snoc hlookup henqueue) hstart) hfinish, ?_⟩
  intro p hp
  simp only [List.nil_append, List.cons_append, List.mem_cons, List.not_mem_nil, or_false] at hp
  rcases hp with rfl | rfl | rfl | rfl
  · trivial
  · rfl
  · rfl
  · exact fun _ => rfl

theorem proofQueue_lifecycle_iff_job : ∃ st, st.runs ≠ [] ∧ LifecycleHolds st := by
  obtain ⟨task, trace, hrun, hwritten⟩ := exists_job lengthStd
  exact ⟨_, by simp, ((proofQueue_lifecycle_iff hrun).mpr hwritten).2⟩

/-- A submit whose event is not written leaves a pending job that nobody runs. -/
theorem proofQueue_loses_job : ∃ trace st,
    Runs.Trace (SequentialStep lengthStd 1) .empty trace st ∧ ¬ LifecycleHolds st := by
  obtain ⟨task, htask⟩ := exists_isSubmitted lengthStd
  have hlookup : Runs.Trace (SequentialStep lengthStd 1) .empty _ ⟨[], [task], []⟩ :=
    .snoc .nil ⟨.lookup htask rfl, fun _ _ => rfl⟩
  have henqueue : SequentialStep lengthStd 1 ⟨[], [task], []⟩ (.enqueue task false)
      ⟨[task], [], []⟩ :=
    ⟨@QueueStep.enqueue _ _ _ _ [] [] false rfl, fun _ h => by cases h⟩
  refine ⟨_, _, .snoc hlookup henqueue, ?_⟩
  intro hlife
  have hlast : (historyOf [task] task.taskId).getLast? = some .pending := by
    rw [historyOf_cons, if_pos rfl, htask.status]
    rfl
  rcases hlife.settled task.taskId (by simp) .pending hlast with hend | hend <;> cases hend

end Lifecycle

end Vrl

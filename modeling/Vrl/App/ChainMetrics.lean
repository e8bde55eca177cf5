import Mathlib.Algebra.BigOperators.Group.Finset.Basic
import Mathlib.Algebra.Order.BigOperators.Group.Finset
import Vrl.App.Concurrency

/-!
# Vrl.App.ChainMetrics

The counters of each chain (`core/chain_metrics.py`), and the calls of
`calculate_and_persist` that feed them.

A call records its request before its first transaction. What becomes of it is recorded
where the retry loop is left with a result, with a duplicate that the check has found,
or with an unexpected exception. It is not recorded where the loop is left because the
retries are exhausted, nor where the batch insert has found the duplicate.

`MeteredSystem.balance` says of any number of calls, at any time, whatever the database
answers: the requests of a chain are the outcomes recorded for it, the calls still in an
attempt, and those that left unrecorded.
-/

open Runs

namespace Vrl

/-! ### The counters -/

/-- One counter for each chain. -/
abbrev Counter := Fin auditChainPartitions → Nat

/-- `counter[chain_id] += 1`. -/
def Counter.increment (counter : Counter) (chainId : Fin auditChainPartitions) : Counter :=
  Function.update counter chainId (counter chainId + 1)

/-- `ChainMetrics`. -/
structure ChainMetrics where
  requests : Counter := fun _ => 0
  successes : Counter := fun _ => 0
  duplicates : Counter := fun _ => 0
  errors : Counter := fun _ => 0

/-- What can be recorded of a request. -/
inductive CallOutcome where
  | success
  | duplicate
  | error
  deriving DecidableEq, Repr

namespace ChainMetrics

variable (metrics : ChainMetrics) (chainId : Fin auditChainPartitions)

/-- `record_request`. -/
def recordRequest : ChainMetrics :=
  { metrics with requests := metrics.requests.increment chainId }

/-- `record_success`. -/
def recordSuccess : ChainMetrics :=
  { metrics with successes := metrics.successes.increment chainId }

/-- `record_duplicate`. -/
def recordDuplicate : ChainMetrics :=
  { metrics with duplicates := metrics.duplicates.increment chainId }

/-- `record_error`. -/
def recordError : ChainMetrics :=
  { metrics with errors := metrics.errors.increment chainId }

/-- What is recorded at the end of an attempt, if anything. -/
def recordOutcome : Option CallOutcome → ChainMetrics
  | some .success => metrics.recordSuccess chainId
  | some .duplicate => metrics.recordDuplicate chainId
  | some .error => metrics.recordError chainId
  | none => metrics

/-- The outcomes that are recorded for a chain. -/
def outcomes : Nat :=
  metrics.successes chainId + metrics.duplicates chainId + metrics.errors chainId

end ChainMetrics

theorem Counter.increment_apply (counter : Counter) (i k : Fin auditChainPartitions) :
    counter.increment i k = counter k + if i = k then 1 else 0 := by
  by_cases h : i = k
  · subst h
    simp [Counter.increment]
  · rw [Counter.increment, Function.update_of_ne (Ne.symm h), if_neg h]
    rfl

namespace ChainMetrics

variable (metrics : ChainMetrics) (i k : Fin auditChainPartitions)

theorem recordRequest_requests :
    (metrics.recordRequest i).requests k = metrics.requests k + if i = k then 1 else 0 :=
  Counter.increment_apply _ i k

@[simp] theorem recordRequest_outcomes :
    (metrics.recordRequest i).outcomes k = metrics.outcomes k :=
  rfl

@[simp] theorem recordOutcome_requests (outcome : Option CallOutcome) :
    (metrics.recordOutcome i outcome).requests = metrics.requests := by
  obtain _ | _ | _ | _ := outcome <;> rfl

theorem recordOutcome_outcomes (outcome : Option CallOutcome) :
    (metrics.recordOutcome i outcome).outcomes k =
      metrics.outcomes k + if i = k then outcome.isSome.toNat else 0 := by
  obtain _ | outcome := outcome
  · simp [recordOutcome]
  · cases outcome
    all_goals
      simp only [recordOutcome, recordSuccess, recordDuplicate, recordError, outcomes,
        Counter.increment_apply, Option.isSome_some, Bool.toNat_true]
      omega

end ChainMetrics

/-! ### What a call records -/

/-- The chain of a call, as an index. -/
def Computed.partition (c : Computed) : Fin auditChainPartitions :=
  ⟨c.chainId.toNat, by
    rw [Computed.chainId, chainIdForInput, Int.toNat_natCast]
    exact Nat.mod_lt _ (by decide)⟩

/-- The exception with which a statement leaves the transaction. -/
def Stage.escaping (answer : Answer) : Stage → Option Exc
  | .start | .commit .. => answer.raised.map .db
  | .rollback exc => some ((answer.raised.map .db).getD exc)
  | _ => none

/-- What the `except` clauses around an attempt record. -/
def recordedOnException (exc : Exc) : Task → Option CallOutcome
  | .logFailure _ => none
  | .attempt _ =>
      match exc with
      | .duplicateInputHash _ => none
      | exc =>
          match exc.retryableName with
          | some _ => none
          | none => some .error

/-- What is recorded after the commit of an attempt. -/
def recordedOnCommit : Task → EventKind → Option CallOutcome
  | .logFailure _, _ => none
  | .attempt _, .persisted => some .success
  | .attempt _, _ => some .duplicate

/-- What a call records after the answer to the statement it has sent. -/
def recorded (answer : Answer) : Loc → Option CallOutcome
  | .inTx task stage =>
      match stage.escaping answer with
      | some exc => recordedOnException exc task
      | none =>
          match stage with
          | .commit kind _ => recordedOnCommit task kind
          | _ => none
  | _ => none

/-! ### One step of a call -/

/-- The call is in one of its attempts. -/
def Loc.inAttempt : Loc → Bool
  | .inTx (.attempt _) _ => true
  | _ => false

/-- The exceptions that end the call without a record: a transient error in the last
attempt, and a duplicate that was found by the batch insert. -/
def Exc.unrecorded (n : Nat) : Exc → Bool
  | .duplicateInputHash _ => true
  | exc => exc.retryableName.isSome && n == maxTransactionRetries

/-- The answer makes the call leave its last attempt without a record. -/
def Loc.leavesUnrecorded (answer : Answer) : Loc → Bool
  | .inTx (.attempt n) stage => (stage.escaping answer).any (·.unrecorded n)
  | _ => false

section Steps

variable (std : PyStd) (c : Computed)

theorem step_of_escaping {answer : Answer} {task : Task} {stage : Stage} {exc : Exc}
    (h : stage.escaping answer = some exc) :
    Vrl.step std c answer (.inTx task stage) = afterException answer.now exc task := by
  cases stage with
  | start =>
      obtain ⟨e, he, rfl⟩ := Option.map_eq_some_iff.mp h
      simp only [Vrl.step, he]
  | commit kind inserted =>
      obtain ⟨e, he, rfl⟩ := Option.map_eq_some_iff.mp h
      simp only [Vrl.step, he]
  | rollback exc' =>
      obtain rfl := Option.some.inj h
      unfold Vrl.step
      cases answer.raised <;> rfl
  | _ => cases h

/-- A transaction that is neither left with an exception nor committed goes on. -/
theorem step_of_escaping_none {answer : Answer} {task : Task} {stage : Stage}
    (h : stage.escaping answer = none) (hcommit : ∀ kind inserted, stage ≠ .commit kind inserted) :
    ∃ stage', Vrl.step std c answer (.inTx task stage) = .inTx task stage' := by
  have hinsert : ∀ kind build, ∃ stage', thenInsert task kind build = .inTx task stage' := by
    intro kind build
    cases build <;> exact ⟨_, rfl⟩
  cases stage with
  | commit kind inserted => exact absurd rfl (hcommit kind inserted)
  | rollback exc => cases h
  | start =>
      have hok : answer.raised = none := Option.map_eq_none_iff.mp h
      exact ⟨.acquireLock, by simp only [Vrl.step, hok]⟩
  | acquireLock =>
      unfold Vrl.step
      cases answer.raised <;> exact ⟨_, rfl⟩
  | fetchHead =>
      unfold Vrl.step
      cases answer.raised with
      | some e => exact ⟨_, rfl⟩
      | none =>
          cases task with
          | attempt n => exact ⟨_, rfl⟩
          | logFailure f => exact hinsert _ _
  | checkDuplicate prevHash =>
      unfold Vrl.step
      cases answer.raised with
      | some e => exact ⟨_, rfl⟩
      | none =>
          dsimp only
          split
          · exact hinsert _ _
          · exact ⟨_, rfl⟩
  | insertRecords prevHash =>
      unfold Vrl.step
      cases answer.raised with
      | some e => exact ⟨_, rfl⟩
      | none => exact hinsert _ _
  | insertEvent kind record =>
      unfold Vrl.step
      cases answer.raised with
      | some e => exact ⟨_, rfl⟩
      | none =>
          cases kind with
          | persisted =>
              simp only [afterInsert]
              cases checkPersisted std c { record with id := some answer.auditId } <;>
                exact ⟨_, rfl⟩
          | _ => exact ⟨_, rfl⟩

/-- An exception that leaves an attempt leads to the next attempt, is recorded, or ends the
call unrecorded. -/
theorem afterException_accounts (now : DateTime) (exc : Exc) (n : Nat) :
    (afterException now exc (.attempt n)).inAttempt.toNat +
        (recordedOnException exc (.attempt n)).isSome.toNat + (exc.unrecorded n).toNat = 1 := by
  unfold afterException recordedOnException Exc.unrecorded
  cases exc with
  | duplicateInputHash message => rfl
  | _ =>
      dsimp only
      split
      · next hname =>
          by_cases hlast : n = maxTransactionRetries
          · simp [hname, hlast, Loc.inAttempt]
          · simp [hname, hlast, Loc.inAttempt]
      · next hname => simp [hname, Loc.inAttempt]

/-- **A call in an attempt stays in one, records its outcome, or leaves unrecorded.** Any
other call does none of these. -/
theorem step_accounts (answer : Answer) (loc : Loc) :
    (Vrl.step std c answer loc).inAttempt.toNat + (recorded answer loc).isSome.toNat +
      (loc.leavesUnrecorded answer).toNat = loc.inAttempt.toNat := by
  cases loc with
  | returned evidence => rfl
  | raised exc => rfl
  | inTx task stage =>
      cases hesc : stage.escaping answer with
      | some exc =>
          rw [step_of_escaping std c hesc]
          cases task with
          | attempt n =>
              simp only [recorded, Loc.leavesUnrecorded, hesc, Option.any_some]
              exact afterException_accounts answer.now exc n
          | logFailure f => simp [recorded, Loc.leavesUnrecorded, hesc, recordedOnException,
              afterException, Loc.inAttempt]
      | none =>
          have hstays : (Loc.inTx task stage).leavesUnrecorded answer = false := by
            cases task <;> simp [Loc.leavesUnrecorded, hesc]
          rw [hstays]
          by_cases hcommit : ∃ kind inserted, stage = .commit kind inserted
          · obtain ⟨kind, inserted, rfl⟩ := hcommit
            have hok : answer.raised = none := Option.map_eq_none_iff.mp hesc
            simp only [Vrl.step, recorded, hok, hesc]
            cases task <;> cases kind <;> rfl
          · have hnot : ∀ kind inserted, stage ≠ .commit kind inserted := fun kind inserted h =>
              hcommit ⟨kind, inserted, h⟩
            obtain ⟨stage', h⟩ := @step_of_escaping_none std c _ task _ hesc hnot
            have hrecorded : recorded answer (.inTx task stage) = none := by
              simp only [recorded, hesc]
            rw [h, hrecorded]
            cases task <;> rfl

end Steps

/-! ### Calls side by side -/

/-- The calls on one database, those that have recorded their request, and the counters. -/
structure MeteredSystem (ι : Type) where
  system : System ι
  started : Finset ι := ∅
  metrics : ChainMetrics := {}

namespace MeteredSystem

variable (std : PyStd) {ι : Type} [DecidableEq ι] (calls : ι → Computed)

/-- Before any call, on an empty database. -/
def init : MeteredSystem ι where
  system := System.init

variable (m : MeteredSystem ι)

/-- Where a call stands. -/
def loc (i : ι) : Loc := (m.system.sessions i).loc

/-- The calls of a chain that are in an attempt. -/
def inProgress (chainId : Fin auditChainPartitions) : Nat :=
  ∑ i ∈ m.started, if (calls i).partition = chainId then (m.loc i).inAttempt.toNat else 0

/-- A call records its request, or else gets the next answer. -/
def step (label : ι × Answer) : MeteredSystem ι :=
  if label.1 ∈ m.started then
    { m with
      system := m.system.step std calls label.1 label.2
      metrics := m.metrics.recordOutcome (calls label.1).partition
        (recorded label.2 (m.loc label.1)) }
  else
    { m with
      started := insert label.1 m.started
      metrics := m.metrics.recordRequest (calls label.1).partition }

/-- The answer makes a call leave the retry loop without a record. -/
def LeavesUnrecorded (label : ι × Answer) : Prop :=
  label.1 ∈ m.started ∧ (m.loc label.1).leavesUnrecorded label.2 = true

instance (label : ι × Answer) : Decidable (m.LeavesUnrecorded label) :=
  inferInstanceAs (Decidable (_ ∧ _))

/-- One if the step makes a call of the chain leave without a record. -/
def lostBy (label : ι × Answer) (chainId : Fin auditChainPartitions) : Nat :=
  if (calls label.1).partition = chainId ∧ m.LeavesUnrecorded label then 1 else 0

/-! ### One step -/

section Steps

variable {m} {label : ι × Answer}

theorem loc_step_self (h : label.1 ∈ m.started) :
    (m.step std calls label).loc label.1 =
      Vrl.step std (calls label.1) label.2 (m.loc label.1) := by
  rw [step, if_pos h]
  simp only [loc, System.step, Function.update_self, Session.step_loc]

theorem loc_step_of_ne {j : ι} (hne : j ≠ label.1) : (m.step std calls label).loc j = m.loc j := by
  unfold step
  split
  · simp only [loc, System.step, Function.update_of_ne hne]
  · rfl

/-- A call that gets an answer is the only one whose part in the sum changes. -/
theorem inProgress_step_of_mem (h : label.1 ∈ m.started) (k : Fin auditChainPartitions) :
    (m.step std calls label).inProgress calls k +
        (if (calls label.1).partition = k then (m.loc label.1).inAttempt.toNat else 0) =
      m.inProgress calls k +
        if (calls label.1).partition = k then
          (Vrl.step std (calls label.1) label.2 (m.loc label.1)).inAttempt.toNat else 0 := by
  have hstarted : (m.step std calls label).started = m.started := by
    rw [step, if_pos h]
  have hrest : ∀ j ∈ m.started.erase label.1,
      (if (calls j).partition = k then ((m.step std calls label).loc j).inAttempt.toNat else 0) =
        if (calls j).partition = k then (m.loc j).inAttempt.toNat else 0 := by
    intro j hj
    rw [loc_step_of_ne std calls (Finset.ne_of_mem_erase hj)]
  rw [inProgress, inProgress, hstarted, ← Finset.add_sum_erase _ _ h,
    ← Finset.add_sum_erase _ _ h, Finset.sum_congr rfl hrest, loc_step_self std calls h]
  omega

/-- A call that has just recorded its request is at the start of its first attempt. -/
theorem inProgress_step_of_notMem (h : label.1 ∉ m.started)
    (hfresh : m.system.sessions label.1 = .init) (k : Fin auditChainPartitions) :
    (m.step std calls label).inProgress calls k =
      m.inProgress calls k + if (calls label.1).partition = k then 1 else 0 := by
  have hloc : (m.step std calls label).loc = m.loc := by
    rw [step, if_neg h]
    rfl
  have hstarted : (m.step std calls label).started = insert label.1 m.started := by
    rw [step, if_neg h]
  have hattempt : (m.loc label.1).inAttempt = true := by
    rw [loc, hfresh]
    rfl
  rw [inProgress, hstarted, hloc, Finset.sum_insert h, hattempt, Nat.add_comm]
  rfl

/-- **What a step adds to the requests of a chain**, it adds to the outcomes, the calls in
progress and the losses. -/
theorem step_balance (hfresh : ∀ i ∉ m.started, m.system.sessions i = .init)
    (label : ι × Answer) (k : Fin auditChainPartitions) :
    (m.step std calls label).metrics.requests k + m.metrics.outcomes k + m.inProgress calls k =
      m.metrics.requests k + (m.step std calls label).metrics.outcomes k +
        (m.step std calls label).inProgress calls k + m.lostBy calls label k := by
  by_cases h : label.1 ∈ m.started
  · have hprogress := inProgress_step_of_mem std calls h k
    have haccounts := step_accounts std (calls label.1) label.2 (m.loc label.1)
    have hmetrics : (m.step std calls label).metrics = m.metrics.recordOutcome
        (calls label.1).partition (recorded label.2 (m.loc label.1)) := by
      rw [step, if_pos h]
    rw [hmetrics, ChainMetrics.recordOutcome_requests, ChainMetrics.recordOutcome_outcomes]
    by_cases hk : (calls label.1).partition = k
    · simp only [hk, if_true] at hprogress ⊢
      have hlost : m.lostBy calls label k = ((m.loc label.1).leavesUnrecorded label.2).toNat := by
        simp only [lostBy, LeavesUnrecorded, hk, h, true_and]
        cases (m.loc label.1).leavesUnrecorded label.2 <;> rfl
      omega
    · have hlost : m.lostBy calls label k = 0 := if_neg fun hlost => hk hlost.1
      simp only [hk, if_false] at hprogress ⊢
      omega
  · have hprogress := inProgress_step_of_notMem std calls h (hfresh _ h) k
    have hmetrics : (m.step std calls label).metrics =
        m.metrics.recordRequest (calls label.1).partition := by
      rw [step, if_neg h]
    have hlost : m.lostBy calls label k = 0 := if_neg fun hlost => h hlost.2.1
    rw [hmetrics, ChainMetrics.recordRequest_requests, ChainMetrics.recordRequest_outcomes]
    omega

/-- A call that has not recorded its request has not sent anything. -/
theorem fresh_step (hfresh : ∀ i ∉ m.started, m.system.sessions i = .init) (label : ι × Answer) :
    ∀ i ∉ (m.step std calls label).started,
      (m.step std calls label).system.sessions i = .init := by
  intro i hi
  by_cases h : label.1 ∈ m.started
  · rw [step, if_pos h] at hi ⊢
    have hne : i ≠ label.1 := by
      rintro rfl
      exact hi h
    simp only [System.step, Function.update_of_ne hne]
    exact hfresh i hi
  · rw [step, if_neg h] at hi ⊢
    exact hfresh i fun hmem => hi (Finset.mem_insert_of_mem hmem)

end Steps

/-! ### Whole runs -/

/-- The system after `n` steps of a schedule. -/
abbrev after (schedule : Nat → ι × Answer) (n : Nat) : MeteredSystem ι :=
  run (fun m => m.step std calls) init schedule n

theorem after_fresh (schedule : Nat → ι × Answer) (n : Nat) :
    ∀ i ∉ (after std calls schedule n).started,
      (after std calls schedule n).system.sessions i = .init :=
  run_invariant (fun m : MeteredSystem ι => m.step std calls)
    (P := fun m => ∀ i ∉ m.started, m.system.sessions i = .init) (fun _ _ => rfl)
    (fun _ label h => fresh_step std calls h label) n

/-- **The requests of a chain are the outcomes recorded for it, the calls in an attempt and
the calls that have left unrecorded**, at any time of any run. -/
theorem balance (schedule : Nat → ι × Answer) (n : Nat) (k : Fin auditChainPartitions) :
    (after std calls schedule n).metrics.requests k =
      (after std calls schedule n).metrics.outcomes k +
        (after std calls schedule n).inProgress calls k +
        ∑ t ∈ Finset.range n, (after std calls schedule t).lostBy calls (schedule t) k := by
  induction n with
  | zero => rfl
  | succ n ih =>
      have hstep := step_balance std calls (after_fresh std calls schedule n) (schedule n) k
      rw [Finset.sum_range_succ]
      simp only [after, run] at hstep ih ⊢
      omega

omit [DecidableEq ι] in
/-- A call that has ended is not in progress. -/
theorem inProgress_eq_zero {m : MeteredSystem ι} (hdone : ∀ i ∈ m.started, (m.loc i).IsFinal)
    (k : Fin auditChainPartitions) : m.inProgress calls k = 0 := by
  refine Finset.sum_eq_zero fun i hi => ?_
  have hfinal := hdone i hi
  cases hloc : m.loc i with
  | inTx task stage =>
      rw [hloc] at hfinal
      exact absurd hfinal (fun h => h)
  | _ => exact ite_self 0

theorem lostBy_eq_zero_iff {m : MeteredSystem ι} {label : ι × Answer} :
    (∀ k, m.lostBy calls label k = 0) ↔ ¬ m.LeavesUnrecorded label := by
  constructor
  · intro h hleaves
    have hone : m.lostBy calls label (calls label.1).partition = 1 := if_pos ⟨rfl, hleaves⟩
    rw [h] at hone
    cases hone
  · intro h k
    exact if_neg fun hlost => h hlost.2

/-- **When all calls have ended, every chain has as many requests as outcomes exactly when no
call has left its last attempt unrecorded.** -/
theorem requests_eq_outcomes_iff {schedule : Nat → ι × Answer} {n : Nat}
    (hdone : ∀ i ∈ (after std calls schedule n).started,
      ((after std calls schedule n).loc i).IsFinal) :
    (∀ chainId, (after std calls schedule n).metrics.requests chainId =
        (after std calls schedule n).metrics.successes chainId +
          (after std calls schedule n).metrics.duplicates chainId +
          (after std calls schedule n).metrics.errors chainId) ↔
      ∀ t < n, ¬ (after std calls schedule t).LeavesUnrecorded (schedule t) := by
  have hlosses : ∀ k, (after std calls schedule n).metrics.requests k =
      (after std calls schedule n).metrics.outcomes k +
        ∑ t ∈ Finset.range n, (after std calls schedule t).lostBy calls (schedule t) k := by
    intro k
    rw [balance, inProgress_eq_zero calls hdone, Nat.add_zero]
  constructor
  · intro hbalanced t ht
    refine (lostBy_eq_zero_iff calls).mp fun k => ?_
    have hsum : ∑ t ∈ Finset.range n,
        (after std calls schedule t).lostBy calls (schedule t) k = 0 := by
      have hk := (hlosses k).symm.trans (hbalanced k)
      rw [ChainMetrics.outcomes] at hk
      omega
    exact Finset.sum_eq_zero_iff.mp hsum t (Finset.mem_range.mpr ht)
  · intro hkept k
    rw [hlosses k, Finset.sum_eq_zero fun t ht =>
      (lostBy_eq_zero_iff calls).mpr (hkept t (Finset.mem_range.mp ht)) k]
    rfl

/-! ### A call without a database, and one that runs out of retries -/

/-- One call and what the database answers it, after the step that records its request. -/
abbrev sampleAfter (answers : Nat → Answer) (n : Nat) : MeteredSystem Unit :=
  after lengthStd (fun _ => sampleComputed) (fun t => ((), answers t)) n

/-- No statement reaches the database. -/
def unreachable (_ : Nat) : Answer :=
  { raised := some ⟨.other, "connection refused"⟩ }

theorem requests_eq_outcomes_iff_sample :
    (∀ chainId, (sampleAfter unreachable 3).metrics.requests chainId =
        (sampleAfter unreachable 3).metrics.successes chainId +
          (sampleAfter unreachable 3).metrics.duplicates chainId +
          (sampleAfter unreachable 3).metrics.errors chainId) ↔
      ∀ t < 3, ¬ (sampleAfter unreachable t).LeavesUnrecorded ((), unreachable t) := by
  refine requests_eq_outcomes_iff lengthStd _ ?_
  decide +kernel

/-- Every attempt to take the lock of the chain meets a deadlock, up to the fifth. What comes
after it goes well. -/
def deadlocks (t : Nat) : Answer :=
  if t < 16 ∧ t % 3 = 2 then { raised := some ⟨.deadlockDetected, "deadlock detected"⟩ } else {}

/-- **A call whose retries are exhausted is a request without an outcome.** The failure is
recorded in the audit log, but not in the counters. -/
theorem exhausted_retries_are_not_counted :
    (∀ i ∈ (sampleAfter deadlocks 21).started, ((sampleAfter deadlocks 21).loc i).IsFinal) ∧
      ¬ ∀ chainId, (sampleAfter deadlocks 21).metrics.requests chainId =
        (sampleAfter deadlocks 21).metrics.successes chainId +
          (sampleAfter deadlocks 21).metrics.duplicates chainId +
          (sampleAfter deadlocks 21).metrics.errors chainId := by
  refine ⟨by decide +kernel, fun hbalanced => ?_⟩
  have hchain := hbalanced sampleComputed.partition
  revert hchain
  decide +kernel

end MeteredSystem

end Vrl

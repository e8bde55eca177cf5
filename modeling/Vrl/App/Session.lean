import Vrl.App.EvidenceService

/-!
# Vrl.App.Session

What holds of a call of `calculate_and_persist` at each stage, whatever errors its
statements raise.

**`Session.step_consistent`** says what the open transaction has written so far,
and **`step_moves`** sorts what a step can do into four kinds of moves. What is
shown of whole calls and of calls side by side is derived from these two.
-/

namespace Vrl

variable (std : PyStd)

/-! ### What a transaction has written -/

/-- The rows that go with an event. -/
def Computed.evidenceRows (c : Computed) : EventKind → List Row
  | .persisted => batchRows c.request c.result c.proof
  | _ => []

/-- The record is an event of the call, of the given kind. -/
structure IsEvent (c : Computed) (kind : EventKind) (record : AuditEventRecord) : Prop where
  eventType : record.eventType = kind.eventType
  referenceId : record.referenceId = some c.request.id
  chainId : record.chainId = c.chainId
  isSealed : record.IsSealed std

/-- The transaction is an attempt to persist the records. -/
def Task.IsAttempt : Task → Prop
  | .attempt _ => True
  | .logFailure _ => False

/-- Failures are recorded in a transaction of their own. -/
def EventKind.Fits (kind : EventKind) (task : Task) : Prop :=
  task.IsAttempt ↔ kind ≠ .persistFailed

/-- The attempts are numbered from 1 to 5. -/
def Task.InRange : Task → Prop
  | .attempt n => n ≤ maxTransactionRetries
  | .logFailure _ => True

/-- What the open transaction has written, at each stage. -/
def StageConsistent (c : Computed) (pending : List Row) (task : Task) : Stage → Prop
  | .insertEvent kind record =>
      pending = c.evidenceRows kind ∧ IsEvent std c kind record ∧ kind.Fits task
  | .commit kind inserted =>
      pending = c.evidenceRows kind ++ [.audit inserted] ∧ IsEvent std c kind inserted ∧
        kind.Fits task
  | .checkDuplicate _ | .insertRecords _ => pending = [] ∧ task.IsAttempt
  | .rollback _ => True
  | _ => pending = []

/-- What the open transaction has written, wherever the call stands. -/
def LocConsistent (c : Computed) (pending : List Row) : Loc → Prop
  | .inTx task stage => task.InRange ∧ StageConsistent std c pending task stage
  | _ => pending = []

/-- The session has written what belongs to where it stands. -/
def Session.Consistent (c : Computed) (s : Session) : Prop := LocConsistent std c s.pending s.loc

theorem Session.init_consistent (c : Computed) : Session.init.Consistent std c :=
  ⟨by simp [Task.InRange, maxTransactionRetries], rfl⟩

/-! ### Events -/

section Events

variable (c : Computed)

/-- The identifier that the database gives to an event is not part of it. -/
theorem IsEvent.with_id {kind : EventKind} {record : AuditEventRecord}
    (h : IsEvent std c kind record) (id : Option Int) :
    IsEvent std c kind { record with id } :=
  ⟨h.eventType, h.referenceId, h.chainId, h.isSealed⟩

theorem isEvent_of_build {kind : EventKind} {eventPayload : List (String × PyVal)}
    {prevHash : String} {createdAt : DateTime} {record : AuditEventRecord}
    (h : buildAuditEvent std kind.eventType (some c.request.id) eventPayload prevHash createdAt
      c.chainId none = .ok record) :
    IsEvent std c kind record ∧ record.prevHash = prevHash := by
  obtain ⟨hseal, hprev, hchain, -⟩ := buildAuditEvent_isSealed std h
  obtain ⟨currentHash, -, h⟩ := Except.bind_eq_ok_iff.mp h
  cases h
  exact ⟨⟨rfl, rfl, hchain, hseal⟩, hprev⟩

theorem isEvent_persistedEvent {prevHash : String} {record : AuditEventRecord}
    (h : c.persistedEvent std prevHash = .ok record) :
    IsEvent std c .persisted record ∧ record.prevHash = prevHash :=
  isEvent_of_build std c h

theorem isEvent_duplicateEvent {prevHash : String} {record : AuditEventRecord}
    (h : c.duplicateEvent std prevHash = .ok record) :
    IsEvent std c .rejectedDuplicate record ∧ record.prevHash = prevHash :=
  isEvent_of_build std c h

theorem isEvent_failureEvent {reason prevHash : String} {createdAt : DateTime}
    {record : AuditEventRecord} (h : c.failureEvent std reason createdAt prevHash = .ok record) :
    IsEvent std c .persistFailed record ∧ record.prevHash = prevHash :=
  isEvent_of_build std c h

/-- The event of a request can be built when its time can be written. -/
theorem persistedEvent_ok (ht : ∃ s, utcIsoformat c.request.createdAt = .ok s)
    (prevHash : String) : ∃ record, c.persistedEvent std prevHash = .ok record := by
  have hall : ∀ k v, (k, v) ∈ [("request_id", Computed.uuidText c.request.id),
      ("result_id", Computed.uuidText c.result.id), ("proof_id", Computed.uuidText c.proof.id),
      ("input_hash", .str c.request.inputHash), ("output_hash", .str c.result.outputHash),
      ("trace_hash", .str c.proof.traceHash), ("integrity_hash", .str c.proof.integrityHash)] →
      ∃ j, canonicalize std v = .ok j := by
    intro k v hkv
    simp only [List.mem_cons, Prod.mk.injEq, List.not_mem_nil, or_false] at hkv
    rcases hkv with ⟨-, rfl⟩ | ⟨-, rfl⟩ | ⟨-, rfl⟩ | ⟨-, rfl⟩ | ⟨-, rfl⟩ | ⟨-, rfl⟩ | ⟨-, rfl⟩
    all_goals exact ⟨_, rfl⟩
  obtain ⟨currentHash, hhash⟩ := computeAuditHash_ok std (canonicalize_dict_ok std hall) ht prevHash
    "calculation_persisted" (some c.request.id)
  refine ⟨_, Except.bind_eq_ok_iff.mpr ⟨currentHash, hhash, rfl⟩⟩

/-- The hash of a built event is never found wrong: only the training record can still
fail. -/
theorem checkPersisted_of_isEvent {kind : EventKind} {inserted : AuditEventRecord}
    (h : IsEvent std c kind inserted) (hrecord : c.buildVerifiedTrainingRecord inserted = .ok ()) :
    checkPersisted std c inserted = .ok () := by
  have hsealed : inserted.expectedHash std = .ok inserted.currentHash := h.isSealed
  have hequal : constantTimeEqual inserted.currentHash inserted.currentHash = .ok true :=
    compareDigest_self (computeAuditHash_isAscii std hsealed)
  rw [checkPersisted, hsealed]
  simp only [hequal, hrecord]

end Events

/-! ### Every step keeps it -/

section Steps

variable (c : Computed)

/-- After an exception the call is over, or at the start of another transaction. -/
theorem afterException_cases (now : DateTime) (exc : Exc) {task : Task} (htask : task.InRange) :
    (∃ exc', afterException now exc task = .raised exc') ∨
      ∃ task', afterException now exc task = .inTx task' .start ∧ task'.InRange := by
  unfold afterException
  cases task with
  | logFailure f => exact Or.inl ⟨exc, rfl⟩
  | attempt n =>
      dsimp only
      split
      · exact Or.inl ⟨_, rfl⟩
      · split
        · split
          · exact Or.inr ⟨_, rfl, trivial⟩
          · next hn => exact Or.inr ⟨_, rfl, Nat.lt_of_le_of_ne htask hn⟩
        · exact Or.inr ⟨_, rfl, trivial⟩

theorem afterException_consistent (now : DateTime) (exc : Exc) {task : Task}
    (htask : task.InRange) : LocConsistent std c [] (afterException now exc task) := by
  obtain ⟨exc', h⟩ | ⟨task', h, htask'⟩ := afterException_cases now exc htask
  · rw [h]
    rfl
  · rw [h]
    exact ⟨htask', rfl⟩

theorem rollback_consistent {task : Task} (htask : task.InRange) (pending : List Row) (exc : Exc) :
    LocConsistent std c pending (.inTx task (.rollback exc)) :=
  ⟨htask, trivial⟩

theorem thenInsert_consistent {task : Task} {kind : EventKind} {pending : List Row}
    {build : Except PyError AuditEventRecord} (htask : task.InRange) (hkind : kind.Fits task)
    (hpending : pending = c.evidenceRows kind)
    (hevent : ∀ record, build = .ok record → IsEvent std c kind record) :
    LocConsistent std c pending (thenInsert task kind build) := by
  cases build with
  | error e => exact rollback_consistent std c htask pending (.python e)
  | ok record => exact ⟨htask, hpending, hevent record rfl, hkind⟩

theorem afterHead_consistent {task : Task} (htask : task.InRange) (prevHash : String) :
    LocConsistent std c [] (afterHead std c prevHash task) := by
  cases task with
  | attempt n => exact ⟨htask, rfl, trivial⟩
  | logFailure f =>
      have hkind : EventKind.persistFailed.Fits (.logFailure f) := by
        simp [EventKind.Fits, Task.IsAttempt]
      exact thenInsert_consistent std c htask hkind rfl fun record h =>
        (isEvent_failureEvent std c h).1

theorem afterInsert_consistent {task : Task} {kind : EventKind} {pending : List Row}
    {inserted : AuditEventRecord} (htask : task.InRange) (hkind : kind.Fits task)
    (hpending : pending = c.evidenceRows kind ++ [.audit inserted])
    (hevent : IsEvent std c kind inserted) :
    LocConsistent std c pending (afterInsert std c task inserted kind) := by
  have hcommit : LocConsistent std c pending (.inTx task (.commit kind inserted)) :=
    ⟨htask, hpending, hevent, hkind⟩
  cases kind with
  | rejectedDuplicate => exact hcommit
  | persistFailed => exact hcommit
  | persisted =>
      unfold afterInsert
      cases checkPersisted std c inserted with
      | error exc => exact rollback_consistent std c htask pending exc
      | ok _ => exact hcommit

theorem afterCommit_consistent (inserted : AuditEventRecord) (task : Task) (kind : EventKind) :
    LocConsistent std c [] (afterCommit c inserted task kind) := by
  cases task <;> cases kind <;> rfl

/-- **A step keeps the session consistent.** -/
theorem Session.step_consistent {s : Session} (hs : s.Consistent std c) (answer : Answer) :
    (s.step std c answer).1.Consistent std c := by
  obtain ⟨loc, pending⟩ := s
  cases loc with
  | returned evidence => exact hs
  | raised exc => exact hs
  | inTx task stage =>
      obtain ⟨htask, hstage⟩ := hs
      have hroll := rollback_consistent std c htask
      unfold Session.Consistent Session.step
      -- each stage says what is pending: nothing up to the insertions, then the rows of the
      -- request, then the event as well
      cases stage with
      | start =>
          simp only [Loc.statement, Vrl.step]
          cases answer.raised with
          | some e => exact afterException_consistent std c _ _ htask
          | none => exact ⟨htask, rfl⟩
      | acquireLock =>
          simp only [Loc.statement, Vrl.step, Statement.rows, List.append_nil]
          cases answer.raised with
          | some e => exact hroll _ _
          | none => exact ⟨htask, hstage⟩
      | fetchHead =>
          obtain rfl : pending = [] := hstage
          simp only [Loc.statement, Vrl.step, Statement.rows, List.append_nil, ite_self]
          cases answer.raised with
          | some e => exact hroll [] _
          | none => exact afterHead_consistent std c htask _
      | checkDuplicate prevHash =>
          obtain ⟨hpending, hattempt⟩ := hstage
          obtain rfl : pending = [] := hpending
          simp only [Loc.statement, Vrl.step, Statement.rows, List.append_nil, ite_self]
          cases answer.raised with
          | some e => exact hroll [] _
          | none =>
              have hkind : EventKind.rejectedDuplicate.Fits task := by
                simp [EventKind.Fits, hattempt]
              by_cases hdup : answer.duplicate = true
              · simp only [hdup, if_true]
                exact thenInsert_consistent std c htask hkind rfl fun record h =>
                  (isEvent_duplicateEvent std c h).1
              · simp only [hdup]
                exact ⟨htask, rfl, hattempt⟩
      | insertRecords prevHash =>
          obtain ⟨hpending, hattempt⟩ := hstage
          obtain rfl : pending = [] := hpending
          simp only [Loc.statement, Vrl.step, Statement.rows]
          cases answer.raised with
          | some e => exact hroll _ _
          | none =>
              have hkind : EventKind.persisted.Fits task := by
                simp [EventKind.Fits, hattempt]
              exact thenInsert_consistent std c htask hkind rfl fun record h =>
                (isEvent_persistedEvent std c h).1
      | insertEvent kind record =>
          obtain ⟨hpending, hevent, hkind⟩ := hstage
          simp only [Loc.statement, Vrl.step, Statement.rows]
          cases answer.raised with
          | some e => exact hroll _ _
          | none =>
              obtain rfl : pending = c.evidenceRows kind := hpending
              exact afterInsert_consistent std c htask hkind rfl (hevent.with_id std c _)
      | commit kind inserted =>
          simp only [Loc.statement, Vrl.step]
          cases answer.raised with
          | some e => exact afterException_consistent std c _ _ htask
          | none => exact afterCommit_consistent std c inserted task kind
      | rollback exc =>
          simp only [Loc.statement, Vrl.step]
          cases answer.raised with
          | some e => exact afterException_consistent std c _ _ htask
          | none => exact afterException_consistent std c _ _ htask

/-! ### The kinds of moves -/

/-- How many statements a transaction may still send. -/
def Stage.rank : Stage → Nat
  | .start => 7
  | .acquireLock => 6
  | .fetchHead => 5
  | .checkDuplicate _ => 4
  | .insertRecords _ => 3
  | .insertEvent .. => 2
  | .commit .. => 1
  | .rollback _ => 1

/-- The stages at which the transaction has the lock of its chain. -/
def Stage.HoldsLock : Stage → Prop
  | .start | .acquireLock | .rollback _ => False
  | _ => True

/-- The hash that the transaction builds on, once it is known. -/
def Stage.builtOn : Stage → Option String
  | .checkDuplicate prevHash | .insertRecords prevHash => some prevHash
  | .insertEvent _ record | .commit _ record => some record.prevHash
  | _ => none

/-- The batch insert reports a unique violation. -/
def BatchViolates (answer : Answer) : Stage → Prop
  | .insertRecords _ => ∃ e, answer.raised = some e ∧ e.kind = .uniqueViolation
  | _ => False

/-- A transaction goes on: its statement has not raised, the lock it has is the one that it
had or has just got, and the same goes for the hash it builds on. -/
structure Advances (answer : Answer) (stage stage' : Stage) : Prop where
  ok : answer.raised = none
  rank : stage'.rank < stage.rank
  forward : ∀ exc, stage' ≠ .rollback exc
  locked : stage'.HoldsLock → stage = .acquireLock ∨ stage.HoldsLock
  built : ∀ prevHash, stage'.builtOn = some prevHash →
    (stage = .fetchHead ∧ prevHash = answer.head.getD zeroHash) ∨ stage.builtOn = some prevHash
  inserted : ∀ kind inserted, stage' = .commit kind inserted →
    ∃ record, stage = .insertEvent kind record ∧ inserted = { record with id := some answer.auditId }

/-- What a call can do at a stage of a transaction: go on to a later stage, begin to roll
back, leave the transaction with an exception, or leave it with a commit. -/
inductive Moves (answer : Answer) (task : Task) : Stage → Loc → Prop where
  | advance {stage stage' : Stage} (h : Advances answer stage stage') :
      Moves answer task stage (.inTx task stage')
  | abort {stage : Stage} {exc : Exc} (hrank : 1 < stage.rank)
      (hdup : ∀ message, exc = .duplicateInputHash message → BatchViolates answer stage) :
      Moves answer task stage (.inTx task (.rollback exc))
  | leave {stage : Stage} {exc : Exc}
      (hexc : (∃ e, answer.raised = some e ∧ exc = .db e) ∨ stage = .rollback exc) :
      Moves answer task stage (afterException answer.now exc task)
  | finish {kind : EventKind} {inserted : AuditEventRecord} (hok : answer.raised = none) :
      Moves answer task (.commit kind inserted) (afterCommit c inserted task kind)

theorem thenInsert_moves {answer : Answer} {task : Task} {stage : Stage} {kind : EventKind}
    {build : Except PyError AuditEventRecord} (hrank : 2 < stage.rank)
    (hadvance : ∀ record, build = .ok record → Advances answer stage (.insertEvent kind record)) :
    Moves c answer task stage (thenInsert task kind build) := by
  cases build with
  | error e =>
      refine .abort (by omega) ?_
      intro message h
      cases h
  | ok record => exact .advance (hadvance record rfl)

theorem afterInsert_moves {answer : Answer} {task : Task} {stage : Stage} {kind : EventKind}
    {inserted : AuditEventRecord} (hrank : 1 < stage.rank)
    (hadvance : Advances answer stage (.commit kind inserted)) :
    Moves c answer task stage (afterInsert std c task inserted kind) := by
  have hcommit : Moves c answer task stage (.inTx task (.commit kind inserted)) :=
    .advance hadvance
  cases kind with
  | rejectedDuplicate => exact hcommit
  | persistFailed => exact hcommit
  | persisted =>
      unfold afterInsert
      cases hcheck : checkPersisted std c inserted with
      | ok _ => exact hcommit
      | error exc =>
          refine .abort hrank ?_
          rintro message rfl
          -- none of the checks raises a duplicate
          unfold checkPersisted at hcheck
          split at hcheck
          · cases hcheck
          · split at hcheck
            · cases hcheck
            · cases hcheck
            · split at hcheck
              · cases hcheck
              · cases hcheck

/-- **Every step is one of these moves.** -/
theorem step_moves (answer : Answer) (task : Task) (stage : Stage) :
    Moves c answer task stage (Vrl.step std c answer (.inTx task stage)) := by
  have hleave : ∀ stage e, answer.raised = some e →
      Moves c answer task stage (afterException answer.now (.db e) task) := fun stage e he =>
    .leave (.inl ⟨e, he, rfl⟩)
  have habort : ∀ {stage : Stage} e, 1 < stage.rank →
      Moves c answer task stage (.inTx task (.rollback (.db e))) := fun e hrank =>
    .abort hrank (by simp)
  -- what raises in `start`, `commit` and `rollback` leaves the transaction at once,
  -- what raises in between begins to roll it back
  cases stage with
  | start =>
      unfold Vrl.step
      cases hr : answer.raised with
      | some e => exact hleave _ e hr
      | none =>
          exact .advance ⟨hr, by simp [Stage.rank], by simp, by simp [Stage.HoldsLock],
            by simp [Stage.builtOn], by simp⟩
  | acquireLock =>
      unfold Vrl.step
      cases hr : answer.raised with
      | some e => exact habort e (by simp [Stage.rank])
      | none =>
          exact .advance ⟨hr, by simp [Stage.rank], by simp, fun _ => .inl rfl,
            by simp [Stage.builtOn], by simp⟩
  | fetchHead =>
      unfold Vrl.step
      cases hr : answer.raised with
      | some e => exact habort e (by simp [Stage.rank])
      | none =>
          cases task with
          | attempt n =>
              exact .advance ⟨hr, by simp [Stage.rank], by simp, fun _ => .inr trivial,
                fun _ h => .inl ⟨rfl, (Option.some.inj h).symm⟩, by simp⟩
          -- `fetchHead` leads to the insertion of the failure, with the head as predecessor
          | logFailure f =>
              refine thenInsert_moves c (by simp [Stage.rank]) fun record hbuild => ?_
              refine ⟨hr, by simp [Stage.rank], by simp, fun _ => .inr trivial, fun _ h => ?_,
                by simp⟩
              rw [← Option.some.inj h, (isEvent_failureEvent std c hbuild).2]
              exact .inl ⟨rfl, rfl⟩
  | checkDuplicate prevHash =>
      unfold Vrl.step
      cases hr : answer.raised with
      | some e => exact habort e (by simp [Stage.rank])
      | none =>
          by_cases hdup : answer.duplicate = true
          · simp only [hdup, if_true]
            refine thenInsert_moves c (by simp [Stage.rank]) fun record hbuild => ?_
            refine ⟨hr, by simp [Stage.rank], by simp, fun _ => .inr trivial, fun _ h => ?_,
              by simp⟩
            rw [← Option.some.inj h, (isEvent_duplicateEvent std c hbuild).2]
            exact .inr rfl
          · simp only [hdup]
            exact .advance ⟨hr, by simp [Stage.rank], by simp, fun _ => .inr trivial,
              fun _ h => .inr h, by simp⟩
  | insertRecords prevHash =>
      unfold Vrl.step
      cases hr : answer.raised with
      | none =>
          refine thenInsert_moves c (by simp [Stage.rank]) fun record hbuild => ?_
          refine ⟨hr, by simp [Stage.rank], by simp, fun _ => .inr trivial, fun _ h => ?_, by simp⟩
          rw [← Option.some.inj h, (isEvent_persistedEvent std c hbuild).2]
          exact .inr rfl
      | some e =>
          refine .abort (by simp [Stage.rank]) ?_
          intro message h
          -- only a `UniqueViolation` is turned into the duplicate error
          by_cases hkind : e.kind = .uniqueViolation
          · exact ⟨e, hr, hkind⟩
          · rw [if_neg hkind] at h
            cases h
  | insertEvent kind record =>
      unfold Vrl.step
      cases hr : answer.raised with
      | some e => exact habort e (by simp [Stage.rank])
      | none =>
          refine afterInsert_moves std c (by simp [Stage.rank]) ?_
          refine ⟨hr, by simp [Stage.rank], by simp, fun _ => .inr trivial, fun _ h => .inr h, ?_⟩
          intro kind' inserted h
          cases h
          exact ⟨record, rfl, rfl⟩
  | commit kind inserted =>
      unfold Vrl.step
      cases hr : answer.raised with
      | some e => exact hleave _ e hr
      | none => exact .finish hr
  | rollback exc =>
      unfold Vrl.step
      cases hr : answer.raised with
      | some e => exact hleave _ e hr
      | none => exact .leave (.inr rfl)

/-- A move that stays in a transaction goes on in it, begins to roll it back, or is at the
start of the next one. -/
theorem inTx_of_moves {answer : Answer} {task task' : Task} {stage stage' : Stage} {loc : Loc}
    (htask : task.InRange) (h : Moves c answer task stage loc) (heq : loc = .inTx task' stage') :
    Advances answer stage stage' ∨ (∃ exc, stage' = .rollback exc) ∨ stage' = .start := by
  cases h with
  | advance h =>
      cases heq
      exact .inl h
  | abort _ _ =>
      cases heq
      exact .inr (.inl ⟨_, rfl⟩)
  | @leave _ exc _ =>
      obtain ⟨exc', h⟩ | ⟨task'', h, -⟩ := afterException_cases answer.now exc htask
      · rw [h] at heq
        cases heq
      · rw [h] at heq
        cases heq
        exact .inr (.inr rfl)
  | @finish kind inserted _ => cases task <;> cases kind <;> cases heq

/-- Where a step takes the session. -/
theorem Session.step_loc (s : Session) (answer : Answer) :
    (s.step std c answer).1.loc = Vrl.step std c answer s.loc := by
  obtain ⟨loc, pending⟩ := s
  cases loc with
  | returned evidence => rfl
  | raised exc => rfl
  | inTx task stage => cases stage <;> rfl

/-- Only a commit commits rows, and those that are pending. -/
theorem Session.step_rows {s : Session} {answer : Answer} (h : (s.step std c answer).2 ≠ []) :
    (∃ task kind inserted, s.loc = .inTx task (.commit kind inserted)) ∧
      answer.commits = true ∧ (s.step std c answer).2 = s.pending := by
  obtain ⟨loc, pending⟩ := s
  cases loc with
  | returned evidence => exact absurd rfl h
  | raised exc => exact absurd rfl h
  | inTx task stage =>
      cases stage with
      | commit kind inserted =>
          simp only [Session.step, Loc.statement] at h ⊢
          by_cases hcommits : answer.commits = true
          · rw [if_pos hcommits]
            exact ⟨⟨task, kind, inserted, rfl⟩, hcommits, rfl⟩
          · rw [if_neg hcommits] at h
            exact absurd rfl h
      | _ => exact absurd rfl h

/-- A session gets a pending request only from a successful batch insert. -/
theorem Session.mem_pending_request {s : Session} {answer : Answer} {r : RequestRecord}
    (h : Row.request r ∈ (s.step std c answer).1.pending) :
    Row.request r ∈ s.pending ∧ (s.step std c answer).2 = [] ∨
      (∃ task prevHash, s.loc = .inTx task (.insertRecords prevHash)) ∧ answer.raised = none ∧
        r = c.request := by
  obtain ⟨loc, pending⟩ := s
  cases loc with
  | returned evidence => exact .inl ⟨h, rfl⟩
  | raised exc => exact .inl ⟨h, rfl⟩
  | inTx task stage =>
      cases hr : answer.raised with
      | some e => cases stage <;> simp [Session.step, Loc.statement, hr] at h
      | none =>
          cases stage with
          | start => exact absurd h List.not_mem_nil
          | commit kind inserted => exact absurd h List.not_mem_nil
          | rollback exc => exact absurd h List.not_mem_nil
          | insertRecords prevHash =>
              simp only [Session.step, Loc.statement, Statement.rows, batchRows, hr,
                Option.isNone_none, if_true, List.mem_append, List.mem_cons, Row.request.injEq,
                reduceCtorEq, List.not_mem_nil, or_false] at h
              exact h.imp (fun h => ⟨h, rfl⟩) fun h => ⟨⟨task, prevHash, rfl⟩, rfl, h⟩
          | insertEvent kind record =>
              simp only [Session.step, Loc.statement, Statement.rows, hr, Option.isNone_none,
                if_true, List.mem_append, List.mem_singleton, reduceCtorEq, or_false] at h
              exact .inl ⟨h, rfl⟩
          | _ =>
              simp only [Session.step, Loc.statement, Statement.rows, hr, Option.isNone_none,
                if_true, List.append_nil] at h
              exact .inl ⟨h, rfl⟩

end Steps

end Vrl

import Vrl.App.Repository

/-!
# Vrl.App.EvidenceService

The persistence phase of `EvidenceService.calculate_and_persist`
(`app/services/evidence_service.py`).

Between two statements the service only computes, so it is a machine: `Loc` is where
it stands, `Loc.statement` what it sends to the database from there, and `step` what
it does with the answer. It makes up to five attempts, each in a transaction of its
own; after a failure it opens one more transaction to record it. Both kinds take
the lock of the chain and read its latest hash first, so they share their stages
(`Stage`).
-/

open TextCodec

namespace Vrl

variable (std : PyStd)

/-! ### What is to be persisted -/

/-- The result of the computation phase: the records, and the check that a training
record can be built from them once the audit event is known. -/
structure Computed where
  request : RequestRecord
  result : ResultRecord
  proof : ProofRecord
  buildVerifiedTrainingRecord : AuditEventRecord → Except PyError Unit

/-- `AUDIT_CHAIN_PARTITIONS`. -/
def auditChainPartitions : Nat := 64

/-- `chain_id_for_input`, for the hexadecimal digits of a digest. -/
def chainIdForInput (inputHash : String) : Int :=
  (((readHex 0 inputHash.toList).getD 0 % auditChainPartitions : Nat) : Int)

namespace Computed

variable (c : Computed)

/-- The chain that all events of a call go to. -/
def chainId : Int := chainIdForInput c.request.inputHash

/-- A string that is a UUID. -/
def uuidText (u : Uuid) : PyVal := .str (String.ofList u.text)

/-- The event of a request that was persisted. -/
def persistedEvent (prevHash : String) : Except PyError AuditEventRecord :=
  buildAuditEvent std "calculation_persisted" (some c.request.id)
    [("request_id", uuidText c.request.id),
      ("result_id", uuidText c.result.id),
      ("proof_id", uuidText c.proof.id),
      ("input_hash", .str c.request.inputHash),
      ("output_hash", .str c.result.outputHash),
      ("trace_hash", .str c.proof.traceHash),
      ("integrity_hash", .str c.proof.integrityHash)]
    prevHash c.request.createdAt c.chainId none

/-- The event of a request that was there before. -/
def duplicateEvent (prevHash : String) : Except PyError AuditEventRecord :=
  buildAuditEvent std "calculation_rejected_duplicate" (some c.request.id)
    [("input_hash", .str c.request.inputHash), ("reason", .str "duplicate_input_hash")]
    prevHash c.request.createdAt c.chainId none

/-- The event of a request that could not be persisted. -/
def failureEvent (reason : String) (createdAt : DateTime) (prevHash : String) :
    Except PyError AuditEventRecord :=
  buildAuditEvent std "calculation_persist_failed" (some c.request.id)
    [("input_hash", .str c.request.inputHash), ("reason", .str reason)]
    prevHash createdAt c.chainId none

/-- `DuplicateInputHashError` for the request. -/
def duplicateError : Exc :=
  .duplicateInputHash ("Duplicate input hash detected: " ++ c.request.inputHash)

end Computed

/-! ### Where the service stands -/

/-- A failure that is to be recorded, and the exception to raise afterwards. -/
structure Failure where
  createdAt : DateTime
  reason : String
  exc : Exc

/-- What a transaction is for. -/
inductive Task where
  | attempt (n : Nat)
  | logFailure (f : Failure)

/-- The events of the audit log. -/
inductive EventKind where
  | persisted
  | rejectedDuplicate
  | persistFailed
  deriving DecidableEq, Repr

/-- `event_type`. -/
def EventKind.eventType : EventKind → String
  | .persisted => "calculation_persisted"
  | .rejectedDuplicate => "calculation_rejected_duplicate"
  | .persistFailed => "calculation_persist_failed"

/-- How far a transaction has got. -/
inductive Stage where
  | start
  | acquireLock
  | fetchHead
  | checkDuplicate (prevHash : String)
  | insertRecords (prevHash : String)
  | insertEvent (kind : EventKind) (record : AuditEventRecord)
  | commit (kind : EventKind) (inserted : AuditEventRecord)
  | rollback (exc : Exc)

/-- Where a call stands: in a transaction, or at its end. -/
inductive Loc where
  | inTx (task : Task) (stage : Stage)
  | returned (evidence : PersistedEvidenceBundle)
  | raised (exc : Exc)

/-- The statement that is sent next. -/
def Loc.statement (c : Computed) : Loc → Option Statement
  | .inTx _ .start => some .start
  | .inTx _ .acquireLock => some (.acquireAuditChainLock (chainIdToLockKey c.chainId))
  | .inTx _ .fetchHead => some (.fetchLatestAuditHash c.chainId)
  | .inTx _ (.checkDuplicate _) => some (.checkDuplicate c.request.inputHash)
  | .inTx _ (.insertRecords _) => some (.insertRecordsBatch c.request c.result c.proof)
  | .inTx _ (.insertEvent _ record) => some (.insertAuditEvent record)
  | .inTx _ (.commit ..) => some .commit
  | .inTx _ (.rollback _) => some .rollback
  | .returned _ => none
  | .raised _ => none

/-! ### What the service does with an answer -/

/-- `MAX_TRANSACTION_RETRIES`. -/
def maxTransactionRetries : Nat := 5

/-- The `except` clauses around an attempt: duplicates are passed on, transient errors
lead to the next attempt while there is one, everything else is recorded as a failure.
An exception while a failure is being recorded replaces the first one. -/
def afterException (now : DateTime) (exc : Exc) : Task → Loc
  | .logFailure _ => .raised exc
  | .attempt n =>
      match exc with
      | .duplicateInputHash message => .raised (.duplicateInputHash message)
      | exc =>
          match exc.retryableName with
          | some name =>
              if n = maxTransactionRetries then
                .inTx (.logFailure ⟨now, "retry_exhausted:" ++ name ++ ":" ++ exc.message, exc⟩)
                  .start
              else .inTx (.attempt (n + 1)) .start
          | none => .inTx (.logFailure ⟨now, exc.message, exc⟩) .start

/-- The event is inserted next, if it could be built. -/
def thenInsert (task : Task) (kind : EventKind) : Except PyError AuditEventRecord → Loc
  | .ok record => .inTx task (.insertEvent kind record)
  | .error e => .inTx task (.rollback (.python e))

/-- After the latest hash was read: an attempt checks for a duplicate, a failure is
recorded right away. -/
def afterHead (c : Computed) (prevHash : String) : Task → Loc
  | .attempt n => .inTx (.attempt n) (.checkDuplicate prevHash)
  | .logFailure f =>
      thenInsert (.logFailure f) .persistFailed (c.failureEvent std f.reason f.createdAt prevHash)

/-- The checks between the insertion of a persisted event and the commit. -/
def checkPersisted (c : Computed) (inserted : AuditEventRecord) : Except Exc Unit :=
  match inserted.expectedHash std with
  | .error e => .error (.python e)
  | .ok expectedCurrentHash =>
      match constantTimeEqual inserted.currentHash expectedCurrentHash with
      | .error e => .error (.python e)
      | .ok false =>
          .error (.persistenceIntegrity
            "Audit event current_hash does not match recomputed audit hash")
      | .ok true =>
          match c.buildVerifiedTrainingRecord inserted with
          | .error e => .error (.python e)
          | .ok () => .ok ()

/-- After the event was inserted. -/
def afterInsert (c : Computed) (task : Task) (inserted : AuditEventRecord) : EventKind → Loc
  | .persisted =>
      match checkPersisted std c inserted with
      | .ok () => .inTx task (.commit .persisted inserted)
      | .error exc => .inTx task (.rollback exc)
  | kind => .inTx task (.commit kind inserted)

/-- After a commit. -/
def afterCommit (c : Computed) (inserted : AuditEventRecord) : Task → EventKind → Loc
  | .logFailure f, _ => .raised f.exc
  | .attempt _, .persisted => .returned ⟨c.request, c.result, c.proof, some inserted⟩
  | .attempt _, _ => .raised c.duplicateError

/-- Where the service stands after an answer to the statement it has sent. -/
def step (c : Computed) (answer : Answer) : Loc → Loc
  | .inTx task .start =>
      match answer.raised with
      | some e => afterException answer.now (.db e) task
      | none => .inTx task .acquireLock
  | .inTx task .acquireLock =>
      match answer.raised with
      | some e => .inTx task (.rollback (.db e))
      | none => .inTx task .fetchHead
  | .inTx task .fetchHead =>
      match answer.raised with
      | some e => .inTx task (.rollback (.db e))
      | none => afterHead std c (answer.head.getD zeroHash) task
  | .inTx task (.checkDuplicate prevHash) =>
      match answer.raised with
      | some e => .inTx task (.rollback (.db e))
      | none =>
          if answer.duplicate then
            thenInsert task .rejectedDuplicate (c.duplicateEvent std prevHash)
          else .inTx task (.insertRecords prevHash)
  | .inTx task (.insertRecords prevHash) =>
      match answer.raised with
      | some e =>
          -- `insert_records_batch` turns a unique violation into a duplicate
          .inTx task (.rollback (if e.kind = .uniqueViolation then c.duplicateError else .db e))
      | none => thenInsert task .persisted (c.persistedEvent std prevHash)
  | .inTx task (.insertEvent kind record) =>
      match answer.raised with
      | some e => .inTx task (.rollback (.db e))
      | none => afterInsert std c task { record with id := some answer.auditId } kind
  | .inTx task (.commit kind inserted) =>
      match answer.raised with
      | some e => afterException answer.now (.db e) task
      | none => afterCommit c inserted task kind
  | .inTx task (.rollback exc) =>
      match answer.raised with
      | some e => afterException answer.now (.db e) task
      | none => afterException answer.now exc task
  | .returned evidence => .returned evidence
  | .raised exc => .raised exc

/-! ### Sessions -/

/-- A call together with the rows that its open transaction has written. -/
structure Session where
  loc : Loc
  pending : List Row := []

/-- A call that has not sent anything yet. -/
def Session.init : Session where
  loc := .inTx (.attempt 1) .start

/-- What one answer makes of a session, and the rows that it commits. An error aborts
the transaction, so that nothing of it is pending any more. -/
def Session.step (c : Computed) (answer : Answer) (s : Session) : Session × List Row :=
  match s.loc.statement c with
  | none => (s, [])
  | some .commit =>
      ({ loc := Vrl.step std c answer s.loc }, if answer.commits then s.pending else [])
  | some .start | some .rollback => ({ loc := Vrl.step std c answer s.loc }, [])
  | some statement =>
      ({ loc := Vrl.step std c answer s.loc
         pending := if answer.raised.isNone then s.pending ++ statement.rows answer else [] }, [])

end Vrl

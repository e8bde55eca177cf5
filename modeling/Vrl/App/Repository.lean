import Vrl.Core.AuditChain

/-!
# Vrl.App.Repository

The evidence database as its clients see it (`app/db/repository.py`): the rows of
its tables, the statements of a transaction, and what can come back from one.
-/

open TextCodec

namespace Vrl

/-! ### Rows -/

/-- `RequestRecord`. -/
structure RequestRecord where
  id : Uuid
  inputHash : String
  rawInput : List (String × PyVal)
  createdAt : DateTime

/-- `ResultRecord`. -/
structure ResultRecord where
  id : Uuid
  requestId : Uuid
  outputHash : String
  rawOutput : List (String × PyVal)
  createdAt : DateTime

/-- `ProofRecord`. -/
structure ProofRecord where
  id : Uuid
  requestId : Uuid
  traceHash : String
  finalProof : String
  integrityHash : String
  proofSystem : String
  circuitHash : String
  verificationKeyHash : String
  proofBundle : List (String × PyVal)
  proofVerified : Bool
  createdAt : DateTime

/-- `PersistedEvidenceBundle`: what is shown of the database. -/
structure PersistedEvidenceBundle where
  request : RequestRecord
  result : ResultRecord
  proof : ProofRecord
  auditLog : Option AuditEventRecord := none

/-- A row of one of the four tables. -/
inductive Row where
  | request (r : RequestRecord)
  | result (r : ResultRecord)
  | proof (r : ProofRecord)
  | audit (r : AuditEventRecord)

/-- The rows of `BATCH_INSERT_RECORDS_SQL`. The request identifier of result and proof
is the one the first insert returns. -/
def batchRows (request : RequestRecord) (result : ResultRecord) (proof : ProofRecord) : List Row :=
  [.request request, .result { result with requestId := request.id },
    .proof { proof with requestId := request.id }]

/-! ### Errors -/

/-- The database errors that the service tells apart. -/
inductive DbErrorKind where
  | serialization
  | deadlockDetected
  | uniqueViolation
  | other
  deriving DecidableEq, Repr

/-- An error raised by a statement, with its text. -/
structure DbError where
  kind : DbErrorKind
  message : String
  deriving DecidableEq, Repr

/-- The exceptions that pass through the service. -/
inductive Exc where
  | db (e : DbError)
  | duplicateInputHash (message : String)
  | persistenceIntegrity (message : String)
  | python (e : PyError)
  deriving DecidableEq, Repr

/-- `str(exc)`. -/
def Exc.message : Exc → String
  | .db e => e.message
  | .duplicateInputHash message => message
  | .persistenceIntegrity message => message
  | .python e => e.message

/-- `type(exc).__name__` of the exceptions in `RETRYABLE_DB_ERRORS`, and nothing for the
others. -/
def Exc.retryableName : Exc → Option String
  | .db ⟨.serialization, _⟩ => some "SerializationError"
  | .db ⟨.deadlockDetected, _⟩ => some "DeadlockDetectedError"
  | _ => none

/-! ### Statements -/

/-- `AUDIT_CHAIN_LOCK_BASE`. -/
def auditChainLockBase : Int := 4283911000

/-- `chain_id_to_lock_key`. -/
def chainIdToLockKey (chainId : Int) : Int := auditChainLockBase + chainId

/-- What a client sends to the database. -/
inductive Statement where
  | start
  | acquireAuditChainLock (key : Int)
  | fetchLatestAuditHash (chainId : Int)
  | checkDuplicate (inputHash : String)
  | insertRecordsBatch (request : RequestRecord) (result : ResultRecord) (proof : ProofRecord)
  | insertAuditEvent (record : AuditEventRecord)
  | commit
  | rollback

/-- What comes back from a statement: an error, or else what this kind of statement
returns. `landed` says that a commit took effect although it raised, and `now` is the
time at which the client reads its clock next. -/
structure Answer where
  raised : Option DbError := none
  head : Option String := none
  duplicate : Bool := false
  auditId : Int := 0
  landed : Bool := false
  now : DateTime := DateTime.min

/-- The rows that a statement writes when it succeeds. -/
def Statement.rows (answer : Answer) : Statement → List Row
  | .insertRecordsBatch request result proof => batchRows request result proof
  | .insertAuditEvent record => [.audit { record with id := some answer.auditId }]
  | _ => []

/-- A commit that takes effect. -/
def Answer.commits (answer : Answer) : Bool := answer.raised.isNone || answer.landed

end Vrl

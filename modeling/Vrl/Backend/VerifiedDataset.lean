import Vrl.App.Repository
import Vrl.Backend.HonestBundle
import Vrl.Models.Responses

/-!
# Vrl.Backend.VerifiedDataset

Training records from persisted evidence, and the export of a dataset of them
(`backend/verified_dataset.py`, `models/verified_dataset.py`).

A record copies the stored response. What is recomputed from the stored request is compared
with the hash columns of the rows only, and the stored bundle is verified for its own input.
-/

open Pydantic

namespace Vrl

open Zk

variable (std : PyStd) (backend : Backend)

/-! ### Records -/

/-- `VERIFIED_DATASET_VERSION`. -/
def verifiedDatasetVersion : String := "verified-training-record-v1"

/-- `PersistedCalculationResponse`. -/
structure PersistedCalculationResponse extends CalculationResponse where
  evidence : PersistedEvidenceBundle

/-- `VerifiedTrainingRecord`. -/
structure VerifiedTrainingRecord where
  datasetVersion : String
  recordId : String
  requestId : Uuid
  proofId : Uuid
  createdAt : DateTime
  verificationStatus : String
  inputHash : String
  outputHash : String
  traceHash : String
  witnessHash : String
  integrityHash : String
  finalProof : String
  circuitHash : String
  verificationKeyHash : String
  proofSystem : String
  inputPayload : List (String × PyVal)
  resultPayload : CalculationResult
  trace : List TraceStep
  proofBundle : List (String × PyVal)

/-- The payload that the identifier of a record is the hash of. -/
def recordPayload (persisted : PersistedCalculationResponse) (zkProof : Proof std)
    (witnessHash verificationKeyHash : String) : PyVal :=
  .dict [("dataset_version", .str verifiedDatasetVersion),
    ("request_id", .str (String.ofList persisted.evidence.request.id.text)),
    ("proof_id", .str (String.ofList persisted.evidence.proof.id.text)),
    ("input_hash", .str persisted.integrity.inputHash),
    ("output_hash", .str persisted.integrity.outputHash),
    ("trace_hash", .str persisted.integrity.traceHash), ("witness_hash", .str witnessHash),
    ("integrity_hash", .str persisted.integrity.integrityHash),
    ("final_proof", .str zkProof.finalProof), ("circuit_hash", .str (zkProof.circuitHash std)),
    ("verification_key_hash", .str verificationKeyHash),
    ("proof_system", .str zkProof.proofSystem)]

/-- `build_verified_training_record`. -/
def buildVerifiedTrainingRecord (persisted : PersistedCalculationResponse) (zkProof : Proof std)
    (witnessHash verificationKeyHash : String) (proofBundle : List (String × PyVal)) :
    Except PyError VerifiedTrainingRecord :=
  match (proofBundle.lookup "proof").getD .none with
  | .none => .error ⟨.valueError, "proof_bundle must include a proof payload"⟩
  | _ => do
      let recordId ← canonicalHash std
        (recordPayload std persisted zkProof witnessHash verificationKeyHash)
      return {
        datasetVersion := verifiedDatasetVersion
        recordId
        requestId := persisted.evidence.request.id
        proofId := persisted.evidence.proof.id
        createdAt := persisted.evidence.proof.createdAt
        verificationStatus := "VERIFIED"
        inputHash := persisted.integrity.inputHash
        outputHash := persisted.integrity.outputHash
        traceHash := persisted.integrity.traceHash
        witnessHash
        integrityHash := persisted.integrity.integrityHash
        finalProof := zkProof.finalProof
        circuitHash := zkProof.circuitHash std
        verificationKeyHash
        proofSystem := zkProof.proofSystem
        inputPayload := persisted.evidence.request.rawInput
        resultPayload := persisted.result
        trace := persisted.trace
        proofBundle }

/-- The hashes that are recomputed or read from the proof, the columns they are compared with,
and what is raised where they differ, in the order of the comparisons. -/
def columnChecks (evidence : PersistedEvidenceBundle) (packet : DeterministicTracePacket std)
    (zkProof : Proof std) : List (String × String × String) :=
  [(packet.response.integrity.inputHash, evidence.request.inputHash,
      "Persisted request hash does not match recomputed deterministic input hash"),
    (packet.response.integrity.outputHash, evidence.result.outputHash,
      "Persisted result hash does not match recomputed deterministic output hash"),
    (packet.response.integrity.traceHash, evidence.proof.traceHash,
      "Persisted trace hash does not match recomputed deterministic trace hash"),
    (zkProof.finalProof, evidence.proof.finalProof,
      "Persisted final proof does not match bundled proof payload"),
    (zkProof.circuitHash std, evidence.proof.circuitHash,
      "Persisted circuit hash does not match bundled proof payload")]

/-- Comparisons with `constant_time_equal`, each of which raises a `ValueError` of its own. -/
def compareColumns : List (String × String × String) → Except PyError Unit
  | [] => .ok ()
  | (expected, stored, message) :: checks => do
      if ← constantTimeEqual expected stored then compareColumns checks
      else .error ⟨.valueError, message⟩

/-- The first checks of `build_verified_training_record_from_evidence`. -/
def checkExportable (evidence : PersistedEvidenceBundle) : Except PyError Unit :=
  let bundleVerification := verifyProofBundle std backend evidence.proof.proofBundle
  if evidence.proof.proofVerified = false then
    .error ⟨.valueError,
      "Only proof-verified evidence may be exported into the training dataset"⟩
  else if evidence.proof.proofSystem ≠ "plonk" then .error ⟨.valueError, "legacy record"⟩
  else if bundleVerification.valid = false then
    .error ⟨.valueError, "Persisted proof bundle is not externally valid: " ++
      bundleVerification.reason⟩
  else .ok ()

/-- `build_verified_training_record_from_evidence`. -/
def buildVerifiedTrainingRecordFromEvidence (evidence : PersistedEvidenceBundle) :
    Except PyError VerifiedTrainingRecord := do
  checkExportable std backend evidence
  let proofBundle := evidence.proof.proofBundle
  let response ← CalculationResponse.modelValidate std (.dict evidence.result.rawOutput)
  let persisted : PersistedCalculationResponse := { response with evidence }
  let tracePacket ← buildTracePacket std (.dict evidence.request.rawInput)
    "verified_dataset_export" 1
  let zkProof ← Proof.modelValidate std (← getItem proofBundle "proof")
  compareColumns (columnChecks std evidence tracePacket zkProof)
  buildVerifiedTrainingRecord std persisted zkProof tracePacket.witnessArtifact.witnessHash
    evidence.proof.verificationKeyHash proofBundle

/-! ### Datasets -/

end Vrl

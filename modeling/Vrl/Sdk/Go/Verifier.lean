import Vrl.Lib.CheckPipeline
import Vrl.Sdk.Go.Bundle

/-!
# Vrl.Sdk.Go.Verifier

The verifier of the Go SDK (`sdk/go/vrl/verifier.go`).

Unlike the Python one it has no registry and no partial verdict: steps 7, 9 and 10
only take note of what they skip.
-/

open TextCodec CheckPipeline

namespace Vrl.Sdk.Go

variable (sha : Sha256)

/-! ### Results -/

/-- `VerificationStatus`. -/
inductive VerificationStatus where
  | valid
  | validPartial
  | schemaInvalid
  | bundleIdMismatch
  | integrityMismatch
  | circuitHashMismatch
  | proofInvalid
  | teeAttestationInvalid
  | recomputationMismatch
  | hashBindingInvalid
  | aiIdInvalid
  | dataCommitmentInvalid
  | timestampInvalid
  | graphEdgeInvalid
  | unsupportedVersion
  deriving DecidableEq, Repr

/-- The outcome of a step. -/
inductive StepStatus where
  | pass
  | fail
  | skipped
  deriving DecidableEq, Repr

/-- `VerificationStep`. -/
structure VerificationStep where
  stepName : String
  status : StepStatus
  error : String := ""
  deriving DecidableEq, Repr

/-- `VerificationResult`. There is no status before the verdict. -/
structure VerificationResult where
  status : Option VerificationStatus := none
  errorCodes : List VerificationStatus := []
  steps : List VerificationStep := []
  valid : Bool := false
  deriving DecidableEq, Repr

namespace VerificationResult

/-- A step is recorded. -/
def record (result : VerificationResult) (stepName : String) (status : StepStatus)
    (error : String := "") : VerificationResult :=
  { result with steps := result.steps ++ [{ stepName, status, error }] }

/-- The verification ends with a code. -/
def stop (result : VerificationResult) (code : VerificationStatus) : VerificationResult × Bool :=
  ({ result with
      status := some code, errorCodes := result.errorCodes ++ [code], valid := false }, false)

/-- A step fails: it is recorded, and its code ends the verification. -/
def reject (result : VerificationResult) (stepName error : String) (code : VerificationStatus) :
    VerificationResult × Bool :=
  (result.record stepName .fail error).stop code

/-- A step is recorded without a failure. -/
def accept (result : VerificationResult) (stepName : String) (status : StepStatus := .pass)
    (error : String := "") : VerificationResult × Bool :=
  (result.record stepName status error, true)

end VerificationResult

/-! ### Formats -/

/-- `isValidHex`. -/
def isValidHex (s : String) : Bool := s ≠ "" && s.toList.all isHexAnyCase

/-- `isValidSHA256`. -/
def isValidSHA256 (s : String) : Bool := s.utf8ByteSize = 64 && isValidHex s

/-- `validateSchema`: the first complaint, if there is one. -/
def validateSchema (bundle : ProofBundle) : Option String :=
  if bundle.vrlVersion = "" then some "missing vrl_version"
  else if bundle.bundleId = "" then some "missing bundle_id"
  else if bundle.issuedAt = "" then some "missing issued_at"
  else if bundle.aiIdentity.aiId = "" then some "missing ai_identity.ai_id"
  else if bundle.aiIdentity.modelName = "" then some "missing ai_identity.model_name"
  else if bundle.aiIdentity.executionEnvironment = "" then
    some "missing ai_identity.execution_environment"
  else if bundle.computation.circuitId = "" then some "missing computation.circuit_id"
  else if bundle.computation.integrityHash = "" then some "missing computation.integrity_hash"
  else if bundle.proof.proofSystem = "" then some "missing proof.proof_system"
  else if bundle.proof.publicInputs.length = 0 then some "proof.public_inputs cannot be empty"
  else none

/-- `verifyProof`: the first complaint, if there is one. -/
def verifyProof (bundle : ProofBundle) : Option String :=
  if bundle.proof.proofBytes = "" then some "missing proof_bytes"
  else if !isValidHex bundle.proof.proofBytes then some "proof_bytes is not valid hex"
  else if bundle.proof.verificationKeyId = "" then some "missing verification_key_id"
  else if bundle.proof.proofHash = "" then some "missing proof_hash"
  else if !isValidSHA256 bundle.proof.proofHash then some "proof_hash is not valid SHA-256"
  else none

/-! ### The steps -/

/-- Step 1: version check. -/
def step1 (bundle : ProofBundle) (result : VerificationResult) : VerificationResult × Bool :=
  if bundle.vrlVersion ≠ "1.0" then
    result.reject "Version Check" ("unsupported version: " ++ bundle.vrlVersion)
      .unsupportedVersion
  else result.accept "Version Check"

/-- Step 2: schema validation. -/
def step2 (bundle : ProofBundle) (result : VerificationResult) : VerificationResult × Bool :=
  match validateSchema bundle with
  | some err => result.reject "Schema Validation" err .schemaInvalid
  | none => result.accept "Schema Validation"

/-- Step 3: bundle ID recomputation. -/
def step3 (bundle : ProofBundle) (result : VerificationResult) : VerificationResult × Bool :=
  if uuidv5 sha vrlNamespace bundle.computation.integrityHash ≠ some bundle.bundleId then
    result.reject "Bundle ID Recomputation" "bundle_id does not match recomputed value"
      .bundleIdMismatch
  else result.accept "Bundle ID Recomputation"

/-- Step 4: integrity hash recomputation. -/
def step4 (bundle : ProofBundle) (result : VerificationResult) : VerificationResult × Bool :=
  let recomputedIntegrity := computeIntegrityHash sha bundle.computation.inputHash
    bundle.computation.outputHash bundle.computation.traceHash
  if recomputedIntegrity ≠ bundle.computation.integrityHash then
    result.reject "Integrity Hash Recomputation" "integrity_hash does not match recomputed value"
      .integrityMismatch
  else result.accept "Integrity Hash Recomputation"

/-- Step 5: the circuit hash has the right format. -/
def step5 (bundle : ProofBundle) (result : VerificationResult) : VerificationResult × Bool :=
  if !isValidSHA256 bundle.computation.circuitHash then
    result.reject "Circuit Resolution" "invalid circuit_hash format" .circuitHashMismatch
  else result.accept "Circuit Resolution" .pass "skipped (registry not available)"

/-- Step 6: basic checks of the proof. -/
def step6 (bundle : ProofBundle) (result : VerificationResult) : VerificationResult × Bool :=
  match verifyProof bundle with
  | some err => result.reject "Proof Verification" err .proofInvalid
  | none => result.accept "Proof Verification"

/-- Step 7: AI-ID verification, which is skipped. -/
def step7 (bundle : ProofBundle) (result : VerificationResult) : VerificationResult × Bool :=
  if bundle.aiIdentity.providerSignature ≠ "" then
    result.accept "AI-ID Verification" .skipped
      "provider key not available for signature verification"
  else result.accept "AI-ID Verification" .pass "no signature to verify"

/-- The hash that a data commitment is to have: of the commitment with its hash
empty. -/
def recomputedCommitment (dc : DataCommitment) : String :=
  sha256Hex sha (canonicalJson { dc with commitmentHash := "" }.toJson)

/-- The loop of step 8 over the commitments, from number `i` on. -/
def checkCommitments (result : VerificationResult) :
    Nat → List DataCommitment → VerificationResult × Bool
  | _, [] => result.accept "Data Commitments"
  | i, dc :: dcs =>
      if recomputedCommitment sha dc ≠ dc.commitmentHash then
        result.reject (String.ofList ("Data Commitment ".toList ++ natText i))
          "commitment_hash does not match" .dataCommitmentInvalid
      else checkCommitments result (i + 1) dcs

/-- Step 8: data commitment verification, if there are any. -/
def step8 (bundle : ProofBundle) (result : VerificationResult) : VerificationResult × Bool :=
  match bundle.dataCommitments with
  | [] => (result, true)
  | dcs => checkCommitments sha result 0 dcs

/-- Step 9: timestamp verification, which is skipped. -/
def step9 (bundle : ProofBundle) (result : VerificationResult) : VerificationResult :=
  if (bundle.legal.bind (·.timestampAuthority)).isSome then
    result.record "Timestamp Verification" .skipped "TSA verification requires external service"
  else result

/-- Step 10: proof graph edges, which are skipped. -/
def step10 (bundle : ProofBundle) (result : VerificationResult) : VerificationResult :=
  if 0 < (bundle.proofGraph.map (·.dependsOn.length)).getD 0 then
    result.record "Proof Graph Edges" .skipped "recursive verification not implemented"
  else result

/-- What follows the checks: the last two steps, and the verdict. -/
def conclude (bundle : ProofBundle) (result : VerificationResult) : VerificationResult :=
  { step10 bundle (step9 bundle result) with status := some .valid, valid := true }

/-- `Verify`. -/
def verify (bundle : ProofBundle) : VerificationResult :=
  let result : VerificationResult := {}
  orReturn (step1 bundle result) fun result =>
  orReturn (step2 bundle result) fun result =>
  orReturn (step3 sha bundle result) fun result =>
  orReturn (step4 sha bundle result) fun result =>
  orReturn (step5 bundle result) fun result =>
  orReturn (step6 bundle result) fun result =>
  orReturn (step7 bundle result) fun result =>
  orReturn (step8 sha bundle result) fun result =>
  conclude bundle result

end Vrl.Sdk.Go

import Vrl.Lib.CheckPipeline
import Vrl.Lib.PyInt
import Vrl.Sdk.Python.Bundle

/-!
# Vrl.Sdk.Python.Verifier

The ten-step verifier of the Python SDK (`sdk/python/vrl/verifier.py`).

A verification carries a `VerificationResult` from step to step. Steps 1 to 8 are
required: one that fails sets the status to its code and ends the verification.
Steps 9 and 10 are optional: one that fails is recorded, and makes the result
partial.
-/

open TextCodec CheckPipeline

namespace Vrl.Sdk.Python

variable (std : PyStd)

/-! ### Results -/

/-- `VerificationStatus`. -/
inductive VerificationStatus where
  | valid
  | validPartial
  | schemaInvalid
  | bundleIdMismatch
  | integrityMismatch
  | circuitHashMismatch
  | proofInvalid
  | teeAttestationInvalid
  | recomputationMismatch
  | hashBindingInvalid
  | aiIdInvalid
  | dataCommitmentInvalid
  | timestampInvalid
  | graphEdgeInvalid
  | unsupportedVersion
  deriving DecidableEq, Repr

/-- Whether a step passed. -/
inductive StepStatus where
  | pass
  | fail
  deriving DecidableEq, Repr

/-- `VerificationDetail`. -/
structure VerificationDetail where
  step : String
  status : StepStatus
  message : String
  errorCode : Option VerificationStatus := none
  deriving DecidableEq, Repr

/-- `VerificationResult`. -/
structure VerificationResult where
  status : VerificationStatus
  bundleId : String
  details : List VerificationDetail := []
  errors : List VerificationStatus := []
  deriving DecidableEq, Repr

namespace VerificationResult

/-- The result with a step recorded as passed. -/
def recordPass (result : VerificationResult) (step message : String) : VerificationResult :=
  { result with details := result.details ++ [{ step, status := .pass, message }] }

/-- The result with a step recorded as failed, its status left as it is. -/
def recordFail (result : VerificationResult) (step message : String) (code : VerificationStatus) :
    VerificationResult :=
  { result with
    details := result.details ++ [{ step, status := .fail, message, errorCode := some code }]
    errors := result.errors ++ [code] }

/-- A required step fails: its code becomes the status. -/
def reject (result : VerificationResult) (step message : String) (code : VerificationStatus) :
    VerificationResult × Bool :=
  ({ result.recordFail step message code with status := code }, false)

/-- A step passes. -/
def accept (result : VerificationResult) (step message : String) : VerificationResult × Bool :=
  (result.recordPass step message, true)

/-- `is_valid`. -/
def isValid (result : VerificationResult) : Bool :=
  result.status = .valid || result.status = .validPartial

end VerificationResult

/-! ### The circuit registry -/

/-- `resolve_circuit`: the hash registered for a circuit and a version, if any. -/
abbrev CircuitRegistry := String → String → Option String

/-- The mock registry: every circuit resolves, to the hash of its name. -/
def mockRegistry : CircuitRegistry := fun circuitId circuitVersion =>
  some (sha256 std (canonicalJson (.obj [
    ("circuit_id", .str circuitId),
    ("circuit_version", .str circuitVersion),
    ("spec_version", .str "vrl/circuit/1.0")])))

/-! ### The steps -/

/-- `_is_valid_hex_hash`: 64 characters that `int(value, 16)` reads and that are in
lower case. On a text that was read, `lower` only changes ASCII letters. -/
def isValidHexHash (value : String) : Bool :=
  let cs := value.toList
  cs.length = 64 && PyInt.parsesBase16 cs && cs.all fun c => !('A' ≤ c && c ≤ 'Z')

/-- Step 1: check `vrl_version == "1.0"`. -/
def step1VersionCheck (bundle : ProofBundle) (result : VerificationResult) :
    VerificationResult × Bool :=
  if bundle.vrlVersion ≠ "1.0" then
    result.reject "Version Check" ("Unsupported vrl_version: " ++ bundle.vrlVersion)
      .unsupportedVersion
  else result.accept "Version Check" ("vrl_version " ++ bundle.vrlVersion ++ " is supported")

/-- The hash fields of the schema check, in its order. -/
def hashFields (bundle : ProofBundle) : List (String × String) :=
  [("circuit_hash", bundle.computation.circuitHash),
    ("input_hash", bundle.computation.inputHash),
    ("output_hash", bundle.computation.outputHash),
    ("trace_hash", bundle.computation.traceHash),
    ("integrity_hash", bundle.computation.integrityHash),
    ("proof_hash", bundle.proof.proofHash)]

/-- Step 2: validate the format of the hash fields. The required fields are never
missing from a bundle whose fields have their declared types. -/
def step2SchemaValidation (bundle : ProofBundle) (result : VerificationResult) :
    VerificationResult × Bool :=
  let aiId := bundle.aiIdentity.aiId
  if !isValidHexHash aiId then
    result.reject "Schema Validation" ("Invalid ai_id format: " ++ aiId) .schemaInvalid
  else
    match (hashFields bundle).find? fun field => !isValidHexHash field.2 with
    | some (fieldName, hashValue) =>
        result.reject "Schema Validation" ("Invalid " ++ fieldName ++ " format: " ++ hashValue)
          .schemaInvalid
    | none => result.accept "Schema Validation" "All required fields present and valid"

/-- Step 3: recompute and verify `bundle_id`. -/
def step3BundleIdCheck (bundle : ProofBundle) (result : VerificationResult) :
    VerificationResult × Bool :=
  let recomputedBundleId := computeBundleIdFromIntegrity std bundle.computation.integrityHash
  if recomputedBundleId ≠ bundle.bundleId then
    result.reject "bundle_id Recomputation"
      ("bundle_id mismatch: expected " ++ recomputedBundleId ++ ", got " ++ bundle.bundleId)
      .bundleIdMismatch
  else
    result.accept "bundle_id Recomputation" ("bundle_id " ++ bundle.bundleId ++ " is valid")

/-- Step 4: recompute `integrity_hash`. -/
def step4IntegrityHashCheck (bundle : ProofBundle) (result : VerificationResult) :
    VerificationResult × Bool :=
  let recomputedIntegrity := computeIntegrityHash std bundle.computation.inputHash
    bundle.computation.outputHash bundle.computation.traceHash
  if recomputedIntegrity ≠ bundle.computation.integrityHash then
    result.reject "Integrity Hash Recomputation"
      ("integrity_hash mismatch: expected " ++ recomputedIntegrity ++ ", got " ++
        bundle.computation.integrityHash)
      .integrityMismatch
  else
    result.accept "Integrity Hash Recomputation"
      ("integrity_hash " ++ bundle.computation.integrityHash ++ " is valid")

/-- Step 5: resolve the circuit and verify `circuit_hash`. -/
def step5CircuitResolution (registry : CircuitRegistry) (bundle : ProofBundle)
    (result : VerificationResult) : VerificationResult × Bool :=
  match registry bundle.computation.circuitId bundle.computation.circuitVersion with
  | none =>
      result.reject "Circuit Resolution"
        ("Circuit not found: " ++ bundle.computation.circuitId ++ "@" ++
          bundle.computation.circuitVersion)
        .circuitHashMismatch
  | some circuitHash =>
      if circuitHash ≠ bundle.computation.circuitHash then
        result.reject "Circuit Resolution"
          ("circuit_hash mismatch: expected " ++ circuitHash ++ ", got " ++
            bundle.computation.circuitHash)
          .circuitHashMismatch
      else
        result.accept "Circuit Resolution"
          ("Circuit " ++ bundle.computation.circuitId ++ " verified with matching hash")

/-- The proof systems a bundle may name. -/
def validSystems : List String :=
  ["plonk-halo2-pasta", "plonk-halo2-bn254", "groth16-bn254", "stark", "zk-ml", "tee-intel-tdx",
    "tee-amd-sev-snp", "tee-aws-nitro", "sha256-deterministic", "api-hash-binding"]

/-- The proof hash that the bundle's own fields give. -/
def recomputedProofHash (bundle : ProofBundle) : String :=
  computeProofHash std bundle.computation.circuitHash bundle.proof.proofBytes
    bundle.proof.publicInputs bundle.proof.proofSystem bundle.computation.traceHash

/-- Step 6: validate the proof structure and recompute `proof_hash`. -/
def step6ProofStructureValidation (bundle : ProofBundle) (result : VerificationResult) :
    VerificationResult × Bool :=
  let proof := bundle.proof
  if !validSystems.contains proof.proofSystem then
    result.reject "Proof Structure Validation" ("Invalid proof_system: " ++ proof.proofSystem)
      .proofInvalid
  else if recomputedProofHash std bundle ≠ proof.proofHash then
    result.reject "Proof Structure Validation"
      ("proof_hash mismatch: expected " ++ recomputedProofHash std bundle ++ ", got " ++
        proof.proofHash)
      .proofInvalid
  else
    result.accept "Proof Structure Validation"
      ("Proof structure valid for " ++ proof.proofSystem)

/-- A string that is present and not empty. -/
def isTruthy : Option String → Bool
  | some s => s ≠ ""
  | none => false

/-- Step 7: AI-ID verification, if a provider signature is present. -/
def step7AiIdVerification (bundle : ProofBundle) (result : VerificationResult) :
    VerificationResult × Bool :=
  if !isTruthy bundle.aiIdentity.providerSignature then
    result.accept "AI-ID Verification" "No provider_signature; AI-ID is advisory only"
  else
    let aiId := bundle.aiIdentity.aiId
    if !isValidHexHash aiId then
      result.reject "AI-ID Verification" ("Invalid ai_id format: " ++ aiId) .aiIdInvalid
    else
      result.accept "AI-ID Verification"
        ("AI-ID " ++ aiId ++ " is valid (provider_signature present but not verified)")

/-- The commitment hash recomputes. -/
def commitmentHolds (commitment : DataCommitment) : Bool :=
  computeCommitmentHash std commitment.datasetId commitment.datasetVersion commitment.datasetHash
    commitment.providerId commitment.committedAt = commitment.commitmentHash

/-- The loop of step 8 over the commitments, from number `i` on. -/
def checkCommitments (result : VerificationResult) :
    Nat → List DataCommitment → VerificationResult × Bool
  | i, [] =>
      result.accept "Data Commitment Verification"
        (String.ofList ("All ".toList ++ natText i ++ " data commitments verified".toList))
  | i, commitment :: commitments =>
      if commitmentHolds std commitment then checkCommitments result (i + 1) commitments
      else
        result.reject
          (String.ofList ("Data Commitment Verification [".toList ++ natText i ++ [']']))
          ("commitment_hash mismatch for " ++ commitment.datasetId) .dataCommitmentInvalid

/-- Step 8: data commitment verification. -/
def step8DataCommitmentVerification (bundle : ProofBundle) (result : VerificationResult) :
    VerificationResult × Bool :=
  match bundle.dataCommitments with
  | none | some [] => result.accept "Data Commitment Verification" "No data commitments"
  | some commitments => checkCommitments std result 0 commitments

/-- The block is complete: none of its three texts is empty. -/
def TimestampAuthority.isComplete (tsa : TimestampAuthority) : Bool :=
  tsa.tsaToken ≠ "" && tsa.tsaProvider ≠ "" && tsa.tsaHashAlgorithm ≠ ""

/-- Step 9: timestamp authority verification. A failure leaves the status alone. -/
def step9TimestampVerification (bundle : ProofBundle) (result : VerificationResult) :
    VerificationResult × Bool :=
  match bundle.legal.bind (·.timestampAuthority) with
  | none => (result, true)
  | some tsa =>
      if !tsa.isComplete then
        (result.recordFail "Timestamp Verification" "Incomplete timestamp_authority block"
          .timestampInvalid, false)
      else
        result.accept "Timestamp Verification"
          ("Timestamp token from " ++ tsa.tsaProvider ++ " (RFC 3161 verification skipped)")

/-- Step 10: proof graph edge verification. A failure leaves the status alone. -/
def step10ProofGraphVerification (bundle : ProofBundle) (result : VerificationResult) :
    VerificationResult × Bool :=
  match bundle.proofGraph.bind (·.dependsOn) with
  | none | some [] => (result, true)
  | some bundleIds =>
      match bundleIds.find? fun bundleId => !PyInt.parsesUuid bundleId with
      | some bundleId =>
          (result.recordFail "Proof Graph Verification"
            ("Invalid bundle_id in depends_on: " ++ bundleId) .graphEdgeInvalid, false)
      | none =>
          result.accept "Proof Graph Verification"
            "Proof graph edges valid (recursive verification skipped)"

/-! ### Verification -/

/-- Step 9 as `verify` enters it: only when there is a timestamp authority block, and
a failure makes the result partial. -/
def verifyTimestamp (bundle : ProofBundle) (result : VerificationResult) : VerificationResult :=
  match bundle.legal.bind (·.timestampAuthority) with
  | none => result
  | some _ =>
      let (result, ok) := step9TimestampVerification bundle result
      if !ok then { result with status := .validPartial } else result

/-- Step 10 as `verify` enters it: only when the graph depends on something, and a
failure makes the result partial. -/
def verifyGraph (bundle : ProofBundle) (result : VerificationResult) : VerificationResult :=
  match bundle.proofGraph.bind (·.dependsOn) with
  | none | some [] => result
  | some _ =>
      let (result, ok) := step10ProofGraphVerification bundle result
      if !ok then { result with status := .validPartial } else result

/-- Steps 9 and 10, which do not reject. -/
def verifyOptional (bundle : ProofBundle) (result : VerificationResult) : VerificationResult :=
  verifyGraph bundle (verifyTimestamp bundle result)

/-- `Verifier.verify`. -/
def verify (registry : CircuitRegistry) (bundle : ProofBundle) : VerificationResult :=
  let result : VerificationResult := { status := .valid, bundleId := bundle.bundleId }
  orReturn (step1VersionCheck bundle result) fun result =>
  orReturn (step2SchemaValidation bundle result) fun result =>
  orReturn (step3BundleIdCheck std bundle result) fun result =>
  orReturn (step4IntegrityHashCheck std bundle result) fun result =>
  orReturn (step5CircuitResolution registry bundle result) fun result =>
  orReturn (step6ProofStructureValidation std bundle result) fun result =>
  orReturn (step7AiIdVerification bundle result) fun result =>
  orReturn (step8DataCommitmentVerification std bundle result) fun result =>
  verifyOptional bundle result

end Vrl.Sdk.Python

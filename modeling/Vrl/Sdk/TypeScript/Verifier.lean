import Vrl.Lib.PyStd
import Vrl.Sdk.TypeScript.Bundle

/-!
# Vrl.Sdk.TypeScript.Verifier

The verifier of the TypeScript SDK (`sdk/typescript/src/verifier.ts`).

Steps 1 and 2 end the verification when they fail. Steps 3 to 8 are all made: one that
fails adds its code, and sets the status over that of the steps before it. Steps 9 and
10 are optional.
-/

open TextCodec

namespace Vrl.Sdk.TypeScript

variable (sha : Sha256) (unicode : UnicodeData)

/-! ### Results -/

/-- `VerificationStatus`. -/
inductive VerificationStatus where
  | valid
  | validPartial
  | schemaInvalid
  | bundleIdMismatch
  | integrityMismatch
  | circuitHashMismatch
  | proofInvalid
  | teeAttestationInvalid
  | recomputationMismatch
  | hashBindingInvalid
  | aiIdInvalid
  | dataCommitmentInvalid
  | timestampInvalid
  | graphEdgeInvalid
  | unsupportedVersion
  deriving DecidableEq, Repr

/-- `VerificationStep`. -/
structure VerificationStep where
  step : Nat
  name : String
  passed : Bool
  detail : String
  deriving DecidableEq, Repr

/-- `VerificationResult`. -/
structure VerificationResult where
  status : VerificationStatus
  errorCodes : List VerificationStatus := []
  steps : List VerificationStep := []
  deriving DecidableEq, Repr

/-! ### The steps -/

/-- `isValidHexHash`: 64 code units that `toLowerCase` does not change. Whether they are
digits is not looked at, since `parseInt` does not throw. -/
def isValidHexHash (value : String) : Bool :=
  (utf16 value).length = 64 && value = unicode.lower value

/-- Step 1: check `vrl_version == "1.0"`. -/
def step1VersionCheck (bundle : ProofBundle) : VerificationStep :=
  if bundle.vrlVersion ≠ "1.0" then
    ⟨1, "Version Check", false, "Unsupported vrl_version: " ++ bundle.vrlVersion⟩
  else ⟨1, "Version Check", true, "vrl_version " ++ bundle.vrlVersion ++ " is supported"⟩

/-- The hash fields of the schema check, in its order. -/
def hashFields (bundle : ProofBundle) : List (String × String) :=
  [("circuit_hash", bundle.computation.circuitHash),
    ("input_hash", bundle.computation.inputHash),
    ("output_hash", bundle.computation.outputHash),
    ("trace_hash", bundle.computation.traceHash),
    ("integrity_hash", bundle.computation.integrityHash),
    ("proof_hash", bundle.proof.proofHash)]

/-- Step 2: validate the schema. An empty text counts as missing. -/
def step2SchemaValidation (bundle : ProofBundle) : VerificationStep :=
  let aiId := bundle.aiIdentity.aiId
  if bundle.bundleId = "" ∨ bundle.issuedAt = "" then
    ⟨2, "Schema Validation", false, "Missing required fields"⟩
  else if !isValidHexHash unicode aiId then
    ⟨2, "Schema Validation", false, "Invalid ai_id format: " ++ aiId⟩
  else
    match (hashFields bundle).find? fun field => !isValidHexHash unicode field.2 with
    | some (fieldName, hashValue) =>
        ⟨2, "Schema Validation", false, "Invalid " ++ fieldName ++ " format: " ++ hashValue⟩
    | none => ⟨2, "Schema Validation", true, "All required fields present and valid"⟩

/-- Step 3, called the recomputation of `bundle_id`: its format is looked at. -/
def step3BundleIdCheck (bundle : ProofBundle) : VerificationStep :=
  if !uuidRegex bundle.bundleId then
    ⟨3, "bundle_id Recomputation", false, "Invalid bundle_id format: " ++ bundle.bundleId⟩
  else
    ⟨3, "bundle_id Recomputation", true, "bundle_id " ++ bundle.bundleId ++ " has valid format"⟩

/-- Step 4: recompute `integrity_hash`. -/
def step4IntegrityHashCheck (bundle : ProofBundle) : VerificationStep :=
  let recomputedIntegrity := computeIntegrityHash sha bundle.computation.inputHash
    bundle.computation.outputHash bundle.computation.traceHash
  if recomputedIntegrity ≠ bundle.computation.integrityHash then
    ⟨4, "Integrity Hash Recomputation", false, "integrity_hash mismatch: expected " ++
      recomputedIntegrity ++ ", got " ++ bundle.computation.integrityHash⟩
  else
    ⟨4, "Integrity Hash Recomputation", true,
      "integrity_hash " ++ bundle.computation.integrityHash ++ " is valid"⟩

/-- Step 5, called the resolution of the circuit: the format of its hash is looked at. -/
def step5CircuitResolution (bundle : ProofBundle) : VerificationStep :=
  if !isValidHexHash unicode bundle.computation.circuitHash then
    ⟨5, "Circuit Resolution", false,
      "Invalid circuit_hash format: " ++ bundle.computation.circuitHash⟩
  else
    ⟨5, "Circuit Resolution", true,
      "Circuit " ++ bundle.computation.circuitId ++ " hash validated"⟩

/-- The proof systems a bundle may name. -/
def validSystems : List String :=
  ["plonk-halo2-pasta", "plonk-halo2-bn254", "groth16-bn254", "stark", "zk-ml", "tee-intel-tdx",
    "tee-amd-sev-snp", "tee-aws-nitro", "sha256-deterministic", "api-hash-binding"]

/-- The proof hash that the bundle's own fields give. -/
def recomputedProofHash (bundle : ProofBundle) : String :=
  computeProofHash sha bundle.computation.circuitHash bundle.proof.proofBytes
    bundle.proof.publicInputs bundle.proof.proofSystem bundle.computation.traceHash

/-- Step 6: validate the proof structure and recompute `proof_hash`. -/
def step6ProofStructureValidation (bundle : ProofBundle) : VerificationStep :=
  let name := "Proof Structure Validation"
  let proof := bundle.proof
  if !validSystems.contains proof.proofSystem then
    ⟨6, name, false, "Invalid proof_system: " ++ proof.proofSystem⟩
  else if recomputedProofHash sha bundle ≠ proof.proofHash then
    ⟨6, name, false, "proof_hash mismatch: expected " ++ recomputedProofHash sha bundle ++
      ", got " ++ proof.proofHash⟩
  else ⟨6, name, true, "Proof structure valid for " ++ proof.proofSystem⟩

/-- Step 7: the format of the AI-ID, again. -/
def step7AIIdVerification (bundle : ProofBundle) : VerificationStep :=
  let aiId := bundle.aiIdentity.aiId
  if !isValidHexHash unicode aiId then
    ⟨7, "AI-ID Verification", false, "Invalid ai_id format: " ++ aiId⟩
  else
    ⟨7, "AI-ID Verification", true, "AI-ID " ++ aiId ++ " is valid " ++
      if bundle.aiIdentity.providerSignature.getD "" = "" then "(no provider_signature)"
      else "(provider_signature present)"⟩

/-- The commitment hash recomputes. -/
def commitmentHolds (commitment : DataCommitment) : Bool :=
  computeCommitmentHash sha commitment.datasetId commitment.datasetVersion commitment.datasetHash
    commitment.providerId commitment.committedAt = commitment.commitmentHash

/-- The loop of step 8 over the commitments, from number `i` on. -/
def checkCommitments : Nat → List DataCommitment → VerificationStep
  | i, [] =>
      ⟨8, "Data Commitment Verification", true,
        String.ofList ("All ".toList ++ natText i ++ " data commitments verified".toList)⟩
  | i, commitment :: commitments =>
      if commitmentHolds sha commitment then checkCommitments (i + 1) commitments
      else
        ⟨8, String.ofList ("Data Commitment Verification [".toList ++ natText i ++ [']']), false,
          "commitment_hash mismatch for " ++ commitment.datasetId⟩

/-- Step 8: data commitment verification. -/
def step8DataCommitmentVerification (bundle : ProofBundle) : VerificationStep :=
  match bundle.dataCommitments with
  | none | some [] => ⟨8, "Data Commitment Verification", true, "No data commitments"⟩
  | some commitments => checkCommitments sha 0 commitments

/-- Step 9: the timestamp authority block is complete. -/
def step9TimestampVerification (tsa : TimestampAuthority) : VerificationStep :=
  if tsa.tsaToken = "" ∨ tsa.tsaProvider = "" ∨ tsa.tsaHashAlgorithm = "" then
    ⟨9, "Timestamp Verification", false, "Incomplete timestamp_authority block"⟩
  else ⟨9, "Timestamp Verification", true, "Timestamp token from " ++ tsa.tsaProvider⟩

/-- Step 10: the identifiers in `depends_on` are UUIDs. -/
def step10ProofGraphVerification (bundleIds : List String) : VerificationStep :=
  match bundleIds.find? fun bundleId => !uuidRegex bundleId with
  | some bundleId =>
      ⟨10, "Proof Graph Verification", false, "Invalid bundle_id in depends_on: " ++ bundleId⟩
  | none => ⟨10, "Proof Graph Verification", true, "Proof graph edges valid"⟩

/-! ### Verification -/

namespace VerificationResult

/-- A step from 3 to 8: its failure sets the status, whatever that was. -/
def afterStep (result : VerificationResult) (step : VerificationStep) (code : VerificationStatus) :
    VerificationResult :=
  let result := { result with steps := result.steps ++ [step] }
  if !step.passed then { result with errorCodes := result.errorCodes ++ [code], status := code }
  else result

/-- An optional step: its failure makes a valid result partial. -/
def afterOptional (result : VerificationResult) (step : VerificationStep)
    (code : VerificationStatus) : VerificationResult :=
  let result := { result with steps := result.steps ++ [step] }
  if !step.passed then
    { result with
      errorCodes := result.errorCodes ++ [code]
      status := if result.status = .valid then .validPartial else result.status }
  else result

end VerificationResult

/-- Steps 3 to 8. -/
def verifySteps (bundle : ProofBundle) (result : VerificationResult) : VerificationResult :=
  let result := result.afterStep (step3BundleIdCheck bundle) .bundleIdMismatch
  let result := result.afterStep (step4IntegrityHashCheck sha bundle) .integrityMismatch
  let result := result.afterStep (step5CircuitResolution unicode bundle) .circuitHashMismatch
  let result := result.afterStep (step6ProofStructureValidation sha bundle) .proofInvalid
  let result := result.afterStep (step7AIIdVerification unicode bundle) .aiIdInvalid
  result.afterStep (step8DataCommitmentVerification sha bundle) .dataCommitmentInvalid

/-- Step 9, if there is a timestamp authority block. -/
def verifyTimestamp (bundle : ProofBundle) (result : VerificationResult) : VerificationResult :=
  match bundle.legal.bind (·.timestampAuthority) with
  | none => result
  | some tsa => result.afterOptional (step9TimestampVerification tsa) .timestampInvalid

/-- Step 10, if there is a list of dependencies, be it empty. -/
def verifyGraph (bundle : ProofBundle) (result : VerificationResult) : VerificationResult :=
  match bundle.proofGraph.bind (·.dependsOn) with
  | none => result
  | some ids => result.afterOptional (step10ProofGraphVerification ids) .graphEdgeInvalid

/-- `Verifier.verify`. -/
def verify (bundle : ProofBundle) : VerificationResult :=
  let version := step1VersionCheck bundle
  let schema := step2SchemaValidation unicode bundle
  if !version.passed then ⟨.unsupportedVersion, [.unsupportedVersion], [version]⟩
  else if !schema.passed then ⟨.schemaInvalid, [.schemaInvalid], [version, schema]⟩
  else
    verifyGraph bundle <| verifyTimestamp bundle <|
      verifySteps sha unicode bundle { status := .valid, steps := [version, schema] }

end Vrl.Sdk.TypeScript

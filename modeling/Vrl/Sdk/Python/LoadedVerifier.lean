import Vrl.Sdk.Python.Loaded

/-!
# Vrl.Sdk.Python.LoadedVerifier

The ten-step verifier of the Python SDK (`sdk/python/vrl/verifier.py`) on a bundle as
`from_dict` leaves it.

It is the verifier of `Vrl.Sdk.Python.Verifier`, with what its operations do when a field
does not have its declared type: a comparison with a text fails, a hash is taken over
whatever JSON there is, and an operation that needs a text or an iterable raises.
-/

open TextCodec CheckPipeline JsonValue

namespace Vrl.Sdk.Python.Loaded

variable (std : PyStd) (fmt : Formatter)

/-! ### Hashes -/

/-- `canonical_json`. -/
def canonicalJson (value : JsonValue) : String :=
  String.ofList (JsonValue.canonicalText asciiCode value)

/-- `compute_proof_hash`. -/
def computeProofHash (circuitHash proofBytes publicInputs proofSystem traceHash : JsonValue) :
    String :=
  let publicInputsHash := sha256 std (canonicalJson publicInputs)
  sha256 std (canonicalJson (.obj [
    ("circuit_hash", circuitHash),
    ("proof_bytes", proofBytes),
    ("proof_system", proofSystem),
    ("public_inputs", publicInputs),
    ("public_inputs_hash", .str publicInputsHash),
    ("trace_hash", traceHash)]))

/-- `compute_commitment_hash`. -/
def computeCommitmentHash (datasetId datasetVersion datasetHash providerId committedAt :
    JsonValue) : String :=
  sha256 std (canonicalJson (.obj [
    ("committed_at", committedAt),
    ("dataset_hash", datasetHash),
    ("dataset_id", datasetId),
    ("dataset_version", datasetVersion),
    ("provider_id", providerId)]))

/-- `compute_integrity_hash`, whose arguments the schema check has found to be texts. -/
def computeIntegrityHash (inputHash outputHash traceHash : JsonValue) : Except PyError String := do
  let inputHash ← inputHash.asText
  let outputHash ← outputHash.asText
  let traceHash ← traceHash.asText
  .ok (Python.computeIntegrityHash std inputHash outputHash traceHash)

/-- `str(uuid.uuid5(namespace_uuid, integrity_hash))`. -/
def computeBundleIdFromIntegrity (integrityHash : JsonValue) : Except PyError String :=
  integrityHash.asText.map (Python.computeBundleIdFromIntegrity std)

/-! ### Results -/

/-- `VerificationResult`, whose identifier is whatever the bundle has. -/
structure VerificationResult where
  status : VerificationStatus
  bundleId : JsonValue
  details : List VerificationDetail := []
  errors : List VerificationStatus := []

namespace VerificationResult

/-- The result with a step recorded as passed. -/
def recordPass (result : VerificationResult) (step message : String) : VerificationResult :=
  { result with details := result.details ++ [{ step, status := .pass, message }] }

/-- The result with a step recorded as failed, its status left as it is. -/
def recordFail (result : VerificationResult) (step message : String) (code : VerificationStatus) :
    VerificationResult :=
  { result with
    details := result.details ++ [{ step, status := .fail, message, errorCode := some code }]
    errors := result.errors ++ [code] }

/-- A required step fails: its code becomes the status. -/
def reject (result : VerificationResult) (step message : String) (code : VerificationStatus) :
    VerificationResult × Bool :=
  ({ result.recordFail step message code with status := code }, false)

/-- A step passes. -/
def accept (result : VerificationResult) (step message : String) : VerificationResult × Bool :=
  (result.recordPass step message, true)

/-- `is_valid`. -/
def isValid (result : VerificationResult) : Bool :=
  result.status = .valid || result.status = .validPartial

end VerificationResult

/-! ### The circuit registry -/

/-- `resolve_circuit`. -/
abbrev CircuitRegistry := JsonValue → JsonValue → Option String

/-- The mock registry: every circuit resolves, to the hash of its name. -/
def mockRegistry : CircuitRegistry := fun circuitId circuitVersion =>
  some (sha256 std (canonicalJson (.obj [
    ("circuit_id", circuitId),
    ("circuit_version", circuitVersion),
    ("spec_version", .str "vrl/circuit/1.0")])))

/-! ### The steps -/

/-- Step 1: check `vrl_version == "1.0"`. -/
def step1VersionCheck (bundle : ProofBundle) (result : VerificationResult) :
    Except PyError (VerificationResult × Bool) :=
  if !bundle.vrlVersion.isText "1.0" then
    .ok (result.reject "Version Check" ("Unsupported vrl_version: " ++ fmt.str bundle.vrlVersion)
      .unsupportedVersion)
  else
    .ok (result.accept "Version Check"
      ("vrl_version " ++ fmt.str bundle.vrlVersion ++ " is supported"))

/-- The required fields of the schema check that `from_dict` may leave at `None`. -/
def requiredFields (bundle : ProofBundle) : List (String × JsonValue) :=
  [("bundle_id", bundle.bundleId), ("issued_at", bundle.issuedAt)]

/-- The hash fields of the schema check, in its order. -/
def hashFields (bundle : ProofBundle) : List (String × JsonValue) :=
  [("circuit_hash", bundle.computation.circuitHash),
    ("input_hash", bundle.computation.inputHash),
    ("output_hash", bundle.computation.outputHash),
    ("trace_hash", bundle.computation.traceHash),
    ("integrity_hash", bundle.computation.integrityHash),
    ("proof_hash", bundle.proof.proofHash)]

/-- Step 2: no required field is `None`, and the hash fields have the format of hashes. -/
def step2SchemaValidation (bundle : ProofBundle) (result : VerificationResult) :
    Except PyError (VerificationResult × Bool) :=
  match (requiredFields bundle).find? fun field => field.2.isNull with
  | some (fieldName, _) =>
      .ok (result.reject "Schema Validation" ("Required field missing: " ++ fieldName)
        .schemaInvalid)
  | none =>
      let aiId := bundle.aiIdentity.aiId
      if !isValidHexHash aiId then
        .ok (result.reject "Schema Validation" ("Invalid ai_id format: " ++ fmt.str aiId)
          .schemaInvalid)
      else
        match (hashFields bundle).find? fun field => !isValidHexHash field.2 with
        | some (fieldName, hashValue) =>
            .ok (result.reject "Schema Validation"
              ("Invalid " ++ fieldName ++ " format: " ++ fmt.str hashValue) .schemaInvalid)
        | none =>
            .ok (result.accept "Schema Validation" "All required fields present and valid")

/-- Step 3: recompute and verify `bundle_id`. -/
def step3BundleIdCheck (bundle : ProofBundle) (result : VerificationResult) :
    Except PyError (VerificationResult × Bool) := do
  let recomputedBundleId ← computeBundleIdFromIntegrity std bundle.computation.integrityHash
  if !bundle.bundleId.isText recomputedBundleId then
    .ok (result.reject "bundle_id Recomputation"
      ("bundle_id mismatch: expected " ++ recomputedBundleId ++ ", got " ++
        fmt.str bundle.bundleId)
      .bundleIdMismatch)
  else
    .ok (result.accept "bundle_id Recomputation"
      ("bundle_id " ++ fmt.str bundle.bundleId ++ " is valid"))

/-- Step 4: recompute `integrity_hash`. -/
def step4IntegrityHashCheck (bundle : ProofBundle) (result : VerificationResult) :
    Except PyError (VerificationResult × Bool) := do
  let recomputedIntegrity ← computeIntegrityHash std bundle.computation.inputHash
    bundle.computation.outputHash bundle.computation.traceHash
  if !bundle.computation.integrityHash.isText recomputedIntegrity then
    .ok (result.reject "Integrity Hash Recomputation"
      ("integrity_hash mismatch: expected " ++ recomputedIntegrity ++ ", got " ++
        fmt.str bundle.computation.integrityHash)
      .integrityMismatch)
  else
    .ok (result.accept "Integrity Hash Recomputation"
      ("integrity_hash " ++ fmt.str bundle.computation.integrityHash ++ " is valid"))

/-- Step 5: resolve the circuit and verify `circuit_hash`. -/
def step5CircuitResolution (registry : CircuitRegistry) (bundle : ProofBundle)
    (result : VerificationResult) : Except PyError (VerificationResult × Bool) :=
  match registry bundle.computation.circuitId bundle.computation.circuitVersion with
  | none =>
      .ok (result.reject "Circuit Resolution"
        ("Circuit not found: " ++ fmt.str bundle.computation.circuitId ++ "@" ++
          fmt.str bundle.computation.circuitVersion)
        .circuitHashMismatch)
  | some circuitHash =>
      if !bundle.computation.circuitHash.isText circuitHash then
        .ok (result.reject "Circuit Resolution"
          ("circuit_hash mismatch: expected " ++ circuitHash ++ ", got " ++
            fmt.str bundle.computation.circuitHash)
          .circuitHashMismatch)
      else
        .ok (result.accept "Circuit Resolution"
          ("Circuit " ++ fmt.str bundle.computation.circuitId ++ " verified with matching hash"))

/-- The proof hash that the bundle's own fields give. -/
def recomputedProofHash (bundle : ProofBundle) : String :=
  computeProofHash std bundle.computation.circuitHash bundle.proof.proofBytes
    bundle.proof.publicInputs bundle.proof.proofSystem bundle.computation.traceHash

/-- Step 6: validate the proof structure and recompute `proof_hash`. -/
def step6ProofStructureValidation (bundle : ProofBundle) (result : VerificationResult) :
    Except PyError (VerificationResult × Bool) := do
  let proof := bundle.proof
  let valid ← proof.proofSystem.isIn validSystems
  if !valid then
    .ok (result.reject "Proof Structure Validation"
      ("Invalid proof_system: " ++ fmt.str proof.proofSystem) .proofInvalid)
  else if !proof.proofHash.isText (recomputedProofHash std bundle) then
    .ok (result.reject "Proof Structure Validation"
      ("proof_hash mismatch: expected " ++ recomputedProofHash std bundle ++ ", got " ++
        fmt.str proof.proofHash)
      .proofInvalid)
  else
    .ok (result.accept "Proof Structure Validation"
      ("Proof structure valid for " ++ fmt.str proof.proofSystem))

/-- Step 7: AI-ID verification, if a provider signature is present. -/
def step7AiIdVerification (bundle : ProofBundle) (result : VerificationResult) :
    Except PyError (VerificationResult × Bool) :=
  if !bundle.aiIdentity.providerSignature.truthy then
    .ok (result.accept "AI-ID Verification" "No provider_signature; AI-ID is advisory only")
  else
    let aiId := bundle.aiIdentity.aiId
    if !isValidHexHash aiId then
      .ok (result.reject "AI-ID Verification" ("Invalid ai_id format: " ++ fmt.str aiId)
        .aiIdInvalid)
    else
      .ok (result.accept "AI-ID Verification"
        ("AI-ID " ++ fmt.str aiId ++ " is valid (provider_signature present but not verified)"))

/-- The commitment hash recomputes. -/
def commitmentHolds (commitment : DataCommitment) : Bool :=
  commitment.commitmentHash.isText (computeCommitmentHash std commitment.datasetId
    commitment.datasetVersion commitment.datasetHash commitment.providerId commitment.committedAt)

/-- The loop of step 8 over the commitments, from number `i` on. -/
def checkCommitments (result : VerificationResult) :
    Nat → List DataCommitment → VerificationResult × Bool
  | i, [] =>
      result.accept "Data Commitment Verification"
        (String.ofList ("All ".toList ++ natText i ++ " data commitments verified".toList))
  | i, commitment :: commitments =>
      if commitmentHolds std commitment then checkCommitments result (i + 1) commitments
      else
        result.reject
          (String.ofList ("Data Commitment Verification [".toList ++ natText i ++ [']']))
          ("commitment_hash mismatch for " ++ fmt.str commitment.datasetId) .dataCommitmentInvalid

/-- Step 8: data commitment verification. -/
def step8DataCommitmentVerification (bundle : ProofBundle) (result : VerificationResult) :
    Except PyError (VerificationResult × Bool) :=
  match bundle.dataCommitments with
  | none | some [] =>
      .ok (result.accept "Data Commitment Verification" "No data commitments")
  | some commitments => .ok (checkCommitments std fmt result 0 commitments)

/-- The block is complete: none of its three values is falsy. -/
def TimestampAuthority.isComplete (tsa : TimestampAuthority) : Bool :=
  tsa.tsaToken.truthy && tsa.tsaProvider.truthy && tsa.tsaHashAlgorithm.truthy

/-- Step 9: timestamp authority verification. A failure leaves the status alone. -/
def step9TimestampVerification (bundle : ProofBundle) (result : VerificationResult) :
    VerificationResult × Bool :=
  match bundle.legal.bind (·.timestampAuthority) with
  | none => (result, true)
  | some tsa =>
      if !tsa.isComplete then
        (result.recordFail "Timestamp Verification" "Incomplete timestamp_authority block"
          .timestampInvalid, false)
      else
        result.accept "Timestamp Verification"
          ("Timestamp token from " ++ fmt.str tsa.tsaProvider ++
            " (RFC 3161 verification skipped)")

/-- The loop of step 10 over the identifiers. It catches `ValueError` and no more. -/
def checkEdges (result : VerificationResult) :
    List JsonValue → Except PyError (VerificationResult × Bool)
  | [] => .ok (result.accept "Proof Graph Verification"
      "Proof graph edges valid (recursive verification skipped)")
  | bundleId :: bundleIds =>
      match bundleId.readUuid with
      | .ok () => checkEdges result bundleIds
      | .error e =>
          if e.kind = .valueError then
            .ok (result.recordFail "Proof Graph Verification"
              ("Invalid bundle_id in depends_on: " ++ fmt.str bundleId) .graphEdgeInvalid, false)
          else .error e

/-- The dependencies of the bundle, `None` when there is no graph. -/
def dependsOn (bundle : ProofBundle) : JsonValue :=
  match bundle.proofGraph with
  | some graph => graph.dependsOn
  | none => .null

/-- Step 10: proof graph edge verification. A failure leaves the status alone. -/
def step10ProofGraphVerification (bundle : ProofBundle) (result : VerificationResult) :
    Except PyError (VerificationResult × Bool) :=
  if !(dependsOn bundle).truthy then .ok (result, true)
  else do
    let bundleIds ← (dependsOn bundle).iterate
    checkEdges fmt result bundleIds

/-! ### Verification -/

/-- Step 9 as `verify` enters it: only when there is a timestamp authority block, and
a failure makes the result partial. -/
def verifyTimestamp (bundle : ProofBundle) (result : VerificationResult) : VerificationResult :=
  match bundle.legal.bind (·.timestampAuthority) with
  | none => result
  | some _ =>
      let (result, ok) := step9TimestampVerification fmt bundle result
      if !ok then { result with status := .validPartial } else result

/-- Step 10 as `verify` enters it: only when the graph depends on something, and a
failure makes the result partial. -/
def verifyGraph (bundle : ProofBundle) (result : VerificationResult) :
    Except PyError VerificationResult :=
  if !(dependsOn bundle).truthy then .ok result
  else do
    let (result, ok) ← step10ProofGraphVerification fmt bundle result
    if !ok then .ok { result with status := .validPartial } else .ok result

/-- `Verifier.verify`. -/
def verify (registry : CircuitRegistry) (bundle : ProofBundle) :
    Except PyError VerificationResult :=
  let result : VerificationResult := { status := .valid, bundleId := bundle.bundleId }
  orReturnRaising (step1VersionCheck fmt bundle result) fun result =>
  orReturnRaising (step2SchemaValidation fmt bundle result) fun result =>
  orReturnRaising (step3BundleIdCheck std fmt bundle result) fun result =>
  orReturnRaising (step4IntegrityHashCheck std fmt bundle result) fun result =>
  orReturnRaising (step5CircuitResolution fmt registry bundle result) fun result =>
  orReturnRaising (step6ProofStructureValidation std fmt bundle result) fun result =>
  orReturnRaising (step7AiIdVerification fmt bundle result) fun result =>
  orReturnRaising (step8DataCommitmentVerification std fmt bundle result) fun result =>
  verifyGraph fmt bundle (verifyTimestamp fmt bundle result)

end Vrl.Sdk.Python.Loaded

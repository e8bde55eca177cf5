import Vrl.Lib.CheckPipeline
import Vrl.Lib.PyJson
import Vrl.Sdk.Python.Bundle

/-!
# Vrl.Verifier.VrlVerify

The standalone verifier (`verifier/vrl_verify.py`).

It makes the ten steps over the dictionary that was read from the bundle's file, without
the SDK's records: every step gets its fields by `get`, with a default where one is
missing. Its result carries a flag of its own, `isValid`, from which `main` takes the exit
code.
-/

open TextCodec CheckPipeline JsonValue

namespace Vrl.Standalone

variable (std : PyStd) (fmt : Formatter)

/-- The members of a bundle's dictionary. -/
abbrev Bundle := List (String × JsonValue)

/-! ### Hashes -/

/-- `canonical_json`. -/
def canonicalJson (value : JsonValue) : String :=
  String.ofList (JsonValue.canonicalText asciiCode value)

/-- `sha256`. -/
def sha256 (data : String) : String := std.hexdigest data

/-- `compute_integrity_hash`. -/
def computeIntegrityHash (inputHash outputHash traceHash : JsonValue) : Except PyError String := do
  let inputHash ← inputHash.asText
  let outputHash ← outputHash.asText
  let traceHash ← traceHash.asText
  .ok (sha256 std (inputHash ++ outputHash ++ traceHash))

/-- `compute_proof_hash`. -/
def computeProofHash (circuitHash proofBytes publicInputs proofSystem traceHash : JsonValue) :
    String :=
  let publicInputsHash := sha256 std (canonicalJson publicInputs)
  sha256 std (canonicalJson (.obj [
    ("circuit_hash", circuitHash),
    ("proof_bytes", proofBytes),
    ("proof_system", proofSystem),
    ("public_inputs", publicInputs),
    ("public_inputs_hash", .str publicInputsHash),
    ("trace_hash", traceHash)]))

/-- `compute_commitment_hash`. -/
def computeCommitmentHash (datasetId datasetVersion datasetHash providerId committedAt :
    JsonValue) : String :=
  sha256 std (canonicalJson (.obj [
    ("committed_at", committedAt),
    ("dataset_hash", datasetHash),
    ("dataset_id", datasetId),
    ("dataset_version", datasetVersion),
    ("provider_id", providerId)]))

/-! ### Results -/

/-- `VerificationStatus`. -/
inductive VerificationStatus where
  | valid
  | validPartial
  | schemaInvalid
  | bundleIdMismatch
  | integrityMismatch
  | circuitHashMismatch
  | proofInvalid
  | aiIdInvalid
  | dataCommitmentInvalid
  | timestampInvalid
  | graphEdgeInvalid
  | unsupportedVersion
  deriving DecidableEq, Repr

/-- `VerificationDetail`. -/
structure VerificationDetail where
  step : String
  passed : Bool
  message : String
  errorCode : Option VerificationStatus := none
  computedValue : Option String := none
  expectedValue : JsonValue := .null

/-- `VerificationResult`. -/
structure VerificationResult where
  status : VerificationStatus
  bundleId : JsonValue
  details : List VerificationDetail
  errors : List VerificationStatus
  isValid : Bool

namespace VerificationResult

/-- The result with a step recorded as passed. -/
def recordPass (result : VerificationResult) (step message : String)
    (computedValue : Option String := none) : VerificationResult :=
  { result with details := result.details ++ [{ step, passed := true, message, computedValue }] }

/-- The result with a step recorded as failed, its status and flag left as they are. -/
def recordFail (result : VerificationResult) (step message : String) (code : VerificationStatus)
    (computedValue : Option String := none) (expectedValue : JsonValue := .null) :
    VerificationResult :=
  { result with
    details := result.details ++
      [{ step, passed := false, message, errorCode := some code, computedValue, expectedValue }]
    errors := result.errors ++ [code] }

/-- A required step fails: its code becomes the status, and the flag is cleared. -/
def reject (result : VerificationResult) (step message : String) (code : VerificationStatus)
    (computedValue : Option String := none) (expectedValue : JsonValue := .null) :
    VerificationResult × Bool :=
  ({ result.recordFail step message code computedValue expectedValue with
      status := code, isValid := false }, false)

/-- A step passes. -/
def accept (result : VerificationResult) (step message : String)
    (computedValue : Option String := none) : VerificationResult × Bool :=
  (result.recordPass step message computedValue, true)

/-- The exit code that `main` returns for a result. -/
def exitCode (result : VerificationResult) : Nat := if result.isValid then 0 else 1

end VerificationResult

/-! ### The circuit registry -/

/-- `resolve_circuit`. -/
abbrev CircuitRegistry := JsonValue → JsonValue → Option String

/-- `CircuitRegistry`: every circuit resolves, to the hash of its name. -/
def mockRegistry : CircuitRegistry := fun circuitId circuitVersion =>
  some (sha256 std (canonicalJson (.obj [
    ("circuit_id", circuitId),
    ("circuit_version", circuitVersion),
    ("spec_version", .str "vrl/circuit/1.0")])))

/-! ### The steps -/

/-- `_is_valid_hex_hash`: 64 characters that `int(value, 16)` reads and that are in lower
case. -/
def isValidHexHash : JsonValue → Bool
  | .str s =>
      let cs := s.toList
      cs.length = 64 && PyInt.parsesBase16 cs && cs.all fun c => !('A' ≤ c && c ≤ 'Z')
  | _ => false

/-- `bundle.get(key, {}).get`: a part of the bundle that has to be a dictionary. -/
def part (bundle : Bundle) (key : String) : Except PyError Bundle :=
  ((bundle.lookup key).getD (.obj [])).asDict "get"

/-- Step 1: check `vrl_version == "1.0"`. -/
def step1VersionCheck (bundle : Bundle) (result : VerificationResult) :
    Except PyError (VerificationResult × Bool) :=
  let vrlVersion := getOrNull bundle "vrl_version"
  if !vrlVersion.isText "1.0" then
    .ok (result.reject "§12.1 Version Check" ("Unsupported vrl_version: " ++ fmt.str vrlVersion)
      .unsupportedVersion)
  else
    .ok (result.accept "§12.1 Version Check"
      ("vrl_version " ++ fmt.str vrlVersion ++ " is supported"))

/-- The keys that a bundle must have. -/
def requiredFields : List String :=
  ["bundle_id", "vrl_version", "issued_at", "ai_identity", "computation", "proof"]

/-- The hash fields of the computation that the schema check looks at. -/
def hashFields : List String :=
  ["circuit_hash", "input_hash", "output_hash", "trace_hash", "integrity_hash"]

/-- Step 2: the required keys are there, and the hash fields have the format of hashes. -/
def step2SchemaValidation (bundle : Bundle) (result : VerificationResult) :
    Except PyError (VerificationResult × Bool) :=
  let rejected := fun message =>
    Except.ok (result.reject "§12.2 Schema Validation" message .schemaInvalid)
  match requiredFields.find? fun field => (bundle.lookup field).isNone with
  | some field => rejected ("Required field missing: " ++ field)
  | none => do
      let aiIdentity ← part bundle "ai_identity"
      if !isValidHexHash (getOrNull aiIdentity "ai_id") then rejected "Invalid ai_id format"
      else do
        let computation ← part bundle "computation"
        match hashFields.find? fun field => !isValidHexHash (getOrNull computation field) with
        | some field => rejected ("Invalid " ++ field ++ " format")
        | none => do
            let proof ← part bundle "proof"
            if !isValidHexHash (getOrNull proof "proof_hash") then
              rejected "Invalid proof_hash format"
            else
              .ok (result.accept "§12.2 Schema Validation"
                "All required fields present and valid")

/-- Step 3: recompute and verify `bundle_id`. Whatever the recomputation raises is caught. -/
def step3BundleIdCheck (bundle : Bundle) (result : VerificationResult) :
    Except PyError (VerificationResult × Bool) := do
  let computation ← part bundle "computation"
  match (getOrNull computation "integrity_hash").asText with
  | .error e =>
      .ok (result.reject "§12.3 bundle_id Recomputation"
        ("Could not recompute bundle_id: " ++ e.message) .bundleIdMismatch)
  | .ok integrityHash =>
      let recomputedBundleId :=
        String.ofList (std.uuid5 Sdk.Python.vrlNamespaceUuid integrityHash).text
      let storedBundleId := getOrNull bundle "bundle_id"
      if !storedBundleId.isText recomputedBundleId then
        .ok (result.reject "§12.3 bundle_id Recomputation" "bundle_id mismatch" .bundleIdMismatch
          (some recomputedBundleId) storedBundleId)
      else
        .ok (result.accept "§12.3 bundle_id Recomputation"
          ("bundle_id " ++ fmt.str storedBundleId ++ " is valid") (some recomputedBundleId))

/-- Step 4: recompute `integrity_hash`. -/
def step4IntegrityHashCheck (bundle : Bundle) (result : VerificationResult) :
    Except PyError (VerificationResult × Bool) := do
  let computation ← part bundle "computation"
  let storedIntegrity := getOrNull computation "integrity_hash"
  let recomputedIntegrity ← computeIntegrityHash std (getOrNull computation "input_hash")
    (getOrNull computation "output_hash") (getOrNull computation "trace_hash")
  if !storedIntegrity.isText recomputedIntegrity then
    .ok (result.reject "§12.4 Integrity Hash Recomputation" "integrity_hash mismatch"
      .integrityMismatch (some recomputedIntegrity) storedIntegrity)
  else
    .ok (result.accept "§12.4 Integrity Hash Recomputation" "integrity_hash verified"
      (some recomputedIntegrity))

/-- Step 5: resolve the circuit and verify `circuit_hash`. -/
def step5CircuitResolution (registry : CircuitRegistry) (bundle : Bundle)
    (result : VerificationResult) : Except PyError (VerificationResult × Bool) := do
  let computation ← part bundle "computation"
  let circuitId := getOrNull computation "circuit_id"
  let circuitVersion := getOrNull computation "circuit_version"
  let storedCircuitHash := getOrNull computation "circuit_hash"
  match registry circuitId circuitVersion with
  | none =>
      .ok (result.reject "§12.5 Circuit Registry Lookup"
        ("Circuit not found: " ++ fmt.str circuitId ++ "@" ++ fmt.str circuitVersion)
        .circuitHashMismatch)
  | some computedCircuitHash =>
      if !storedCircuitHash.isText computedCircuitHash then
        .ok (result.reject "§12.5 Circuit Registry Lookup" "circuit_hash mismatch"
          .circuitHashMismatch (some computedCircuitHash) storedCircuitHash)
      else
        .ok (result.accept "§12.5 Circuit Registry Lookup"
          ("Circuit " ++ fmt.str circuitId ++ " verified") (some computedCircuitHash))

/-- The proof systems a bundle may name. -/
def validSystems : List String :=
  ["plonk-halo2-pasta", "plonk-halo2-bn254", "groth16-bn254", "stark", "zk-ml", "tee-intel-tdx",
    "tee-amd-sev-snp", "tee-aws-nitro", "sha256-deterministic", "api-hash-binding"]

/-- The proof hash that a computation and a proof give. -/
def recomputedProofHash (computation proof : Bundle) : String :=
  computeProofHash std (getOrNull computation "circuit_hash")
    ((proof.lookup "proof_bytes").getD (.str ""))
    ((proof.lookup "public_inputs").getD (.arr []))
    (getOrNull proof "proof_system") (getOrNull computation "trace_hash")

/-- Step 6: validate the proof structure and recompute `proof_hash`. -/
def step6ProofStructureValidation (bundle : Bundle) (result : VerificationResult) :
    Except PyError (VerificationResult × Bool) := do
  let proof ← part bundle "proof"
  let proofSystem := getOrNull proof "proof_system"
  let valid ← proofSystem.isIn validSystems
  if !valid then
    .ok (result.reject "§12.6 Proof Verification"
      ("Invalid proof_system: " ++ fmt.str proofSystem) .proofInvalid)
  else do
    let computation ← part bundle "computation"
    let storedProofHash := getOrNull proof "proof_hash"
    if !storedProofHash.isText (recomputedProofHash std computation proof) then
      .ok (result.reject "§12.6 Proof Verification" "proof_hash mismatch" .proofInvalid
        (some (recomputedProofHash std computation proof)) storedProofHash)
    else
      .ok (result.accept "§12.6 Proof Verification"
        ("Proof structure valid for " ++ fmt.str proofSystem)
        (some (recomputedProofHash std computation proof)))

/-- Step 7: AI-ID verification. -/
def step7AiIdVerification (bundle : Bundle) (result : VerificationResult) :
    Except PyError (VerificationResult × Bool) := do
  let aiIdentity ← part bundle "ai_identity"
  if !isValidHexHash (getOrNull aiIdentity "ai_id") then
    .ok (result.reject "§12.7 AI-ID Verification" "Invalid ai_id format" .aiIdInvalid)
  else if !(getOrNull aiIdentity "provider_signature").truthy then
    .ok (result.accept "§12.7 AI-ID Verification"
      "AI-ID format valid (no provider_signature; AI-ID is advisory only)")
  else
    .ok (result.accept "§12.7 AI-ID Verification"
      "AI-ID valid (provider_signature present but not verified in standalone mode)")

/-- The commitment hash that a commitment's own fields give. -/
def recomputedCommitmentHash (commitment : Bundle) : String :=
  computeCommitmentHash std (getOrNull commitment "dataset_id")
    (getOrNull commitment "dataset_version") (getOrNull commitment "dataset_hash")
    (getOrNull commitment "provider_id") (getOrNull commitment "committed_at")

/-- The loop of step 8 over the commitments, from number `i` on. -/
def checkCommitments (result : VerificationResult) :
    Nat → List JsonValue → Except PyError (VerificationResult × Bool)
  | i, [] =>
      .ok (result.accept "§12.8 Data Commitment Signatures"
        (String.ofList ("All ".toList ++ natText i ++ " data commitments verified".toList)))
  | i, value :: values => do
      let commitment ← value.asDict "get"
      let storedCommitmentHash := getOrNull commitment "commitment_hash"
      if storedCommitmentHash.isText (recomputedCommitmentHash std commitment) then
        checkCommitments result (i + 1) values
      else
        .ok (result.reject
          (String.ofList ("§12.8 Data Commitment Signatures [".toList ++ natText i ++ [']']))
          ("commitment_hash mismatch for " ++ fmt.str (getOrNull commitment "dataset_id"))
          .dataCommitmentInvalid (some (recomputedCommitmentHash std commitment))
          storedCommitmentHash)

/-- Step 8: data commitment verification. -/
def step8DataCommitmentVerification (bundle : Bundle) (result : VerificationResult) :
    Except PyError (VerificationResult × Bool) :=
  let commitments := getOrNull bundle "data_commitments"
  if !commitments.truthy then
    .ok (result.accept "§12.8 Data Commitment Signatures" "No data commitments")
  else do
    let values ← commitments.iterate
    checkCommitments std fmt result 0 values

/-- The three fields of the block are there and truthy. -/
def isComplete (tsa : Bundle) : Bool :=
  (getOrNull tsa "tsa_token").truthy && (getOrNull tsa "tsa_provider").truthy &&
    (getOrNull tsa "tsa_hash_algorithm").truthy

/-- Step 9: timestamp verification. A failure leaves the status alone. -/
def step9TimestampVerification (bundle : Bundle) (result : VerificationResult) :
    Except PyError (VerificationResult × Bool) := do
  let legal ← part bundle "legal"
  if !(getOrNull legal "timestamp_authority").truthy then .ok (result, true)
  else do
    let tsa ← part legal "timestamp_authority"
    if !isComplete tsa then
      .ok (result.recordFail "§12.9 Timestamp Validation" "Incomplete timestamp_authority block"
        .timestampInvalid, false)
    else
      .ok (result.accept "§12.9 Timestamp Validation"
        ("Timestamp token from " ++ fmt.str (getOrNull tsa "tsa_provider") ++
          " (RFC 3161 verification skipped in standalone mode)"))

/-- The loop of step 10 over the identifiers. It catches `ValueError` and
`AttributeError`. -/
def checkEdges (result : VerificationResult) :
    List JsonValue → Except PyError (VerificationResult × Bool)
  | [] => .ok (result.accept "§12.10 Output Envelope Binding"
      "Proof graph edges valid (recursive verification skipped in standalone mode)")
  | bundleId :: bundleIds =>
      match bundleId.readUuid with
      | .ok () => checkEdges result bundleIds
      | .error e =>
          if e.kind = .valueError ∨ e.kind = .attributeError then
            .ok (result.recordFail "§12.10 Output Envelope Binding"
              ("Invalid bundle_id in depends_on: " ++ fmt.str bundleId) .graphEdgeInvalid, false)
          else .error e

/-- Step 10: proof graph verification. A failure leaves the status alone. -/
def step10ProofGraphVerification (bundle : Bundle) (result : VerificationResult) :
    Except PyError (VerificationResult × Bool) := do
  let proofGraph ← part bundle "proof_graph"
  let dependsOn := getOrNull proofGraph "depends_on"
  if !dependsOn.truthy then .ok (result, true)
  else do
    let bundleIds ← dependsOn.iterate
    checkEdges fmt result bundleIds

/-! ### Verification -/

/-- Step 9 as `verify` enters it. A failure makes the result partial. -/
def verifyTimestamp (bundle : Bundle) (result : VerificationResult) :
    Except PyError VerificationResult :=
  if !(getOrNull bundle "legal").truthy then .ok result
  else do
    let legal ← part bundle "legal"
    if !(getOrNull legal "timestamp_authority").truthy then .ok result
    else do
      let (result, ok) ← step9TimestampVerification fmt bundle result
      if !ok then .ok { result with status := .validPartial } else .ok result

/-- Step 10 as `verify` enters it. A failure makes the result partial. -/
def verifyGraph (bundle : Bundle) (result : VerificationResult) :
    Except PyError VerificationResult :=
  if !(getOrNull bundle "proof_graph").truthy then .ok result
  else do
    let proofGraph ← part bundle "proof_graph"
    if !(getOrNull proofGraph "depends_on").truthy then .ok result
    else do
      let (result, ok) ← step10ProofGraphVerification fmt bundle result
      if !ok then .ok { result with status := .validPartial } else .ok result

/-- The flag of a result whose required steps have passed: no partial result keeps it. -/
def finalStatus (result : VerificationResult) : VerificationResult :=
  if result.status = .valid ∧ result.errors = [] then { result with isValid := true }
  else { result with isValid := false }

/-- Steps 9 and 10, and the flag. -/
def verifyOptional (bundle : Bundle) (result : VerificationResult) :
    Except PyError VerificationResult := do
  let result ← verifyTimestamp fmt bundle result
  let result ← verifyGraph fmt bundle result
  .ok (finalStatus result)

/-- The result before the first step. -/
def initialResult (bundle : Bundle) : VerificationResult where
  status := .valid
  bundleId := (bundle.lookup "bundle_id").getD (.str "unknown")
  details := []
  errors := []
  isValid := true

/-- `Verifier.verify`. -/
def verify (registry : CircuitRegistry) (bundleDict : JsonValue) :
    Except PyError VerificationResult := do
  let bundle ← bundleDict.asDict "get"
  orReturnRaising (step1VersionCheck fmt bundle (initialResult bundle)) fun result =>
    orReturnRaising (step2SchemaValidation bundle result) fun result =>
    orReturnRaising (step3BundleIdCheck std fmt bundle result) fun result =>
    orReturnRaising (step4IntegrityHashCheck std bundle result) fun result =>
    orReturnRaising (step5CircuitResolution fmt registry bundle result) fun result =>
    orReturnRaising (step6ProofStructureValidation std fmt bundle result) fun result =>
    orReturnRaising (step7AiIdVerification bundle result) fun result =>
    orReturnRaising (step8DataCommitmentVerification std fmt bundle result) fun result =>
    verifyOptional fmt bundle result

end Vrl.Standalone

import Vrl.Lib.PyJson
import Vrl.Sdk.Python.Verifier

/-!
# Vrl.Sdk.Python.Loaded

Proof bundles as `ProofBundle.from_dict` leaves them (`sdk/python/vrl/bundle.py`,
`identity.py`).

A dictionary read from JSON may hold values of any type, and `from_dict` looks at few of
them: it asks for the required keys, and checks the version, the format of the AI-ID, the
execution environment and the proof system. All else is taken over as it is.
-/

open TextCodec JsonValue

namespace Vrl.Sdk.Python.Loaded

/-! ### Data model -/

/-- `AIIdentity`. -/
structure AIIdentity where
  aiId : JsonValue
  modelName : JsonValue
  modelVersion : JsonValue
  providerId : JsonValue
  executionEnvironment : JsonValue
  providerSignature : JsonValue
  teeAttestationReport : JsonValue
  parentAiId : JsonValue

/-- `Computation`. -/
structure Computation where
  circuitId : JsonValue
  circuitVersion : JsonValue
  circuitHash : JsonValue
  inputHash : JsonValue
  outputHash : JsonValue
  traceHash : JsonValue
  integrityHash : JsonValue

/-- `Proof`. -/
structure Proof where
  proofSystem : JsonValue
  proofBytes : JsonValue
  publicInputs : JsonValue
  verificationKeyId : JsonValue
  proofHash : JsonValue
  commitments : JsonValue

/-- `DataCommitment`. -/
structure DataCommitment where
  datasetId : JsonValue
  datasetVersion : JsonValue
  datasetHash : JsonValue
  providerId : JsonValue
  committedAt : JsonValue
  commitmentHash : JsonValue
  providerSignature : JsonValue

/-- `TimestampAuthority`. -/
structure TimestampAuthority where
  tsaToken : JsonValue
  tsaProvider : JsonValue
  tsaHashAlgorithm : JsonValue

/-- `ImmutableAnchor`. -/
structure ImmutableAnchor where
  chain : JsonValue
  txHash : JsonValue
  blockNumber : JsonValue
  anchoredAt : JsonValue

/-- `Legal`. -/
structure Legal where
  jurisdictions : JsonValue
  admissibilityStandard : JsonValue
  complianceFlags : JsonValue
  timestampAuthority : Option TimestampAuthority
  immutableAnchor : Option ImmutableAnchor

/-- `ProofGraph`. -/
structure ProofGraph where
  dependsOn : JsonValue
  producedBy : JsonValue
  causalDepth : JsonValue
  graphRootHash : JsonValue
  privacyTier : JsonValue

/-- `TrustContext`. -/
structure TrustContext where
  proverId : JsonValue
  proverVersion : JsonValue
  trustScoreAtIssuance : JsonValue
  circuitCertificationTier : JsonValue
  anomalyFlags : JsonValue

/-- `ProofBundle`. -/
structure ProofBundle where
  vrlVersion : JsonValue
  bundleId : JsonValue
  issuedAt : JsonValue
  aiIdentity : AIIdentity
  computation : Computation
  proof : Proof
  dataCommitments : Option (List DataCommitment)
  legal : Option Legal
  proofGraph : Option ProofGraph
  trustContext : Option TrustContext

/-! ### Reading dictionaries -/

/-- The keys as Python shows a set of them, which it does in no order of its own. -/
def setText (keys : List String) : String :=
  "\x7b" ++ String.intercalate ", " (keys.map fun key => "'" ++ key ++ "'") ++ "\x7d"

/-- `required.issubset(data.keys())`, with the error that names what is missing. -/
def requireKeys (what : String) (required : List String) (data : List (String × JsonValue)) :
    Except PyError Unit :=
  let missing := required.filter fun key => (data.lookup key).isNone
  if missing.isEmpty then .ok ()
  else .error ⟨.valueError, "Missing required " ++ what ++ ": " ++ setText missing⟩

/-- `_is_valid_hex_hash`, which refuses whatever is no text. -/
def isValidHexHash : JsonValue → Bool
  | .str s => Python.isValidHexHash s
  | _ => false

/-- The execution environments that are registered. -/
def validEnvs : List String := ["deterministic", "tee", "zk-ml", "api-attested", "unattested"]

section FromDict

variable (fmt : Formatter)

/-- The record of a dictionary's members. -/
def AIIdentity.ofMembers (data : List (String × JsonValue)) : AIIdentity where
  aiId := getOrNull data "ai_id"
  modelName := getOrNull data "model_name"
  modelVersion := getOrNull data "model_version"
  providerId := getOrNull data "provider_id"
  executionEnvironment := getOrNull data "execution_environment"
  providerSignature := getOrNull data "provider_signature"
  teeAttestationReport := getOrNull data "tee_attestation_report"
  parentAiId := getOrNull data "parent_ai_id"

/-- The keys that the dictionary must have. -/
def AIIdentity.required : List String :=
  ["ai_id", "model_name", "model_version", "provider_id", "execution_environment"]

/-- `AIIdentity.from_dict`. -/
def AIIdentity.fromDict (value : JsonValue) : Except PyError AIIdentity := do
  let data ← value.asDict "keys"
  requireKeys "fields" required data
  if !isValidHexHash (getOrNull data "ai_id") then
    .error ⟨.valueError, "Invalid ai_id format: " ++ fmt.str (getOrNull data "ai_id")⟩
  else do
    let registered ← (getOrNull data "execution_environment").isIn validEnvs
    if !registered then
      .error ⟨.valueError, "Invalid execution_environment: " ++
        fmt.str (getOrNull data "execution_environment")⟩
    else
      .ok (.ofMembers data)

/-- The record of a dictionary's members. -/
def Computation.ofMembers (data : List (String × JsonValue)) : Computation where
  circuitId := getOrNull data "circuit_id"
  circuitVersion := getOrNull data "circuit_version"
  circuitHash := getOrNull data "circuit_hash"
  inputHash := getOrNull data "input_hash"
  outputHash := getOrNull data "output_hash"
  traceHash := getOrNull data "trace_hash"
  integrityHash := getOrNull data "integrity_hash"

/-- The keys that the dictionary must have. -/
def Computation.required : List String :=
  ["circuit_id", "circuit_version", "circuit_hash", "input_hash", "output_hash", "trace_hash",
    "integrity_hash"]

/-- `Computation.from_dict`. -/
def Computation.fromDict (value : JsonValue) : Except PyError Computation := do
  let data ← value.asDict "keys"
  requireKeys "computation fields" required data
  .ok (.ofMembers data)

/-- The record of a dictionary's members. -/
def Proof.ofMembers (data : List (String × JsonValue)) : Proof where
  proofSystem := getOrNull data "proof_system"
  proofBytes := getOrNull data "proof_bytes"
  publicInputs := getOrNull data "public_inputs"
  verificationKeyId := getOrNull data "verification_key_id"
  proofHash := getOrNull data "proof_hash"
  commitments := getOrNull data "commitments"

/-- The keys that the dictionary must have. -/
def Proof.required : List String :=
  ["proof_system", "proof_bytes", "public_inputs", "verification_key_id", "proof_hash"]

/-- `Proof.from_dict`. -/
def Proof.fromDict (value : JsonValue) : Except PyError Proof := do
  let data ← value.asDict "keys"
  requireKeys "proof fields" required data
  let valid ← (getOrNull data "proof_system").isIn validSystems
  if !valid then
    .error ⟨.valueError, "Invalid proof_system: " ++ fmt.str (getOrNull data "proof_system")⟩
  else
    .ok (.ofMembers data)

/-- The record of a dictionary's members. -/
def DataCommitment.ofMembers (data : List (String × JsonValue)) : DataCommitment where
  datasetId := getOrNull data "dataset_id"
  datasetVersion := getOrNull data "dataset_version"
  datasetHash := getOrNull data "dataset_hash"
  providerId := getOrNull data "provider_id"
  committedAt := getOrNull data "committed_at"
  commitmentHash := getOrNull data "commitment_hash"
  providerSignature := getOrNull data "provider_signature"

/-- The keys that the dictionary must have. -/
def DataCommitment.required : List String :=
  ["dataset_id", "dataset_version", "dataset_hash", "provider_id", "committed_at",
    "commitment_hash"]

/-- `DataCommitment.from_dict`. -/
def DataCommitment.fromDict (value : JsonValue) : Except PyError DataCommitment := do
  let data ← value.asDict "keys"
  requireKeys "data commitment fields" required data
  .ok (.ofMembers data)

/-- The call `cls(**data)`: the keys are exactly the parameters. -/
def keywords (cls : String) (parameters : List String) :
    JsonValue → Except PyError (List (String × JsonValue))
  | .obj data =>
      match data.find? fun m => !parameters.contains m.1 with
      | some m => .error ⟨.typeError,
          cls ++ ".__init__() got an unexpected keyword argument '" ++ m.1 ++ "'"⟩
      | none =>
          match parameters.find? fun key => (data.lookup key).isNone with
          | some key => .error ⟨.typeError,
              cls ++ ".__init__() missing a required positional argument: '" ++ key ++ "'"⟩
          | none => .ok data
  | v => .error ⟨.typeError,
      cls ++ "() argument after ** must be a mapping, not " ++ typeName v⟩

/-- The record of a dictionary's members. -/
def TimestampAuthority.ofMembers (data : List (String × JsonValue)) : TimestampAuthority where
  tsaToken := getOrNull data "tsa_token"
  tsaProvider := getOrNull data "tsa_provider"
  tsaHashAlgorithm := getOrNull data "tsa_hash_algorithm"

/-- `TimestampAuthority.from_dict`. -/
def TimestampAuthority.fromDict (value : JsonValue) : Except PyError TimestampAuthority := do
  let data ← keywords "TimestampAuthority" ["tsa_token", "tsa_provider", "tsa_hash_algorithm"] value
  .ok (.ofMembers data)

/-- The record of a dictionary's members. -/
def ImmutableAnchor.ofMembers (data : List (String × JsonValue)) : ImmutableAnchor where
  chain := getOrNull data "chain"
  txHash := getOrNull data "tx_hash"
  blockNumber := getOrNull data "block_number"
  anchoredAt := getOrNull data "anchored_at"

/-- `ImmutableAnchor.from_dict`. -/
def ImmutableAnchor.fromDict (value : JsonValue) : Except PyError ImmutableAnchor := do
  let data ← keywords "ImmutableAnchor" ["chain", "tx_hash", "block_number", "anchored_at"] value
  .ok (.ofMembers data)

/-- A part that is read when it is there and truthy, and is `None` otherwise. -/
def optionalPart {α : Type} (value : JsonValue) (read : JsonValue → Except PyError α) :
    Except PyError (Option α) :=
  if value.truthy then (read value).map some else .ok none

/-- The record of a dictionary's members and of the two parts read before. -/
def Legal.ofMembers (data : List (String × JsonValue))
    (timestampAuthority : Option TimestampAuthority) (immutableAnchor : Option ImmutableAnchor) :
    Legal where
  jurisdictions := getOrNull data "jurisdictions"
  admissibilityStandard := getOrNull data "admissibility_standard"
  complianceFlags := getOrNull data "compliance_flags"
  timestampAuthority := timestampAuthority
  immutableAnchor := immutableAnchor

/-- `Legal.from_dict`. -/
def Legal.fromDict (value : JsonValue) : Except PyError Legal := do
  let tsa ← value.itemIfIn "timestamp_authority"
  let timestampAuthority ← optionalPart tsa TimestampAuthority.fromDict
  let anchor ← value.itemIfIn "immutable_anchor"
  let immutableAnchor ← optionalPart anchor ImmutableAnchor.fromDict
  let data ← value.asDict "get"
  .ok (.ofMembers data timestampAuthority immutableAnchor)

/-- The record of a dictionary's members. -/
def ProofGraph.ofMembers (data : List (String × JsonValue)) : ProofGraph where
  dependsOn := getOrNull data "depends_on"
  producedBy := getOrNull data "produced_by"
  causalDepth := getOrNull data "causal_depth"
  graphRootHash := getOrNull data "graph_root_hash"
  privacyTier := getOrNull data "privacy_tier"

/-- `ProofGraph.from_dict`. -/
def ProofGraph.fromDict (value : JsonValue) : Except PyError ProofGraph := do
  let data ← value.asDict "get"
  .ok (.ofMembers data)

/-- The record of a dictionary's members. -/
def TrustContext.ofMembers (data : List (String × JsonValue)) : TrustContext where
  proverId := getOrNull data "prover_id"
  proverVersion := getOrNull data "prover_version"
  trustScoreAtIssuance := getOrNull data "trust_score_at_issuance"
  circuitCertificationTier := getOrNull data "circuit_certification_tier"
  anomalyFlags := getOrNull data "anomaly_flags"

/-- `TrustContext.from_dict`. -/
def TrustContext.fromDict (value : JsonValue) : Except PyError TrustContext := do
  let data ← value.asDict "get"
  .ok (.ofMembers data)

/-- The commitments of a list, one after the other. -/
def dataCommitmentsFromDict (value : JsonValue) : Except PyError (List DataCommitment) := do
  let items ← value.iterate
  items.mapM DataCommitment.fromDict

/-- The keys that the dictionary must have. -/
def ProofBundle.required : List String :=
  ["vrl_version", "bundle_id", "issued_at", "ai_identity", "computation", "proof"]

/-- `ProofBundle.from_dict`. -/
def ProofBundle.fromDict (value : JsonValue) : Except PyError ProofBundle := do
  let data ← value.asDict "keys"
  requireKeys "bundle fields" required data
  if !(getOrNull data "vrl_version").isText "1.0" then
    .error ⟨.valueError,
      "Unsupported vrl_version: " ++ fmt.str (getOrNull data "vrl_version")⟩
  else do
    let aiIdentity ← AIIdentity.fromDict fmt (getOrNull data "ai_identity")
    let computation ← Computation.fromDict (getOrNull data "computation")
    let proof ← Proof.fromDict fmt (getOrNull data "proof")
    let dataCommitments ←
      optionalPart (getOrNull data "data_commitments") dataCommitmentsFromDict
    let legal ← optionalPart (getOrNull data "legal") Legal.fromDict
    let proofGraph ← optionalPart (getOrNull data "proof_graph") ProofGraph.fromDict
    let trustContext ← optionalPart (getOrNull data "trust_context") TrustContext.fromDict
    .ok {
      vrlVersion := getOrNull data "vrl_version"
      bundleId := getOrNull data "bundle_id"
      issuedAt := getOrNull data "issued_at"
      aiIdentity, computation, proof, dataCommitments, legal, proofGraph, trustContext }

end FromDict

end Vrl.Sdk.Python.Loaded

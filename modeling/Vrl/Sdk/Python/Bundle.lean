import Vrl.Lib.Json
import Vrl.Lib.PyStd

/-!
# Vrl.Sdk.Python.Bundle

Proof bundles as the Python SDK holds them (`sdk/python/vrl/bundle.py`,
`identity.py`), and the hashes over their parts (`hashing.py`).
-/

open TextCodec

namespace Vrl.Sdk.Python

/-! ### Data model -/

/-- `AIIdentity`. -/
structure AIIdentity where
  aiId : String
  modelName : String
  modelVersion : String
  providerId : String
  executionEnvironment : String
  providerSignature : Option String := none
  teeAttestationReport : Option String := none
  parentAiId : Option String := none
  deriving DecidableEq, Repr

/-- `Computation`. -/
structure Computation where
  circuitId : String
  circuitVersion : String
  circuitHash : String
  inputHash : String
  outputHash : String
  traceHash : String
  integrityHash : String
  deriving DecidableEq, Repr

/-- `Proof`. -/
structure Proof where
  proofSystem : String
  proofBytes : String
  publicInputs : List String
  verificationKeyId : String
  proofHash : String
  commitments : Option (List String) := none
  deriving DecidableEq, Repr

/-- `DataCommitment`. -/
structure DataCommitment where
  datasetId : String
  datasetVersion : String
  datasetHash : String
  providerId : String
  committedAt : String
  commitmentHash : String
  providerSignature : Option String := none
  deriving DecidableEq, Repr

/-- `TimestampAuthority`. -/
structure TimestampAuthority where
  tsaToken : String
  tsaProvider : String
  tsaHashAlgorithm : String
  deriving DecidableEq, Repr

/-- `ImmutableAnchor`. -/
structure ImmutableAnchor where
  chain : String
  txHash : String
  blockNumber : Int
  anchoredAt : String
  deriving DecidableEq, Repr

/-- `Legal`. -/
structure Legal where
  jurisdictions : Option (List String) := none
  admissibilityStandard : Option String := none
  complianceFlags : Option (List String) := none
  timestampAuthority : Option TimestampAuthority := none
  immutableAnchor : Option ImmutableAnchor := none
  deriving DecidableEq, Repr

/-- `ProofGraph`. -/
structure ProofGraph where
  dependsOn : Option (List String) := none
  producedBy : Option String := none
  causalDepth : Option Int := none
  graphRootHash : Option String := none
  privacyTier : Option String := none
  deriving DecidableEq, Repr

/-- `TrustContext`, the score known by its `repr`. -/
structure TrustContext where
  proverId : Option String := none
  proverVersion : Option String := none
  trustScoreAtIssuance : Option String := none
  circuitCertificationTier : Option String := none
  anomalyFlags : Option (List String) := none
  deriving DecidableEq, Repr

/-- `ProofBundle`. -/
structure ProofBundle where
  vrlVersion : String
  bundleId : String
  issuedAt : String
  aiIdentity : AIIdentity
  computation : Computation
  proof : Proof
  dataCommitments : Option (List DataCommitment) := none
  legal : Option Legal := none
  proofGraph : Option ProofGraph := none
  trustContext : Option TrustContext := none
  deriving DecidableEq, Repr

/-! ### Hashes -/

variable (std : PyStd)

/-- `canonical_json`. -/
def canonicalJson (obj : Json) : String := String.ofList (Json.sortedText asciiCode obj)

/-- `sha256`. -/
def sha256 (data : String) : String := std.hexdigest data

/-- `compute_integrity_hash`: the three hashes are concatenated without separator. -/
def computeIntegrityHash (inputHash outputHash traceHash : String) : String :=
  sha256 std (inputHash ++ outputHash ++ traceHash)

/-- `compute_proof_hash`. -/
def computeProofHash (circuitHash proofBytes : String) (publicInputs : List String)
    (proofSystem traceHash : String) : String :=
  let inputs := Json.arr (publicInputs.map .str)
  let publicInputsHash := sha256 std (canonicalJson inputs)
  sha256 std (canonicalJson (.obj [
    ("circuit_hash", .str circuitHash),
    ("proof_bytes", .str proofBytes),
    ("proof_system", .str proofSystem),
    ("public_inputs", inputs),
    ("public_inputs_hash", .str publicInputsHash),
    ("trace_hash", .str traceHash)]))

/-- `compute_commitment_hash`. -/
def computeCommitmentHash (datasetId datasetVersion datasetHash providerId committedAt : String) :
    String :=
  sha256 std (canonicalJson (.obj [
    ("committed_at", .str committedAt),
    ("dataset_hash", .str datasetHash),
    ("dataset_id", .str datasetId),
    ("dataset_version", .str datasetVersion),
    ("provider_id", .str providerId)]))

/-- The name space of bundle identifiers, `VRL_NAMESPACE_UUID`. -/
def vrlNamespaceUuid : Uuid := ⟨⟨0xd9ec1f3e2d2745d4af5fd8d5efcb7c1e, by decide⟩⟩

/-- `compute_bundle_id_from_integrity`. -/
def computeBundleIdFromIntegrity (integrityHash : String) : String :=
  String.ofList (std.uuid5 vrlNamespaceUuid integrityHash).text

end Vrl.Sdk.Python

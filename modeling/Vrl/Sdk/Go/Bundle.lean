import Vrl.Lib.GoJson
import Vrl.Lib.Hash

/-!
# Vrl.Sdk.Go.Bundle

Proof bundles as the Go SDK holds them (`sdk/go/vrl/types.go`), the hashes over
their parts (`hashing.go`) and the bundle identifier (`builder.go`).

A field without a value is the empty string, an empty slice or a nil pointer.
-/

open TextCodec

namespace Vrl.Sdk.Go

/-! ### Data model -/

/-- `AIIdentity`. -/
structure AIIdentity where
  aiId : String
  modelName : String
  modelVersion : String
  providerId : String
  executionEnvironment : String
  providerSignature : String := ""
  teeAttestationReport : String := ""
  parentAiId : String := ""
  deriving DecidableEq, Repr

/-- `Computation`. -/
structure Computation where
  circuitId : String
  circuitVersion : String
  circuitHash : String
  inputHash : String
  outputHash : String
  traceHash : String
  integrityHash : String
  deriving DecidableEq, Repr

/-- `Proof`. -/
structure Proof where
  proofSystem : String
  proofBytes : String
  publicInputs : List String
  verificationKeyId : String
  commitments : List String := []
  proofHash : String
  deriving DecidableEq, Repr

/-- `DataCommitment`. -/
structure DataCommitment where
  datasetId : String
  datasetVersion : String
  datasetHash : String
  providerId : String
  providerSignature : String := ""
  committedAt : String
  commitmentHash : String
  deriving DecidableEq, Repr

/-- `TimestampAuthority`. -/
structure TimestampAuthority where
  tsaToken : String
  tsaProvider : String
  tsaHashAlgorithm : String
  deriving DecidableEq, Repr

/-- `Legal`, as far as the verifier looks into it. -/
structure Legal where
  timestampAuthority : Option TimestampAuthority := none
  deriving DecidableEq, Repr

/-- `ProofGraph`, as far as the verifier looks into it. -/
structure ProofGraph where
  dependsOn : List String := []
  deriving DecidableEq, Repr

/-- `ProofBundle`. -/
structure ProofBundle where
  vrlVersion : String
  bundleId : String
  issuedAt : String
  aiIdentity : AIIdentity
  computation : Computation
  proof : Proof
  dataCommitments : List DataCommitment := []
  legal : Option Legal := none
  proofGraph : Option ProofGraph := none
  deriving DecidableEq, Repr

/-! ### Hashes -/

variable (sha : Sha256)

/-- `CanonicalJSON`, for values without numbers: what is marshalled is read back and
marshalled again with sorted keys. -/
def canonicalJson (v : Json) : String := String.ofList (Json.sortedText htmlSafeCode v)

/-- `SHA256Hex`. -/
def sha256Hex (input : String) : String := sha.hexdigest input

/-- `ComputeIntegrityHash`. -/
def computeIntegrityHash (inputHash outputHash traceHash : String) : String :=
  sha256Hex sha (inputHash ++ outputHash ++ traceHash)

/-- `ProofHashParams`. -/
structure ProofHashParams where
  circuitHash : String
  proofBytes : String
  publicInputs : List String
  proofSystem : String
  traceHash : String
  publicInputsHash : String
  deriving DecidableEq, Repr

/-- `ComputeProofHash`, for public inputs that are not a nil slice. -/
def computeProofHash (params : ProofHashParams) : String :=
  sha256Hex sha (canonicalJson (.obj [
    ("circuit_hash", .str params.circuitHash),
    ("proof_bytes", .str params.proofBytes),
    ("public_inputs", .arr (params.publicInputs.map .str)),
    ("proof_system", .str params.proofSystem),
    ("trace_hash", .str params.traceHash),
    ("public_inputs_hash", .str params.publicInputsHash)]))

/-- The members of a data commitment. The signature is left out when it is empty,
the commitment hash never is. -/
def DataCommitment.toJson (dc : DataCommitment) : Json :=
  .obj <| [("dataset_id", .str dc.datasetId),
      ("dataset_version", .str dc.datasetVersion),
      ("dataset_hash", .str dc.datasetHash),
      ("provider_id", .str dc.providerId)] ++
    (if dc.providerSignature = "" then [] else
      [("provider_signature", .str dc.providerSignature)]) ++
    [("committed_at", .str dc.committedAt),
      ("commitment_hash", .str dc.commitmentHash)]

/-- The proof hash that `Build` gives to a bundle. -/
def builtProofHash (bundle : ProofBundle) : String :=
  let publicInputsHash := sha256Hex sha (canonicalJson (.arr (bundle.proof.publicInputs.map .str)))
  computeProofHash sha {
    circuitHash := bundle.computation.circuitHash
    proofBytes := bundle.proof.proofBytes
    publicInputs := bundle.proof.publicInputs
    proofSystem := bundle.proof.proofSystem
    traceHash := bundle.computation.traceHash
    publicInputsHash }

/-! ### Bundle identifiers -/

/-- `vrlNamespace`. -/
def vrlNamespace : String := "d9ec1f3e-2d27-45d4-af5f-d8d5efcb7c1e"

/-- `uuidv5`: the first 16 bytes of a SHA-256 over the digits of the name space and the
name. There is none for a name space that does not have 32 digits. -/
def uuidv5 (nameSpace name : String) : Option String :=
  let nsClean := String.ofList (nameSpace.toList.filter (· != '-'))
  if nsClean.utf8ByteSize ≠ 32 then none
  else
    let digest := (sha.hexdigest (nsClean ++ name)).toList
    some (String.ofList (digest.take 8 ++ '-' :: ((digest.drop 8).take 4 ++ '-' ::
      ((digest.drop 12).take 4 ++ '-' :: ((digest.drop 16).take 4 ++ '-' ::
        (digest.drop 20).take 12)))))

end Vrl.Sdk.Go

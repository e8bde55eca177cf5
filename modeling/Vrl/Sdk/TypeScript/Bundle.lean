import Vrl.Lib.Hash
import Vrl.Lib.JsJson

/-!
# Vrl.Sdk.TypeScript.Bundle

Proof bundles as the TypeScript SDK holds them (`sdk/typescript/src/types.ts`), the
hashes over their parts (`hashing.ts`) and the bundle identifier (`builder.ts`).
-/

open TextCodec

namespace Vrl.Sdk.TypeScript

/-! ### Data model -/

/-- `AIIdentity`, as far as the verifier looks into it. -/
structure AIIdentity where
  aiId : String
  providerSignature : Option String := none
  deriving DecidableEq, Repr

/-- `Computation`. -/
structure Computation where
  circuitId : String
  circuitVersion : String
  circuitHash : String
  inputHash : String
  outputHash : String
  traceHash : String
  integrityHash : String
  deriving DecidableEq, Repr

/-- `Proof`. -/
structure Proof where
  proofSystem : String
  proofBytes : String
  publicInputs : List String
  verificationKeyId : String
  proofHash : String
  commitments : Option (List String) := none
  deriving DecidableEq, Repr

/-- `DataCommitment`. -/
structure DataCommitment where
  datasetId : String
  datasetVersion : String
  datasetHash : String
  providerId : String
  committedAt : String
  commitmentHash : String
  providerSignature : Option String := none
  deriving DecidableEq, Repr

/-- `TimestampAuthority`. -/
structure TimestampAuthority where
  tsaToken : String
  tsaProvider : String
  tsaHashAlgorithm : String
  deriving DecidableEq, Repr

/-- `Legal`, as far as the verifier looks into it. -/
structure Legal where
  timestampAuthority : Option TimestampAuthority := none
  deriving DecidableEq, Repr

/-- `ProofGraph`, as far as the verifier looks into it. -/
structure ProofGraph where
  dependsOn : Option (List String) := none
  deriving DecidableEq, Repr

/-- `ProofBundle`. -/
structure ProofBundle where
  vrlVersion : String
  bundleId : String
  issuedAt : String
  aiIdentity : AIIdentity
  computation : Computation
  proof : Proof
  dataCommitments : Option (List DataCommitment) := none
  legal : Option Legal := none
  proofGraph : Option ProofGraph := none
  deriving DecidableEq, Repr

/-! ### Hashes -/

variable (sha : Sha256)

/-- `canonicalJson`, for values without numbers. -/
def canonicalJson (obj : Json) : String := String.ofList (Json.stringifySorted obj)

/-- `sha256`. -/
def sha256 (input : String) : String := sha.hexdigest input

/-- `computeIntegrityHash`. -/
def computeIntegrityHash (inputHash outputHash traceHash : String) : String :=
  sha256 sha (inputHash ++ outputHash ++ traceHash)

/-- `computeProofHash`. -/
def computeProofHash (circuitHash proofBytes : String) (publicInputs : List String)
    (proofSystem traceHash : String) : String :=
  let inputs := Json.arr (publicInputs.map .str)
  let publicInputsHash := sha256 sha (canonicalJson inputs)
  sha256 sha (canonicalJson (.obj [
    ("circuit_hash", .str circuitHash),
    ("proof_bytes", .str proofBytes),
    ("proof_system", .str proofSystem),
    ("public_inputs", inputs),
    ("public_inputs_hash", .str publicInputsHash),
    ("trace_hash", .str traceHash)]))

/-- `computeCommitmentHash`. -/
def computeCommitmentHash (datasetId datasetVersion datasetHash providerId committedAt : String) :
    String :=
  sha256 sha (canonicalJson (.obj [
    ("committed_at", .str committedAt),
    ("dataset_hash", .str datasetHash),
    ("dataset_id", .str datasetId),
    ("dataset_version", .str datasetVersion),
    ("provider_id", .str providerId)]))

/-! ### Bundle identifiers -/

/-- `Buffer.from(text, "hex")`: the bytes up to the first pair that is not hexadecimal. -/
def hexBytes : List Char → List Nat
  | c :: d :: cs =>
      match hexVal c.toLower, hexVal d.toLower with
      | some hi, some lo => (16 * hi + lo) :: hexBytes cs
      | _, _ => []
  | _ => []

/-- The loop of `generateBundleId` from byte number `i` on, which sets a hyphen after
some of the bytes. -/
def appendBytes : Nat → List Nat → List Char
  | _, [] => []
  | i, byte :: bytes =>
      hexFixed 2 byte ++ (if i = 3 ∨ i = 5 ∨ i = 7 ∨ i = 9 then ['-'] else []) ++
        appendBytes (i + 1) bytes

/-- `generateBundleId`: the first 16 bytes of the integrity hash itself. -/
def generateBundleId (integrityHash : String) : String :=
  String.ofList (appendBytes 0 ((hexBytes (integrityHash.toList.take 32)).take 16))

/-- The groups of digits of a UUID with hyphens between them. -/
def matchesGroups : List Nat → List Char → Bool
  | [], cs => cs = []
  | [n], cs => cs.length = n && cs.all isHexAnyCase
  | n :: m :: ns, cs =>
      (cs.take n).length = n && (cs.take n).all isHexAnyCase &&
        match cs.drop n with
        | '-' :: rest => matchesGroups (m :: ns) rest
        | _ => false

/-- `uuidRegex.test(text)`. -/
def uuidRegex (text : String) : Bool := matchesGroups [8, 4, 4, 4, 12] text.toList

example : uuidRegex "d9ec1f3e-2d27-45d4-af5f-d8d5efcb7c1e" = true := by decide +kernel

end Vrl.Sdk.TypeScript

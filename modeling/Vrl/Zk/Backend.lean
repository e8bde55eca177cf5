import Vrl.Zk.PlonkAdapter

/-!
# Vrl.Zk.Backend

The native proving backend as the server calls it (`zk/rust_bridge.py`), and the keys
that it keeps (`zk/keys/manager.py`).

The backend is a program of its own and left abstract. Each command is a function of
what it is sent; for a verification that is the instance values and the bytes of the
proof.
-/

open TextCodec

namespace Vrl.Zk

/-- `BACKEND_VERSION`. -/
def backendVersion : String := "halo2-plonk-pasta-v1"

/-- `KeyMaterial`. -/
structure KeyMaterial where
  circuitHash : String
  provingKeyId : String
  verificationKeyId : String
  paramsK : Int
  version : String

/-- What the command `prove` is sent, less the directory of the keys. -/
structure ProveRequest where
  inputHash : String
  outputHash : String
  circuitHash : String
  traceHash : String
  publicInputsHash : String
  witnessHash : String
  aCol : List Int
  bCol : List Int
  cCol : List Int
  instanceValues : List Int

/-- The response of the command `prove`. -/
structure ProveResponse where
  proofBytesHex : String
  commitments : List String
  metadata : List (String × String)

/-- The response of the command `verify`. -/
structure VerifyResponse where
  checks : List String
  metadata : List (String × String)
  valid : Bool
  reason : Option String

/-- The commands of the backend, and the manifest of the verification key. -/
structure Backend where
  compile : PlonkCircuit → Except PyError KeyMaterial
  readVerificationManifest : KeyMaterial → Except PyError String
  prove : ProveRequest → Except PyError ProveResponse
  verify : List Int → String → Except PyError VerifyResponse

variable (std : PyStd) (backend : Backend)

/-- `KeyManager.ensure_compiled`. -/
def ensureCompiled (circuit : PlonkCircuit) : Except PyError KeyMaterial := backend.compile circuit

/-- `KeyManager.derive_verification_key`. -/
def deriveVerificationKey (circuitHash : String) (circuit : PlonkCircuit) :
    Except PyError KeyMaterial :=
  if circuit.circuitHash = circuitHash then ensureCompiled backend circuit
  else
    .error ⟨.valueError, "Circuit hash mismatch: expected " ++ circuit.circuitHash ++ ", got " ++
      circuitHash⟩

@[simp] theorem deriveVerificationKey_self (circuit : PlonkCircuit) :
    deriveVerificationKey backend circuit.circuitHash circuit = backend.compile circuit :=
  if_pos rfl

/-! ### A backend that computes -/

/-- The instance values as a proof writes them down. -/
def instanceTranscript (instanceValues : List Int) : String :=
  String.ofList (hexEncode (instanceValues.flatMap fun v => intText v ++ [',']))

/-- A stand-in that computes: a proof is a transcript of the instance values, and is verified
against them. -/
def transcriptBackend : Backend where
  compile circuit := .ok {
    circuitHash := circuit.circuitHash
    provingKeyId := "proving-key"
    verificationKeyId := "verification-key"
    paramsK := 8
    version := backendVersion }
  readVerificationManifest keyMaterial := .ok keyMaterial.verificationKeyId
  prove request := .ok {
    proofBytesHex := instanceTranscript request.instanceValues
    commitments := []
    metadata := [("verification_key_id", "verification-key")] }
  verify instanceValues proofBytesHex := .ok {
    checks := ["transcript"]
    metadata := []
    valid := proofBytesHex == instanceTranscript instanceValues
    reason := none }

/-- Transcripts differ where the instance values do. -/
theorem instanceTranscript_injective {values values' : List Int}
    (h : instanceTranscript values = instanceTranscript values') : values = values' := by
  have htext := hexEncode_injective (String.ofList_injective h)
  clear h
  induction values generalizing values' with
  | nil =>
      cases values' with
      | nil => rfl
      | cons v values' =>
          have hlength := congrArg List.length htext
          simp at hlength
  | cons v values ih =>
      cases values' with
      | nil =>
          have hlength := congrArg List.length htext
          simp at hlength
      | cons w values' =>
          rw [List.flatMap_cons, List.flatMap_cons, List.append_assoc, List.append_assoc] at htext
          have hcomma : ∀ cs : List Char, NoDigitHead ([','] ++ cs) :=
            fun cs => noDigitHead_cons (by decide)
          obtain ⟨hvw, hrest⟩ := intText_append_inj (hcomma _) (hcomma _) htext
          rw [hvw, ih (List.append_cancel_left hrest)]

end Vrl.Zk

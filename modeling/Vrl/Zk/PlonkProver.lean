import Vrl.Zk.Backend
import Vrl.Zk.WitnessGenerator

/-!
# Vrl.Zk.PlonkProver

Proofs of the import circuit (`zk/provers/plonk_prover.py`).
-/

open Pydantic

namespace Vrl.Zk

variable (std : PyStd) (backend : Backend)

/-- `_PROOF_SYSTEM`, which is also `_SUPPORTED_PROOF_SYSTEM` of the verifier. -/
def proofSystem : String := "plonk"

/-- `serialize_public_inputs`. -/
def serializePublicInputs (publicInputs : List (String × String)) : List String :=
  (Json.sortMembers publicInputs).map fun m => m.1 ++ "=" ++ m.2

/-- `_assert_witness_trace_match`. -/
def assertWitnessTraceMatch (witness : Witness std) (expectedTraceHash : String) :
    Except PyError Unit :=
  if witness.traceHash = expectedTraceHash then .ok ()
  else
    .error ⟨.valueError, "witness_artifact.trace_hash '" ++ witness.traceHash ++
      "' != expected trace_hash '" ++ expectedTraceHash ++ "'"⟩

/-- `_final_proof_hash`. -/
def finalProofHash (proofBlobHex : String) (commitments publicInputs : List String)
    (circuitHash traceHash publicInputsHash : String) : Except PyError String :=
  canonicalHash std (.dict [("proof_bytes", .str proofBlobHex),
    ("commitments", ofStrings commitments), ("public_inputs", ofStrings publicInputs),
    ("proving_system", .str proofSystem), ("circuit_hash", .str circuitHash),
    ("trace_hash", .str traceHash), ("public_inputs_hash", .str publicInputsHash)])

/-- The metadata of a proof. What the backend reports is preferred over what is known of
its keys. -/
def proofMetadata (circuit : PlonkCircuit) (keyMaterial : KeyMaterial) (witness : Witness std)
    (traceHash publicInputsHash : String) (backendMetadata : List (String × String)) :
    List (String × String) :=
  let reported (key default : String) := (key, (backendMetadata.lookup key).getD default)
  [reported "backend_version" backendVersion, ("backend", "halo2-rust-subprocess"),
    ("circuit", circuit.version), ("circuit_hash", circuit.circuitHash), ("trace_hash", traceHash),
    ("public_inputs_hash", publicInputsHash),
    reported "params_k" (String.ofList (TextCodec.intText keyMaterial.paramsK)),
    reported "proving_key_id" keyMaterial.provingKeyId,
    reported "verification_key_id" keyMaterial.verificationKeyId,
    ("trace_artifact_id", witness.traceArtifactId), ("witness_hash", witness.witnessHash)]

/-- `build_plonk_proof`. -/
def buildPlonkProof (witness : Witness std) (traceHash producedBy : String) (cycle : Int) :
    Except PyError (Proof std) := do
  assertWitnessTraceMatch std witness traceHash
  let circuit ← compileCircuit std
  let keyMaterial ← ensureCompiled backend circuit
  let assignment ← generateAssignment std witness
  let landedCostFp ← getItem assignment.wireMap "landed_cost_fp"
  let instanceValues ← buildInstanceValues landedCostFp traceHash circuit.circuitHash
    assignment.publicInputsHash
  let response ← backend.prove {
    inputHash := witness.inputHash
    outputHash := witness.outputHash
    circuitHash := circuit.circuitHash
    traceHash
    publicInputsHash := assignment.publicInputsHash
    witnessHash := witness.witnessHash
    aCol := assignment.aCol
    bCol := assignment.bCol
    cCol := assignment.cCol
    instanceValues }
  let publicInputs := serializePublicInputs witness.publicInputs
  let finalProof ← finalProofHash std response.proofBytesHex response.commitments publicInputs
    circuit.circuitHash traceHash assignment.publicInputsHash
  buildProofArtifact std {
    proofSystem
    circuitArtifactId := "circuit_" ++ String.ofList (circuit.circuitHash.toList.take 24)
    witnessArtifactId := witness.artifactId
    commitments := response.commitments
    publicInputs
    metadata := proofMetadata std circuit keyMaterial witness traceHash
      assignment.publicInputsHash response.metadata
    proofBlobHex := response.proofBytesHex
    inputHash := witness.inputHash
    outputHash := witness.outputHash
    traceHash
    finalProof } producedBy cycle

end Vrl.Zk

import Vrl.Core.Engine
import Vrl.Lib.PyBytes

/-!
# Vrl.Core.FastPath

The fast-path proofs (`core/zk_interface.py`): eight digests of the canonical text of a witness,
and verification by computing them again.

A witness may carry values of any kind, so `FastPathWitness` is wider than the `ZKWitness` that the
engine makes. What `str` makes of a collection is left abstract (`StrOf`).
-/

open TextCodec Pydantic

namespace Vrl

/-! ### Witnesses -/

/-- `str` of a list or a dictionary, which shows the representations of its elements. -/
structure StrOf where
  collectionText : PyVal → Except PyError String

/-- `str(value)`. -/
def StrOf.str (strOf : StrOf) : PyVal → Except PyError String
  | .int i => if Json.isLongInt i then .error longIntError else .ok (String.ofList (intText i))
  | value =>
      match value.scalarText with
      | some text => .ok text
      | none => strOf.collectionText value

/-- A step of a trace: a model, or a value that has no `model_dump`. -/
inductive WitnessStep where
  | model (step : TraceStep)
  | plain (value : PyVal)

/-- The value of a step. -/
def WitnessStep.dump : WitnessStep → PyVal
  | .model step => step.payload
  | .plain value => value

/-- `ZKWitness`, with members of all the types that it declares. -/
structure FastPathWitness where
  publicInputs : List (String × PyVal)
  privateInputs : List (String × PyVal)
  traceSteps : List WitnessStep
  inputHash : String
  outputHash : String
  traceHash : String

/-- `ZKProof`. -/
structure ZKProof where
  proofBytes : PyBytes
  publicInputs : List (String × PyVal)
  verificationKeyId : String

/-! ### Proofs -/

variable (std : PyStd) (strOf : StrOf)

/-- `normalized_public_inputs`. -/
def normalizedPublicInputs (publicInputs : List (String × PyVal)) :
    Except PyError (List (String × String)) :=
  sequenceMembers ((Json.sortMembers publicInputs).map fun m => (m.1, strOf.str m.2))

/-- The dictionary whose canonical text is `canonical_witness`. -/
def FastPathWitness.members (w : FastPathWitness) (publicInputs : List (String × String)) :
    List (String × PyVal) :=
  [("public_inputs", ofStringDict publicInputs),
    ("private_inputs", .dict (Json.sortMembers w.privateInputs)),
    ("trace_steps", .list (w.traceSteps.map WitnessStep.dump)), ("input_hash", .str w.inputHash),
    ("output_hash", .str w.outputHash), ("trace_hash", .str w.traceHash)]

/-- The digits of the eight digests of a witness. -/
def proofDigits (canonicalWitness : String) : List Char :=
  (List.range 8).flatMap fun index =>
    (sha256Hex std (canonicalWitness ++ ":" ++ String.ofList (natText index))).toList

/-- The `verification_key_id` of a trace. -/
def fastPathKeyId (traceHash : String) : String := sha256Hex std ("fast-path-vk:" ++ traceHash)

/-- `generate_zk_proof`. -/
def generateZkProof (witness : FastPathWitness) : Except PyError ZKProof := do
  let publicInputs ← normalizedPublicInputs strOf witness.publicInputs
  let canonicalWitness ← checkedCanonicalJson std (.dict (witness.members publicInputs))
  let proofBytes ← PyBytes.fromHex (String.ofList (proofDigits std canonicalWitness))
  return {
    proofBytes
    publicInputs := publicInputs.map fun m => (m.1, .str m.2)
    verificationKeyId := fastPathKeyId std witness.traceHash }

/-- `verify_zk_proof`. -/
def verifyZkProof (proof : ZKProof) (witness : FastPathWitness) : Except PyError Bool := do
  if proof.proofBytes = [] then
    .error ⟨.valueError, "verify_zk_proof: proof_bytes is empty - refusing to verify"⟩
  else
    let recomputed ← generateZkProof std strOf witness
    constantTimeEqual (String.ofList proof.proofBytes.hex) (String.ofList recomputed.proofBytes.hex)

end Vrl

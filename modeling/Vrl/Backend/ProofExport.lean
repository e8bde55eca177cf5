import Vrl.Backend.TraceAdapter
import Vrl.Zk.PlonkVerifier

/-!
# Vrl.Backend.ProofExport

Proof bundles: a request, the hashes of its calculation, and a proof
(`backend/proof_export.py`).
-/

open Pydantic

namespace Vrl

open Zk

variable (std : PyStd) (backend : Backend)

/-! ### Export -/

/-- The computed fields of a proof, which a bundle leaves out. -/
def computedFields : List String := ["proof_bytes", "proving_system", "circuit_hash"]

/-- `_verification_key_hash`. -/
def verificationKeyHash (circuitHash : String) : Except PyError String := do
  let verificationKey ← deriveVerificationKey backend circuitHash (← compileCircuit std)
  let manifest ← backend.readVerificationManifest verificationKey
  return sha256Hex std manifest

/-- `model_dump(mode="json")` of a request: amounts are written as text. -/
def ImportCalculationRequest.jsonPayload (r : ImportCalculationRequest) : List (String × PyVal) :=
  let text (d : PyDecimal) : PyVal := .str (String.ofList d.text)
  [("hs_code", .str r.hsCode), ("country_of_origin", .str r.countryOfOrigin),
    ("customs_value", text r.customsValue.1), ("freight", text r.freight.1),
    ("insurance", text r.insurance.1), ("quantity", .int r.quantity.1),
    ("shipping_mode", .str r.shippingMode.text)]

/-- `export_proof_bundle`. -/
def exportProofBundle (inputPayload : PyVal) (packet : Option (DeterministicTracePacket std))
    (proof : Option (Proof std)) : Except PyError (List (String × PyVal)) := do
  let packet ← packet.elim (buildTracePacket std inputPayload "proof_export" 1) .ok
  let proof ← proof.elim (buildPlonkProof std backend packet.witnessArtifact
    packet.traceArtifact.traceHash "proof_export" 1) .ok
  let circuit ← compileCircuit std
  let verificationKeyHash ← verificationKeyHash std backend circuit.circuitHash
  return [("input", .dict packet.request.jsonPayload),
    ("input_hash", .str packet.response.integrity.inputHash),
    ("output_hash", .str packet.response.integrity.outputHash),
    ("trace_hash", .str packet.traceArtifact.traceHash),
    ("circuit_hash", .str circuit.circuitHash),
    ("verification_key_hash", .str verificationKeyHash), ("proof", .dict (proof.dump std))]

/-! ### Verification -/

/-- What `verify_proof_bundle` returns. -/
structure BundleVerification where
  valid : Bool
  reason : String
  checks : List String
  inputHash : String := ""
  traceHash : String := ""
  circuitHash : String := ""
  verificationKeyHash : String := ""

/-- The proof of a bundle without its computed fields. -/
def popComputedFields : PyVal → Except PyError PyVal
  | .dict members => .ok (.dict (members.filter fun m => !computedFields.contains m.1))
  | .list _ => .error ⟨.typeError, "pop expected at most 1 argument, got 2"⟩
  | value => .error ⟨.attributeError, "'" ++ value.typeName ++ "' object has no attribute 'pop'"⟩

/-- The proof of a bundle. -/
def bundleProof (bundle : List (String × PyVal)) : Except PyError (Proof std) := do
  Proof.modelValidate std (← popComputedFields (← getItem bundle "proof"))

/-- `constant_time_equal(bundle[key], expected)`. -/
def bundleHashEqual (bundle : List (String × PyVal)) (key expected : String) :
    Except PyError Bool := do
  match ← getItem bundle key with
  | .str s => constantTimeEqual s expected
  | value =>
      .error ⟨.typeError, "unsupported operand types(s) or combination of types: '" ++
        value.typeName ++ "' and 'str'"⟩

/-- The checks of the hashes of a bundle: the result of each, under its name. -/
def bundleHashChecks (bundle : List (String × PyVal)) :
    List (String × String) → Except PyError (List (String × Bool))
  | [] => .ok []
  | (key, expected) :: hashes => do
      let equal ← bundleHashEqual bundle key expected
      let rest ← bundleHashChecks bundle hashes
      return (key, equal) :: rest

/-- The name of a check in the report. -/
def checkName (result : String × Bool) : String :=
  result.1 ++ if result.2 then "_ok" else "_mismatch"

/-- The hashes that a bundle has to carry. -/
def expectedHashes (packet : DeterministicTracePacket std) (circuitHash vkHash : String) :
    List (String × String) :=
  [("input_hash", packet.response.integrity.inputHash),
    ("output_hash", packet.response.integrity.outputHash),
    ("trace_hash", packet.traceArtifact.traceHash), ("circuit_hash", circuitHash),
    ("verification_key_hash", vkHash)]

/-- The body of `verify_proof_bundle`. -/
def verifyBundleBody (bundle : List (String × PyVal)) : Except PyError BundleVerification := do
  let inputPayload ← getItem bundle "input"
  let packet ← buildTracePacket std inputPayload "proof_bundle_verify" 1
  let circuit ← compileCircuit std
  let vkHash ← verificationKeyHash std backend circuit.circuitHash
  let proof ← bundleProof std bundle
  let results ← bundleHashChecks bundle (expectedHashes std packet circuit.circuitHash vkHash)
  let report (valid : Bool) (reason : String) (checks : List String) : BundleVerification :=
    { valid, reason, checks := results.map checkName ++ checks
      inputHash := packet.response.integrity.inputHash
      traceHash := packet.traceArtifact.traceHash
      circuitHash := circuit.circuitHash
      verificationKeyHash := vkHash }
  if results.all (·.2) then
    let verification ← verifyPlonkProof std backend proof "proof_bundle_verify" 1
    if verification.status = .valid then
      return report true "bundle verified successfully" verification.checks
    else return report false verification.reason verification.checks
  else return report false "bundle hash binding mismatch" []

/-- `verify_proof_bundle`. -/
def verifyProofBundle (bundle : List (String × PyVal)) : BundleVerification :=
  match verifyBundleBody std backend bundle with
  | .ok report => report
  | .error e =>
      { valid := false, reason := "bundle verification failed: " ++ e.message
        checks := ["bundle_validation_error"] }

end Vrl

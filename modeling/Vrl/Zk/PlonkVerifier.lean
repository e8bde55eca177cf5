import Vrl.Lib.Checked
import Vrl.Zk.PlonkProver

/-!
# Vrl.Zk.PlonkVerifier

Verification of a proof on its own (`zk/verifiers/plonk_verifier.py`): the proof is
held against the circuit, against its own members, and against the backend.
-/

open Checked

namespace Vrl.Zk

variable (std : PyStd) (backend : Backend)

/-- `_VERIFIER_BACKEND`. -/
def verifierBackend : String := "halo2-plonk-pasta-v1-verifier"

/-! ### Public inputs -/

/-- `entry.split("=", 1)`, for an entry with a non-empty key. -/
def parseEntry (entry : String) : Except PyError (String × String) :=
  let key := entry.toList.takeWhile (· ≠ '=')
  match entry.toList.dropWhile (· ≠ '=') with
  | [] => .error ⟨.valueError, "invalid public input entry: '" ++ entry ++ "'"⟩
  | _ :: value =>
      if key = [] then .error ⟨.valueError, "invalid public input key: '" ++ entry ++ "'"⟩
      else .ok (String.ofList key, String.ofList value)

/-- The entries as a dictionary: a later entry replaces an earlier one. -/
def parseEntries (publicInputs : List (String × String)) :
    List String → Except PyError (List (String × String))
  | [] => .ok publicInputs
  | entry :: entries => do
      let (key, value) ← parseEntry entry
      parseEntries (setItem publicInputs key value) entries

/-- `_parse_public_inputs`. -/
def parsePublicInputs (entries : List String) : Except PyError (List (String × String)) := do
  return Json.sortMembers (← parseEntries [] entries)

/-! ### Verification -/

/-- Why a proof is refused: the reason, the name of the failed check, and what is added to
the metadata. -/
structure Refusal where
  reason : String
  check : String
  metadata : List (String × String) := []

/-- `{**left, **right}`. -/
def merge (left right : List (String × String)) : List (String × String) :=
  right.foldl (fun members m => setItem members m.1 m.2) left

/-- `metadata.get(key, "")`. -/
def Proof.getMetadata (proof : Proof std) (key : String) : String :=
  (proof.metadata.lookup key).getD ""

/-- The checks of `verify_plonk_proof`, up to the response of the backend. -/
def verifyChecks (proof : Proof std) : Checked Refusal VerifyResponse := do
  let publicInputs ← lift (parsePublicInputs proof.publicInputs)
  passed "public_inputs_parse_ok"
  let landedCost ← demand (publicInputs.lookup "landed_cost")
    { reason := "missing landed_cost public input"
      check := "landed_cost_public_input_missing" }
  let circuit ← lift (compileCircuit std)
  passed "circuit_compile_ok"
  require (proof.getMetadata std "circuit_hash" == circuit.circuitHash &&
      proof.circuitHash std == circuit.circuitHash)
    { reason := "circuit_hash binding mismatch"
      check := "circuit_hash_binding_mismatch"
      metadata := [("expected_circuit_hash", circuit.circuitHash)] }
    "circuit_hash_binding_ok"
  require ((proof.metadata.lookup "trace_hash").getD proof.traceHash == proof.traceHash)
    { reason := "trace_hash metadata mismatch"
      check := "trace_hash_binding_mismatch" }
    "trace_hash_binding_ok"
  let publicInputsHash ← lift (canonicalPublicInputsHash std publicInputs)
  let hashesEqual ← lift
    (constantTimeEqual publicInputsHash (proof.getMetadata std "public_inputs_hash"))
  require hashesEqual
    { reason := "public_inputs_hash binding mismatch"
      check := "public_inputs_hash_binding_mismatch"
      metadata := [("expected_public_inputs_hash", publicInputsHash)] }
    "public_inputs_hash_binding_ok"
  let expectedFinalProof ← lift (finalProofHash std proof.proofBlobHex proof.commitments
    proof.publicInputs circuit.circuitHash proof.traceHash publicInputsHash)
  let finalProofsEqual ← lift (constantTimeEqual expectedFinalProof proof.finalProof)
  require finalProofsEqual
    { reason := "final_proof binding mismatch"
      check := "final_proof_binding_mismatch" }
    "final_proof_binding_ok"
  let verificationKey ← lift (deriveVerificationKey backend circuit.circuitHash circuit)
  require (proof.getMetadata std "verification_key_id" == "" ||
      proof.getMetadata std "verification_key_id" == verificationKey.verificationKeyId)
    { reason := "verification_key binding mismatch"
      check := "verification_key_binding_mismatch"
      metadata := [("expected_verification_key_id", verificationKey.verificationKeyId)] }
    "verification_key_binding_ok"
  let landedCostFp ← lift (toFixedPoint landedCost)
  let instanceValues ← lift
    (buildInstanceValues landedCostFp proof.traceHash circuit.circuitHash publicInputsHash)
  let response ← lift (backend.verify instanceValues proof.proofBlobHex)
  passedAll response.checks
  require response.valid
    { reason := response.reason.getD "Halo2 verification failed"
      check := "halo2_verification_failed"
      metadata := response.metadata }
    "halo2_verification_ok"
  return response

/-- `_invalid_result`. -/
def invalidResult (proof : Proof std) (reason : String) (checks : List String)
    (metadata : List (String × String)) (producedBy : String) (cycle : Int) :
    Except PyError VerificationResult :=
  buildVerificationArtifact std proof.artifactId verifierBackend .invalid reason checks metadata
    producedBy cycle

/-- `verify_plonk_proof`. -/
def verifyPlonkProof (proof : Proof std) (producedBy : String) (cycle : Int) :
    Except PyError VerificationResult :=
  let metadata := [("proof_system", proof.proofSystem),
    ("circuit_hash", proof.getMetadata std "circuit_hash")]
  let invalid (reason : String) (checks : List String) (metadata : List (String × String)) :=
    invalidResult std proof reason checks metadata producedBy cycle
  if proof.proofSystem ≠ proofSystem then
    invalid ("unsupported proof_system: '" ++ proof.proofSystem ++ "'")
      ["proof_system_check_failed"] metadata
  else
    match verifyChecks std backend proof [] with
    | .ok (response, checks) =>
        buildVerificationArtifact std proof.artifactId verifierBackend .valid
          (response.reason.getD "Halo2 proof verified") checks (merge metadata response.metadata)
          producedBy cycle
    | .error ⟨checks, .inl refusal⟩ =>
        invalid refusal.reason (checks ++ [refusal.check]) (merge metadata refusal.metadata)
    | .error ⟨checks, .inr e⟩ =>
        invalid ("verification backend error: " ++ e.message)
          (checks ++ ["verification_backend_error"]) metadata

/-! ### What a valid proof meets -/

/-- The conditions under which the checks of a proof go through, with what the backend
answers. -/
inductive Passes (proof : Proof std) : VerifyResponse → Prop where
  | intro {publicInputs : List (String × String)} {landedCost publicInputsHash finalProof : String}
      {circuit : PlonkCircuit} {key : KeyMaterial} {landedCostFp : Int}
      {instanceValues : List Int} {response : VerifyResponse}
      (hparse : parsePublicInputs proof.publicInputs = .ok publicInputs)
      (hcost : publicInputs.lookup "landed_cost" = some landedCost)
      (hcircuit : compileCircuit std = .ok circuit)
      (hcircuitHash : proof.getMetadata std "circuit_hash" = circuit.circuitHash)
      (htrace : (proof.metadata.lookup "trace_hash").getD proof.traceHash = proof.traceHash)
      (hinputs : canonicalPublicInputsHash std publicInputs = .ok publicInputsHash)
      (hinputsEq : constantTimeEqual publicInputsHash
        (proof.getMetadata std "public_inputs_hash") = .ok true)
      (hfinal : finalProofHash std proof.proofBlobHex proof.commitments proof.publicInputs
        circuit.circuitHash proof.traceHash publicInputsHash = .ok finalProof)
      (hfinalEq : constantTimeEqual finalProof proof.finalProof = .ok true)
      (hkey : backend.compile circuit = .ok key)
      (hkeyId : proof.getMetadata std "verification_key_id" = "" ∨
        proof.getMetadata std "verification_key_id" = key.verificationKeyId)
      (hfp : toFixedPoint landedCost = .ok landedCostFp)
      (hinstance : buildInstanceValues landedCostFp proof.traceHash circuit.circuitHash
        publicInputsHash = .ok instanceValues)
      (hverify : backend.verify instanceValues proof.proofBlobHex = .ok response)
      (hvalid : response.valid = true) : Passes proof response

/-- The proof is valid on its own. -/
def Proof.IsValid (proof : Proof std) : Prop :=
  proof.proofSystem = proofSystem ∧ ∃ response, Passes std backend proof response

section Spec

variable {proof : Proof std} {response : VerifyResponse}

theorem verifyChecks_of_passes (h : Passes std backend proof response) :
    ∃ checks, verifyChecks std backend proof [] = .ok (response, checks) := by
  obtain ⟨hparse, hcost, hcircuit, hcircuitHash, htrace, hinputs, hinputsEq, hfinal, hfinalEq,
    hkey, hkeyId, hfp, hinstance, hverify, hvalid⟩ := h
  have hcomputed : proof.circuitHash std = proof.getMetadata std "circuit_hash" := rfl
  have hkeyIdEq : ∀ {a b c : String}, a = b ∨ a = c → (a == b || a == c) = true := by
    simp
  simp only [verifyChecks, hparse, lift_ok_bind, passed_bind, hcost, demand_some_bind,
    hcircuit, hcomputed, hcircuitHash, beq_self_eq_true, Bool.and_self, require_true_bind, htrace, hinputs,
    hinputsEq, hfinal, hfinalEq, deriveVerificationKey_self, hkey, hkeyIdEq hkeyId, hfp, hinstance,
    hverify, passedAll_bind, hvalid]
  exact ⟨_, rfl⟩

theorem passes_of_verifyChecks {checks : List String}
    (h : verifyChecks std backend proof [] = .ok (response, checks)) :
    Passes std backend proof response := by
  unfold verifyChecks at h
  simp only [lift_bind_eq_ok_iff, demand_bind_eq_ok_iff, require_bind_eq_ok_iff, passed_bind,
    passedAll_bind, deriveVerificationKey_self, pure_run] at h
  obtain ⟨publicInputs, hparse, landedCost, hcost, circuit, hcircuit, hcircuitHash, htrace,
    publicInputsHash, hinputs, hashesEqual, hinputsEq, rfl, finalProof, hfinal, finalsEqual,
    hfinalEq, rfl, key, hkey, hkeyId, landedCostFp, hfp, instanceValues, hinstance, response',
    hverify, hvalid, hresponse⟩ := h
  cases hresponse
  simp only [Bool.and_eq_true, Bool.or_eq_true, beq_iff_eq] at hcircuitHash htrace hkeyId
  exact .intro hparse hcost hcircuit hcircuitHash.1 htrace hinputs hinputsEq hfinal hfinalEq hkey
    hkeyId hfp hinstance hverify hvalid

/-- **A proof verifies exactly if it is valid on its own.** -/
theorem verifyPlonkProof_status (proof : Proof std) (producedBy : String) (cycle : Int) :
    ∃ result, verifyPlonkProof std backend proof producedBy cycle = .ok result ∧
      (result.status = .valid ↔ proof.IsValid std backend) := by
  have hinvalid : ∀ reason checks metadata, ¬ proof.IsValid std backend →
      ∃ result, invalidResult std proof reason checks metadata producedBy cycle = .ok result ∧
        (result.status = .valid ↔ proof.IsValid std backend) := by
    intro reason checks metadata hnot
    obtain ⟨result, hresult, hstatus⟩ := buildVerificationArtifact_ok std proof.artifactId
      verifierBackend .invalid reason checks metadata producedBy cycle
    exact ⟨result, hresult, iff_of_false (by simp [hstatus]) hnot⟩
  unfold verifyPlonkProof
  by_cases hsystem : proof.proofSystem = proofSystem
  · simp only [hsystem, ne_eq, not_true_eq_false, if_false]
    have hfails : ∀ stop, verifyChecks std backend proof [] = .error stop →
        ¬ proof.IsValid std backend := by
      rintro stop hstop ⟨-, response, hpasses⟩
      obtain ⟨checks, hok⟩ := verifyChecks_of_passes std backend hpasses
      rw [hstop] at hok
      cases hok
    split
    · next response checks hok =>
        obtain ⟨result, hresult, hstatus⟩ := buildVerificationArtifact_ok std proof.artifactId
          verifierBackend .valid (response.reason.getD "Halo2 proof verified") checks
          (merge [("proof_system", proofSystem),
            ("circuit_hash", proof.getMetadata std "circuit_hash")] response.metadata)
          producedBy cycle
        exact ⟨result, hresult, iff_of_true hstatus
          ⟨hsystem, response, passes_of_verifyChecks std backend hok⟩⟩
    · next hstop => exact hinvalid _ _ _ (hfails _ hstop)
    · next hstop => exact hinvalid _ _ _ (hfails _ hstop)
  · simp only [ne_eq, hsystem, not_false_eq_true, if_true]
    exact hinvalid _ _ _ fun h => hsystem h.1

end Spec

end Vrl.Zk

import Vrl.Core.Verifier

/-!
# Vrl.Core.VerifierSoundness

What a response has to do with the calculation it is verified against, for any two payloads
(`core/verifier.py`).

`verify_proof` compares the result, the trace and three of the hashes. The fourth one, the
`integrity_hash` of the response, is read by nothing: it is the recomputed one only where it is
the digest of the other three (**`verifyProof_sound_iff`**).
-/

open Pydantic TextCodec

namespace Vrl

variable (std : PyStd)

/-! ### All four hashes -/

/-- The fourth hash is `sha256_hex(input_hash + output_hash + trace_hash)`. -/
def IntegrityArtifact.IsConsistent (integrity : IntegrityArtifact) : Prop :=
  integrity.integrityHash =
    sha256Hex std (integrity.inputHash ++ integrity.outputHash ++ integrity.traceHash)

/-- The response is the recomputed one in its result, its trace and all four hashes. -/
structure EqualsCalculation (recomputed response : CalculationResponse) : Prop
    extends SameResponse std recomputed response where
  integrityHash : response.integrity.integrityHash = recomputed.integrity.integrityHash

variable {std}

/-- A response that passes the comparisons is the recomputed one exactly if its fourth hash is
the digest of the others. -/
theorem SameResponse.equalsCalculation_iff {request : ImportCalculationRequest}
    {recomputed response : CalculationResponse} (hcalculation : IsCalculation std request recomputed)
    (hsame : SameResponse std recomputed response) :
    EqualsCalculation std recomputed response ↔ response.integrity.IsConsistent std := by
  have hdigest : sha256Hex std (response.integrity.inputHash ++ response.integrity.outputHash ++
      response.integrity.traceHash) = recomputed.integrity.integrityHash := by
    rw [hsame.inputHash, hsame.outputHash, hsame.traceHash]
    exact (hashesOf_calculation hcalculation).integrity.symm
  constructor
  · intro hequals
    show response.integrity.integrityHash = _
    rw [hequals.integrityHash, hdigest]
  · intro hconsistent
    exact ⟨hsame, hconsistent.trans hdigest⟩

/-! ### Any two payloads -/

/-- What `verify_proof` has to get before it compares anything. -/
structure Recalculates (std : PyStd) (requestPayload responsePayload : PyVal)
    (recomputed response : CalculationResponse) : Prop where
  recomputed : ∃ request, ImportCalculationRequest.modelValidate std requestPayload = .ok request ∧
    calculateImportLandedCost std request = .ok recomputed
  response : CalculationResponse.modelValidate std responsePayload = .ok response

/-- Only the validated request counts. -/
theorem verifyProof_eq_of_modelValidate {requestPayload : PyVal} {request : ImportCalculationRequest}
    (hvalid : ImportCalculationRequest.modelValidate std requestPayload = .ok request)
    (hcanonical : request.IsCanonical) (responsePayload : PyVal) :
    verifyProof std requestPayload responsePayload =
      verifyProof std (.dict request.payload) responsePayload := by
  rw [verifyProof, verifyProof, verifyProofBody, verifyProofBody, hvalid,
    modelValidate_payload std hcanonical]

/-- A request that is not validated or not calculated is not verified. -/
theorem exists_recalculates_of_valid {requestPayload responsePayload : PyVal}
    (hvalid : (verifyProof std requestPayload responsePayload).status = .valid) :
    ∃ request recomputed, ImportCalculationRequest.modelValidate std requestPayload = .ok request ∧
      calculateImportLandedCost std request = .ok recomputed := by
  cases hrequest : ImportCalculationRequest.modelValidate std requestPayload with
  | error e =>
      -- the first handler, or the last one
      simp only [verifyProof, verifyProofBody, hrequest] at hvalid
      cases hkind : isValidationError e <;> simp [hkind] at hvalid
  | ok request =>
      cases hrecomputed : calculateImportLandedCost std request with
      | error e =>
          simp only [verifyProof, verifyProofBody, hrequest, hrecomputed, Except.error_bind]
            at hvalid
          cases hvalid
      | ok recomputed => exact ⟨request, recomputed, rfl, hrecomputed⟩

/-- **Two payloads are verified exactly if they pass the comparisons.** -/
theorem verifyProof_status_valid_iff {requestPayload responsePayload : PyVal} :
    (verifyProof std requestPayload responsePayload).status = .valid ↔
      ∃ recomputed response, Recalculates std requestPayload responsePayload recomputed response ∧
        SameResponse std recomputed response := by
  constructor
  · intro hvalid
    obtain ⟨request, recomputed, hrequest, hrecomputed⟩ := exists_recalculates_of_valid hvalid
    have hcanonical := isCanonical_of_calculate hrequest hrecomputed
    rw [verifyProof_eq_of_modelValidate hrequest hcanonical] at hvalid
    obtain ⟨⟨response, hresponse, hsame⟩, -⟩ :=
      (verifyProof_valid_iff hcanonical hrecomputed).mp ⟨rfl, hvalid⟩
    exact ⟨recomputed, response, ⟨⟨request, hrequest, hrecomputed⟩, hresponse⟩, hsame⟩
  · intro ⟨recomputed, response, ⟨⟨request, hrequest, hrecomputed⟩, hresponse⟩, hsame⟩
    have hcanonical := isCanonical_of_calculate hrequest hrecomputed
    rw [verifyProof_eq_of_modelValidate hrequest hcanonical]
    obtain ⟨heq, hstatus⟩ :=
      (verifyProof_valid_iff hcanonical hrecomputed).mpr ⟨⟨response, hresponse, hsame⟩, rfl⟩
    rw [heq]
    exact hstatus

/-! ### Soundness -/

variable (std) in
/-- A valid result says that the response is the calculation, and a response that is not the
calculation is invalid. -/
structure SoundFor (requestPayload responsePayload : PyVal) : Prop where
  equals_of_valid : (verifyProof std requestPayload responsePayload).status = .valid →
    ∃ recomputed response, Recalculates std requestPayload responsePayload recomputed response ∧
      EqualsCalculation std recomputed response
  invalid_of_altered : ∀ recomputed response,
    Recalculates std requestPayload responsePayload recomputed response →
    ¬ EqualsCalculation std recomputed response →
    (verifyProof std requestPayload responsePayload).status = .invalid

/-- The calculation of a payload is one of the validated request. -/
theorem Recalculates.isCalculation {requestPayload responsePayload : PyVal}
    {recomputed response : CalculationResponse}
    (h : Recalculates std requestPayload responsePayload recomputed response) :
    ∃ request, IsCalculation std request recomputed := by
  obtain ⟨request, hrequest, hrecomputed⟩ := h.recomputed
  have hcanonical := isCanonical_of_calculate hrequest hrecomputed
  exact ⟨request, (calculate_eq_ok_iff hcanonical).mp hrecomputed⟩

theorem EvidenceStatus.eq_invalid_of_ne {status : EvidenceStatus} (h : status ≠ .valid) :
    status = .invalid := by
  cases status with
  | valid => exact absurd rfl h
  | invalid => rfl

/-- **Verification is sound exactly for the responses whose fourth hash is the digest of the
others, once the rest of them is the calculation.** -/
theorem verifyProof_sound_iff (requestPayload responsePayload : PyVal) :
    SoundFor std requestPayload responsePayload ↔
      ∀ recomputed response, Recalculates std requestPayload responsePayload recomputed response →
        SameResponse std recomputed response → response.integrity.IsConsistent std := by
  constructor
  · intro hsound recomputed response hboth hsame
    obtain ⟨request, hcalculation⟩ := hboth.isCalculation
    rw [← hsame.equalsCalculation_iff hcalculation]
    by_contra hdiffers
    -- the comparisons pass, and the response is not the calculation
    have hvalid := verifyProof_status_valid_iff.mpr ⟨recomputed, response, hboth, hsame⟩
    have hinvalid := hsound.invalid_of_altered recomputed response hboth hdiffers
    rw [hvalid] at hinvalid
    cases hinvalid
  · intro hconsistent
    have hequals : ∀ recomputed response,
        Recalculates std requestPayload responsePayload recomputed response →
        SameResponse std recomputed response → EqualsCalculation std recomputed response := by
      intro recomputed response hboth hsame
      obtain ⟨request, hcalculation⟩ := hboth.isCalculation
      exact (hsame.equalsCalculation_iff hcalculation).mpr
        (hconsistent recomputed response hboth hsame)
    refine ⟨?_, ?_⟩
    · intro hvalid
      obtain ⟨recomputed, response, hboth, hsame⟩ := verifyProof_status_valid_iff.mp hvalid
      exact ⟨recomputed, response, hboth, hequals recomputed response hboth hsame⟩
    · intro recomputed response hboth hdiffers
      refine EvidenceStatus.eq_invalid_of_ne ?_
      intro hvalid
      obtain ⟨recomputed', response', hboth', hsame⟩ := verifyProof_status_valid_iff.mp hvalid
      -- the payloads determine what is compared
      obtain ⟨request, hrequest, hrecomputed⟩ := hboth.recomputed
      obtain ⟨request', hrequest', hrecomputed'⟩ := hboth'.recomputed
      obtain rfl : request = request' := Except.ok.inj (hrequest.symm.trans hrequest')
      obtain rfl : recomputed = recomputed' := Except.ok.inj (hrecomputed.symm.trans hrecomputed')
      obtain rfl : response = response' := Except.ok.inj (hboth.response.symm.trans hboth'.response)
      exact hdiffers (hequals recomputed response hboth hsame)

/-! ### A response with another fourth hash -/

/-- The response with its fourth hash replaced. -/
def CalculationResponse.withIntegrityHash (response : CalculationResponse) (hash : String) :
    CalculationResponse :=
  { response with integrity := { response.integrity with integrityHash := hash } }

/-- The reference calculation is verified with any text for its fourth hash. -/
theorem tampered_integrityHash_verifies :
    ∃ response, calculateImportLandedCost lengthStd (referenceRequest "CN") = .ok response ∧
      (verifyProof lengthStd (.dict (referenceRequest "CN").payload)
        (.dict (response.withIntegrityHash "tampered").jsonPayload)).status = .valid ∧
      ¬ SoundFor lengthStd (.dict (referenceRequest "CN").payload)
        (.dict (response.withIntegrityHash "tampered").jsonPayload) := by
  obtain ⟨hcanonical, response, hresponse, -⟩ :=
    @calculate_reference lengthStd "CN" 329231 (by decide)
  have hcalculation := (calculate_eq_ok_iff hcanonical).mp hresponse
  have hrequest := modelValidate_payload lengthStd hcanonical
  have hfixed : response.result.IsFixed := isFixed_of_calculation hcalculation
  have hread := @modelValidate_jsonPayload_response lengthStd
    (response.withIntegrityHash "tampered") hfixed
  have hboth : Recalculates lengthStd (.dict (referenceRequest "CN").payload)
      (.dict (response.withIntegrityHash "tampered").jsonPayload) response
      (response.withIntegrityHash "tampered") := ⟨⟨_, hrequest, hresponse⟩, hread⟩
  have hsame : SameResponse lengthStd response (response.withIntegrityHash "tampered") :=
    ⟨rfl, rfl, rfl, rfl, rfl⟩
  have hvalid := verifyProof_status_valid_iff.mpr ⟨_, _, hboth, hsame⟩
  refine ⟨response, hresponse, hvalid, ?_⟩
  intro hsound
  -- the digest has a digit in place of the first letter
  have hdiffers : ¬ EqualsCalculation lengthStd response
      (response.withIntegrityHash "tampered") := by
    intro hequals
    have hhash : "tampered" = response.integrity.integrityHash := hequals.integrityHash
    rw [(hashesOf_calculation hcalculation).integrity] at hhash
    have hhex : ∀ c ∈ "tampered".toList, isLowerHex c = true := by
      rw [hhash]
      exact lengthStd.isLowerHex_hexdigest _
    exact absurd (hhex 't' (by decide)) (by decide)
  have hinvalid := hsound.invalid_of_altered _ _ hboth hdiffers
  rw [hvalid] at hinvalid
  cases hinvalid

end Vrl

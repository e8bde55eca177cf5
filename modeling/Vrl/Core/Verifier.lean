import Vrl.Models.Responses

/-!
# Vrl.Core.Verifier

Verification of a calculation by repeating it (`core/verifier.py`).

`verify_proof` never raises: whatever goes wrong is an invalid result. It is valid exactly if
the response has the hashes, the result and the trace that the request is recomputed to
(**`verifyProof_valid_iff`**).
-/

open TextCodec Pydantic

namespace Vrl

variable (std : PyStd)

/-! ### Results -/

/-- The status of a verified calculation. -/
inductive EvidenceStatus where
  | valid
  | invalid
  deriving DecidableEq, Repr

/-- `VerificationResult` of `models/schemas.py`. -/
structure VerificationResult where
  status : EvidenceStatus
  reason : String
  recomputedInputHash : String := ""
  recomputedOutputHash : String := ""
  recomputedTraceHash : String := ""
  recomputedIntegrityHash : String := ""
  deriving DecidableEq, Repr

/-- A result with the hashes of a recomputed response. -/
def VerificationResult.of (status : EvidenceStatus) (reason : String)
    (integrity : IntegrityArtifact) : VerificationResult where
  status := status
  reason := reason
  recomputedInputHash := integrity.inputHash
  recomputedOutputHash := integrity.outputHash
  recomputedTraceHash := integrity.traceHash
  recomputedIntegrityHash := integrity.integrityHash

/-! ### Verification -/

/-- What `except ValidationError` catches. -/
def isValidationError (e : PyError) : Bool := e.kind = .validationError

/-- `constant_time_equal(canonical_json(left), canonical_json(right))`. -/
def canonicalEqual (left right : PyVal) : Except PyError Bool := do
  constantTimeEqual (← canonicalJson std left) (← canonicalJson std right)

/-- The hashes of a request and of what it is recomputed to. -/
def recomputedHashes (request : ImportCalculationRequest) (recomputed : CalculationResponse) :
    Except PyError IntegrityArtifact := do
  let inputHash ← canonicalHash std (.dict request.payload)
  let outputHash ← canonicalHash std recomputed.result.payload
  let traceHash ← canonicalHash std (tracePayload recomputed.trace)
  let integrityHash := sha256Hex std (inputHash ++ outputHash ++ traceHash)
  return { inputHash, outputHash, traceHash, integrityHash }

/-- The comparison of a response with what the request is recomputed to. -/
def compareResponse (request : ImportCalculationRequest)
    (recomputed response : CalculationResponse) : Except PyError VerificationResult := do
  let hashes ← recomputedHashes std request recomputed
  let inputOk ← constantTimeEqual response.integrity.inputHash hashes.inputHash
  let outputOk ← constantTimeEqual response.integrity.outputHash hashes.outputHash
  let traceOk ← constantTimeEqual response.integrity.traceHash hashes.traceHash
  let resultOk ← canonicalEqual std response.result.payload recomputed.result.payload
  let stepsOk ← canonicalEqual std (tracePayload response.trace) (tracePayload recomputed.trace)
  return if [inputOk, outputOk, traceOk, resultOk, stepsOk].all id then
      .of .valid "Proof recomputed successfully" hashes
    else .of .invalid "Recomputed proof or payload mismatch detected" hashes

/-- The body of `verify_proof`, without the last handler. -/
def verifyProofBody (requestPayload responsePayload : PyVal) :
    Except PyError VerificationResult :=
  match ImportCalculationRequest.modelValidate std requestPayload with
  | .error e =>
      if isValidationError e then
        .ok ⟨.invalid, "Invalid verification request payload: " ++ e.message, "", "", "", ""⟩
      else .error e
  | .ok request => do
      let recomputed ← calculateImportLandedCost std request
      match CalculationResponse.modelValidate std responsePayload with
      | .error e =>
          if isValidationError e then
            return .of .invalid ("Invalid calculation response payload: " ++ e.message)
              recomputed.integrity
          else .error e
      | .ok response => compareResponse std request recomputed response

/-- `verify_proof`. -/
def verifyProof (requestPayload responsePayload : PyVal) : VerificationResult :=
  match verifyProofBody std requestPayload responsePayload with
  | .ok result => result
  | .error e => { status := .invalid, reason := "Verification failed safely: " ++ e.message }

/-! ### What a valid result says -/

/-- The response is the recomputed one, as far as the comparisons can tell. -/
structure SameResponse (recomputed response : CalculationResponse) : Prop where
  inputHash : response.integrity.inputHash = recomputed.integrity.inputHash
  outputHash : response.integrity.outputHash = recomputed.integrity.outputHash
  traceHash : response.integrity.traceHash = recomputed.integrity.traceHash
  result : canonicalJson std response.result.payload =
    canonicalJson std recomputed.result.payload
  trace : canonicalJson std (tracePayload response.trace) =
    canonicalJson std (tracePayload recomputed.trace)

variable {std}

theorem SameResponse.refl (response : CalculationResponse) : SameResponse std response response :=
  ⟨rfl, rfl, rfl, rfl, rfl⟩

/-- Two texts compare as equal exactly if they are, in ASCII. -/
theorem constantTimeEqual_true_iff {left right : String} :
    constantTimeEqual left right = .ok true ↔ left = right ∧ IsAscii left.toList := by
  constructor
  · intro h
    have heq : left = right := compareDigest_eq_true h
    subst heq
    rw [constantTimeEqual, compareDigest] at h
    split at h
    · next hascii => exact ⟨rfl, hascii.1⟩
    · cases h
  · rintro ⟨rfl, hascii⟩
    exact compareDigest_self hascii

theorem canonicalJson_isAscii {value : PyVal} {text : String}
    (h : canonicalJson std value = .ok text) : IsAscii text.toList := by
  obtain ⟨j, -, h⟩ := Except.bind_eq_ok_iff.mp h
  cases h
  exact dumpsCanonical_isAscii j

/-- Values compare as equal exactly if their canonical texts can be written and are equal. -/
theorem canonicalEqual_true_iff {left right : PyVal} :
    canonicalEqual std left right = .ok true ↔
      canonicalJson std left = canonicalJson std right ∧
        ∃ text, canonicalJson std right = .ok text := by
  simp only [canonicalEqual, Except.bind_eq_ok_iff, constantTimeEqual_true_iff]
  constructor
  · rintro ⟨text, hleft, text', hright, rfl, -⟩
    exact ⟨hleft.trans hright.symm, text, hright⟩
  · rintro ⟨heq, text, hright⟩
    exact ⟨text, heq.trans hright, text, hright, rfl, canonicalJson_isAscii hright⟩

theorem canonicalJson_ok {value : PyVal} (h : floatFree value = true) :
    ∃ text, canonicalJson std value = .ok text := by
  obtain ⟨j, hj⟩ := canonicalize_ok std h
  rw [canonicalJson, hj]
  exact ⟨_, rfl⟩

/-- The recomputed hashes are those of the recomputed response. -/
theorem recomputedHashes_of_calculation {request : ImportCalculationRequest}
    {recomputed : CalculationResponse} (h : IsCalculation std request recomputed) :
    recomputedHashes std request recomputed = .ok recomputed.integrity := by
  obtain ⟨hinput, houtput, htrace, hintegrity⟩ := hashesOf_calculation h
  rw [recomputedHashes, hinput, Except.ok_bind, houtput, Except.ok_bind, htrace, Except.ok_bind,
    ← hintegrity]
  rfl

theorem isAscii_integrity {request : ImportCalculationRequest} {recomputed : CalculationResponse}
    (h : IsCalculation std request recomputed) :
    IsAscii recomputed.integrity.inputHash.toList ∧
      IsAscii recomputed.integrity.outputHash.toList ∧
      IsAscii recomputed.integrity.traceHash.toList := by
  have hhashes := hashesOf_calculation h
  exact ⟨isAscii_of_canonicalHash std hhashes.input, isAscii_of_canonicalHash std hhashes.output,
    isAscii_of_canonicalHash std hhashes.trace⟩

/-- A response is found valid exactly if it is the recomputed one. -/
theorem compareResponse_valid_iff {request : ImportCalculationRequest}
    {recomputed response : CalculationResponse} (h : IsCalculation std request recomputed)
    {result : VerificationResult} :
    compareResponse std request recomputed response = .ok result ∧ result.status = .valid ↔
      SameResponse std recomputed response ∧
        result = .of .valid "Proof recomputed successfully" recomputed.integrity := by
  obtain ⟨hinput, houtput, htrace⟩ := isAscii_integrity h
  have hresult := @canonicalJson_ok std recomputed.result.payload rfl
  have hsteps := @canonicalJson_ok std _ (floatFree_tracePayload recomputed.trace)
  rw [compareResponse, recomputedHashes_of_calculation h, Except.ok_bind]
  constructor
  · rintro ⟨hok, hstatus⟩
    obtain ⟨inputOk, hin, hok⟩ := Except.bind_eq_ok_iff.mp hok
    obtain ⟨outputOk, hout, hok⟩ := Except.bind_eq_ok_iff.mp hok
    obtain ⟨traceOk, htr, hok⟩ := Except.bind_eq_ok_iff.mp hok
    obtain ⟨resultOk, hres, hok⟩ := Except.bind_eq_ok_iff.mp hok
    obtain ⟨stepsOk, hst, hok⟩ := Except.bind_eq_ok_iff.mp hok
    cases hok
    split at hstatus
    · next hall =>
        simp only [List.all_cons, List.all_nil, id_eq, Bool.and_true, Bool.and_eq_true] at hall
        obtain ⟨rfl, rfl, rfl, rfl, rfl⟩ := hall
        refine ⟨⟨(constantTimeEqual_true_iff.mp hin).1, (constantTimeEqual_true_iff.mp hout).1,
          (constantTimeEqual_true_iff.mp htr).1, (canonicalEqual_true_iff.mp hres).1,
          (canonicalEqual_true_iff.mp hst).1⟩, rfl⟩
    · cases hstatus
  · rintro ⟨hsame, rfl⟩
    refine ⟨?_, rfl⟩
    have hin := constantTimeEqual_true_iff.mpr ⟨hsame.inputHash, hsame.inputHash ▸ hinput⟩
    have hout := constantTimeEqual_true_iff.mpr ⟨hsame.outputHash, hsame.outputHash ▸ houtput⟩
    have htr := constantTimeEqual_true_iff.mpr ⟨hsame.traceHash, hsame.traceHash ▸ htrace⟩
    have hres := canonicalEqual_true_iff.mpr ⟨hsame.result, hresult⟩
    have hst := canonicalEqual_true_iff.mpr ⟨hsame.trace, hsteps⟩
    rw [hin, Except.ok_bind, hout, Except.ok_bind, htr, Except.ok_bind, hres, Except.ok_bind, hst]
    rfl

/-- A payload that is no response is not verified. -/
theorem verifyProofBody_eq {request : ImportCalculationRequest} {recomputed : CalculationResponse}
    (hcanonical : request.IsCanonical)
    (hrecomputed : calculateImportLandedCost std request = .ok recomputed) (responsePayload : PyVal) :
    (∃ response, CalculationResponse.modelValidate std responsePayload = .ok response ∧
      verifyProofBody std (.dict request.payload) responsePayload =
        compareResponse std request recomputed response) ∨
      (∀ response, CalculationResponse.modelValidate std responsePayload ≠ .ok response) ∧
        (verifyProof std (.dict request.payload) responsePayload).status = .invalid := by
  cases hresponse : CalculationResponse.modelValidate std responsePayload with
  | ok response =>
      refine .inl ⟨response, rfl, ?_⟩
      rw [verifyProofBody, modelValidate_payload std hcanonical]
      simp only [hrecomputed, Except.ok_bind, hresponse]
  | error e =>
      refine .inr ⟨by simp, ?_⟩
      rw [verifyProof, verifyProofBody, modelValidate_payload std hcanonical]
      simp only [hrecomputed, Except.ok_bind, hresponse]
      cases isValidationError e <;> rfl

/-- **A calculation is verified exactly if its response is the recomputed one**, and the result
has the recomputed hashes. -/
theorem verifyProof_valid_iff {request : ImportCalculationRequest}
    {recomputed : CalculationResponse} (hcanonical : request.IsCanonical)
    (hrecomputed : calculateImportLandedCost std request = .ok recomputed) {responsePayload : PyVal}
    {result : VerificationResult} :
    verifyProof std (.dict request.payload) responsePayload = result ∧ result.status = .valid ↔
      (∃ response, CalculationResponse.modelValidate std responsePayload = .ok response ∧
        SameResponse std recomputed response) ∧
        result = .of .valid "Proof recomputed successfully" recomputed.integrity := by
  have hcalculation := (calculate_eq_ok_iff hcanonical).mp hrecomputed
  obtain ⟨response, hresponse, hbody⟩ | ⟨hnone, hinvalid⟩ :=
    verifyProofBody_eq hcanonical hrecomputed responsePayload
  · constructor
    · rintro ⟨rfl, hstatus⟩
      rw [verifyProof, hbody] at hstatus ⊢
      cases hcompare : compareResponse std request recomputed response with
      | error e =>
          rw [hcompare] at hstatus
          cases hstatus
      | ok result =>
          rw [hcompare] at hstatus
          obtain ⟨hsame, hresult⟩ := (compareResponse_valid_iff hcalculation).mp ⟨hcompare, hstatus⟩
          exact ⟨⟨response, hresponse, hsame⟩, hresult⟩
    · rintro ⟨⟨response', hresponse', hsame⟩, rfl⟩
      rw [hresponse] at hresponse'
      cases hresponse'
      rw [verifyProof, hbody, ((compareResponse_valid_iff hcalculation).mpr ⟨hsame, rfl⟩).1]
      exact ⟨rfl, rfl⟩
  · constructor
    · rintro ⟨rfl, hstatus⟩
      rw [hinvalid] at hstatus
      cases hstatus
    · rintro ⟨⟨response, hresponse, -⟩, -⟩
      exact absurd hresponse (hnone response)

end Vrl

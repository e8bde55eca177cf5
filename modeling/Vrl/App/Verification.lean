import Vrl.Backend.VerifiedRecords
import Vrl.Core.Verifier

/-!
# Vrl.App.Verification

`EvidenceService.verify_persisted` (`app/services/evidence_service.py`): stored evidence is held
against the request that it is asked for.

The checks return early with an invalid result, or raise. **`verifyStoredBundle_valid_iff`** says
what they come to: the evidence `Corresponds` to the request.
-/

open TextCodec Pydantic

namespace Vrl

open Zk

variable (std : PyStd) (backend : Backend)

/-! ### Checks that return early -/

/-- How a function ends before its last statement: it raises, or it returns a result. -/
inductive Exit (ρ : Type) where
  | raised (e : PyError)
  | returned (result : ρ)

/-- A step that may raise. -/
def orRaise {ρ α : Type} (x : Except PyError α) : Except (Exit ρ) α := x.mapError .raised

theorem orRaise_eq_ok_iff {ρ α : Type} {x : Except PyError α} {a : α} :
    (orRaise x : Except (Exit ρ) α) = .ok a ↔ x = .ok a := by
  cases x with
  | error e => simp [orRaise, Except.mapError]
  | ok b => simp [orRaise, Except.mapError]

/-- `_invalid_verification`. -/
def invalidVerification (request : ImportCalculationRequest) (reason : String) :
    Except PyError VerificationResult := do
  return .of .invalid reason (← calculateImportLandedCost std request).integrity

/-- `return self._invalid_verification(request, reason)`. -/
def refuse {α : Type} (request : ImportCalculationRequest) (reason : String) :
    Except (Exit VerificationResult) α := do
  let result ← orRaise (invalidVerification std request reason)
  .error (.returned result)

/-- A check that returns an invalid result where it fails. -/
def require (request : ImportCalculationRequest) (holds : Bool) (reason : String) :
    Except (Exit VerificationResult) Unit :=
  if holds then .ok () else refuse std request reason

/-- A comparison with `constant_time_equal`. -/
def requireEqual (request : ImportCalculationRequest) (left right reason : String) :
    Except (Exit VerificationResult) Unit := do
  require std request (← orRaise (constantTimeEqual left right)) reason

/-- A validation with a handler for `ValidationError`. -/
def requireValid {α : Type} (request : ImportCalculationRequest) (reason : String)
    (validated : Except PyError α) : Except (Exit VerificationResult) α :=
  match validated with
  | .ok a => .ok a
  | .error e =>
      if isValidationError e then refuse std request (reason ++ e.message) else .error (.raised e)

/-! ### Verification of stored evidence -/

/-- `if verification.status != "VALID": return verification`. -/
def requireVerified (verification : VerificationResult) :
    Except (Exit VerificationResult) Unit :=
  if verification.status = .valid then .ok () else .error (.returned verification)

/-- `str(proof_bundle.get("proof", {}).get("proof_blob_hex", ""))`. -/
def storedProofBytes (proofBundle : List (String × PyVal)) : Except PyError String :=
  match (proofBundle.lookup "proof").getD (.dict []) with
  | .dict members => .ok (textOf ((members.lookup "proof_blob_hex").getD (.str "")))
  | value => .error ⟨.attributeError, "'" ++ value.typeName ++ "' object has no attribute 'get'"⟩

/-- The hash of the attached event is recomputed. -/
def checkAuditEvent (request : ImportCalculationRequest) :
    Option AuditEventRecord → Except (Exit VerificationResult) Unit
  | none => .ok ()
  | some event => do
      let expectedAuditHash ← orRaise (event.expectedHash std)
      requireEqual std request event.currentHash expectedAuditHash
        "Stored audit event hash does not match recomputed audit hash"

/-- The checks of `_verify_bundle`, in their order. -/
def verifyEvidence (request : ImportCalculationRequest) (evidence : PersistedEvidenceBundle) :
    Except (Exit VerificationResult) VerificationResult := do
  let expectedRequestJson ← orRaise (canonicalJson std (.dict request.jsonPayload))
  let storedRequestJson ← orRaise (canonicalJson std (.dict evidence.request.rawInput))
  requireEqual std request expectedRequestJson storedRequestJson
    "Stored request payload does not match canonical request data"
  require std request (evidence.proof.proofSystem == "plonk") "legacy record"
  let storedResponse ← requireValid std request "Invalid stored calculation response: "
    (CalculationResponse.modelValidate std (.dict evidence.result.rawOutput))
  let verification := verifyProof std (.dict request.payload) (.dict storedResponse.payload)
  requireVerified verification
  requireEqual std request evidence.request.inputHash verification.recomputedInputHash
    "Stored request hash does not match recomputed input hash"
  requireEqual std request evidence.result.outputHash verification.recomputedOutputHash
    "Stored result hash does not match recomputed output hash"
  requireEqual std request evidence.proof.traceHash verification.recomputedTraceHash
    "Stored trace hash does not match recomputed trace hash"
  require std request evidence.proof.proofVerified "Stored proof is not marked as verified"
  let bundleVerification := verifyProofBundle std backend evidence.proof.proofBundle
  require std request bundleVerification.valid
    ("Stored proof bundle failed offline verification: " ++ bundleVerification.reason)
  let bundledProof ← requireValid std request "Invalid stored proof bundle: "
    (Proof.modelValidate std ((evidence.proof.proofBundle.lookup "proof").getD .none))
  requireEqual std request storedResponse.integrity.outputHash evidence.result.outputHash
    "Stored response integrity does not match persisted result hash"
  requireEqual std request storedResponse.integrity.traceHash evidence.proof.traceHash
    "Stored response integrity does not match persisted trace hash"
  requireEqual std request bundledProof.finalProof evidence.proof.finalProof
    "Stored ZK proof does not match bundled final proof"
  requireEqual std request (bundledProof.circuitHash std) evidence.proof.circuitHash
    "Stored circuit hash does not match bundled circuit hash"
  let proofBytes ← orRaise (storedProofBytes evidence.proof.proofBundle)
  requireEqual std request bundledProof.proofBlobHex proofBytes
    "Stored proof bundle proof bytes are invalid"
  checkAuditEvent std request evidence.auditLog
  return verification

/-- `_verify_bundle`. -/
def verifyStoredBundle (request : ImportCalculationRequest) (evidence : PersistedEvidenceBundle) :
    Except PyError VerificationResult :=
  match verifyEvidence std backend request evidence with
  | .ok result => .ok result
  | .error (.returned result) => .ok result
  | .error (.raised e) => .error e

/-- `PersistedVerificationResponse`. -/
structure PersistedVerificationResponse where
  verification : VerificationResult
  evidence : Option PersistedEvidenceBundle := none
  auditChain : Option AuditChainVerificationResult := none

/-- `verify_persisted`, on what its two queries return. -/
def verifyPersisted (fetchByInputHash : String → Option PersistedEvidenceBundle)
    (auditRecords : List AuditEventRecord) (requestPayload : PyVal) :
    Except PyError PersistedVerificationResponse := do
  let request ← ImportCalculationRequest.modelValidate std requestPayload
  let recomputed ← calculateImportLandedCost std request
  let auditChain ← verifyAuditChain std auditRecords
  match fetchByInputHash recomputed.integrity.inputHash with
  | none =>
      let verification := VerificationResult.of .invalid
        "No persisted evidence found for the supplied input hash" recomputed.integrity
      return { verification, auditChain := some auditChain }
  | some stored =>
      let verification ← verifyStoredBundle std backend request stored
      let verification :=
        if auditChain.status ≠ .valid ∧ verification.status = .valid then
          { verification with status := .invalid, reason := "Audit chain integrity check failed" }
        else verification
      return { verification, evidence := some stored, auditChain := some auditChain }

/-! ### What the checks come to -/

section Checks

variable {std backend} {request : ImportCalculationRequest}

theorem refuse_ne_ok {α : Type} {reason : String} {a : α} : refuse std request reason ≠ .ok a := by
  intro h
  obtain ⟨_, -, h⟩ := Except.bind_eq_ok_iff.mp h
  cases h

theorem require_eq_ok_iff {holds : Bool} {reason : String} {u : Unit} :
    require std request holds reason = .ok u ↔ holds = true := by
  cases holds with
  | false => exact iff_of_false refuse_ne_ok Bool.false_ne_true
  | true => exact iff_of_true rfl rfl

theorem requireEqual_eq_ok_iff {left right reason : String} {u : Unit} :
    requireEqual std request left right reason = .ok u ↔ left = right ∧ IsAscii left.toList := by
  rw [requireEqual, Except.bind_eq_ok_iff, ← constantTimeEqual_true_iff]
  simp only [orRaise_eq_ok_iff, require_eq_ok_iff]
  constructor
  · rintro ⟨equal, hequal, rfl⟩
    exact hequal
  · intro hequal
    exact ⟨true, hequal, rfl⟩

theorem requireValid_eq_ok_iff {α : Type} {reason : String} {validated : Except PyError α} {a : α} :
    requireValid std request reason validated = .ok a ↔ validated = .ok a := by
  cases validated with
  | ok b => rw [requireValid, Except.ok.injEq, Except.ok.injEq]
  | error e =>
      refine iff_of_false ?_ (by simp)
      rw [requireValid]
      split
      · exact refuse_ne_ok
      · simp

theorem requireVerified_eq_ok_iff {verification : VerificationResult} {u : Unit} :
    requireVerified verification = .ok u ↔ verification.status = .valid := by
  rw [requireVerified]
  split
  · next h => exact iff_of_true rfl h
  · next h => exact iff_of_false (by simp) h

theorem checkAuditEvent_eq_ok_iff {auditLog : Option AuditEventRecord} {u : Unit} :
    checkAuditEvent std request auditLog = .ok u ↔
      ∀ event, auditLog = some event → event.IsSealed std := by
  cases auditLog with
  | none => exact iff_of_true rfl fun _ h => by cases h
  | some event =>
      rw [checkAuditEvent, Except.bind_eq_ok_iff]
      simp only [orRaise_eq_ok_iff, requireEqual_eq_ok_iff, Option.some.injEq, forall_eq']
      constructor
      · rintro ⟨hash, hhash, heq, -⟩
        rw [AuditEventRecord.IsSealed, heq, hhash]
      · intro hsealed
        exact ⟨_, hsealed, rfl, computeAuditHash_isAscii std hsealed⟩

theorem strField_inv {value : PyVal} {s : String} (h : strField value = .ok s) :
    value = .str s := by
  cases value with
  | str t =>
      cases h
      rfl
  | _ => cases h

theorem validateProofHash_inv {data : ProofData} {artifactId producedBy proofHash : String}
    {cycle : Int} {proof : Proof std}
    (h : validateProofHash std data artifactId producedBy cycle proofHash = .ok proof) :
    proof.toProofData = data := by
  unfold validateProofHash at h
  split at h
  · split at h
    · cases h
    · cases h
  · split at h
    · cases h
      rfl
    · cases h

/-- A validated proof has the bytes that its payload has. -/
theorem storedProofBytes_of_modelValidate {proofBundle : List (String × PyVal)} {value : PyVal}
    {zkProof : Proof std} (hvalue : getItem proofBundle "proof" = .ok value)
    (h : Proof.modelValidate std value = .ok zkProof) :
    storedProofBytes proofBundle = .ok zkProof.proofBlobHex := by
  rw [getItem_eq_ok] at hvalue
  cases value with
  | dict members =>
      simp only [Proof.modelValidate, Except.bind_eq_ok_iff] at h
      obtain ⟨_, -, _, -, _, -, _, -, _, -, _, -, _, -, proofBlobHex, hfield, h⟩ := h
      obtain ⟨_, -, _, -, _, -, _, -, _, -, _, -, _, -, _, -, h⟩ := h
      obtain ⟨bytes, hbytes, hstr⟩ := field_inv hfield
      have hproof : zkProof.proofBlobHex = proofBlobHex := by
        rw [validateProofHash_inv h]
      rw [storedProofBytes, hvalue, Option.getD_some, hproof]
      show Except.ok (textOf ((members.lookup "proof_blob_hex").getD (.str ""))) = _
      rw [hbytes, Option.getD_some, strField_inv hstr]
      rfl
  | _ => cases h

/-! ### Results that are returned early are invalid -/

/-- No valid result is returned early. -/
def RefusesInvalid {α : Type} (x : Except (Exit VerificationResult) α) : Prop :=
  ∀ result, x = .error (.returned result) → result.status ≠ .valid

section Refuses

variable {α β : Type}

theorem refusesInvalid_ok (a : α) : RefusesInvalid (.ok a) := by
  intro result h
  cases h

theorem refusesInvalid_orRaise (x : Except PyError α) : RefusesInvalid (orRaise x) := by
  intro result h
  cases x <;> cases h

theorem RefusesInvalid.bind {x : Except (Exit VerificationResult) α}
    {f : α → Except (Exit VerificationResult) β} (hx : RefusesInvalid x)
    (hf : ∀ a, RefusesInvalid (f a)) : RefusesInvalid (x >>= f) := by
  intro result h
  cases x with
  | error e =>
      cases h
      exact hx result rfl
  | ok a => exact hf a result h

theorem refusesInvalid_refuse (reason : String) :
    RefusesInvalid (refuse std request reason : Except (Exit VerificationResult) α) := by
  intro result h hvalid
  rw [refuse, invalidVerification] at h
  cases hrecomputed : calculateImportLandedCost std request with
  | error e =>
      rw [hrecomputed] at h
      cases h
  | ok recomputed =>
      rw [hrecomputed] at h
      cases h
      cases hvalid

theorem refusesInvalid_require (holds : Bool) (reason : String) :
    RefusesInvalid (require std request holds reason) := by
  cases holds with
  | true => exact refusesInvalid_ok ()
  | false => exact refusesInvalid_refuse reason

theorem refusesInvalid_requireEqual (left right reason : String) :
    RefusesInvalid (requireEqual std request left right reason) :=
  (refusesInvalid_orRaise _).bind fun _ => refusesInvalid_require _ _

theorem refusesInvalid_requireValid (reason : String) (validated : Except PyError α) :
    RefusesInvalid (requireValid std request reason validated) := by
  cases validated with
  | ok a => exact refusesInvalid_ok a
  | error e =>
      rw [requireValid]
      split
      · exact refusesInvalid_refuse _
      · intro result h
        cases h

theorem refusesInvalid_requireVerified (verification : VerificationResult) :
    RefusesInvalid (requireVerified verification) := by
  intro result h
  rw [requireVerified] at h
  split at h
  · cases h
  · next hnot =>
      cases h
      exact hnot

theorem refusesInvalid_checkAuditEvent (auditLog : Option AuditEventRecord) :
    RefusesInvalid (checkAuditEvent std request auditLog) := by
  cases auditLog with
  | none => exact refusesInvalid_ok ()
  | some event =>
      exact (refusesInvalid_orRaise _).bind fun _ => refusesInvalid_requireEqual _ _ _

theorem refusesInvalid_verifyEvidence (evidence : PersistedEvidenceBundle) :
    RefusesInvalid (verifyEvidence std backend request evidence) :=
  (refusesInvalid_orRaise _).bind fun _ => (refusesInvalid_orRaise _).bind fun _ =>
    (refusesInvalid_requireEqual _ _ _).bind fun _ => (refusesInvalid_require _ _).bind fun _ =>
    (refusesInvalid_requireValid _ _).bind fun _ => (refusesInvalid_requireVerified _).bind fun _ =>
    (refusesInvalid_requireEqual _ _ _).bind fun _ => (refusesInvalid_requireEqual _ _ _).bind fun _ =>
    (refusesInvalid_requireEqual _ _ _).bind fun _ => (refusesInvalid_require _ _).bind fun _ =>
    (refusesInvalid_require _ _).bind fun _ => (refusesInvalid_requireValid _ _).bind fun _ =>
    (refusesInvalid_requireEqual _ _ _).bind fun _ => (refusesInvalid_requireEqual _ _ _).bind fun _ =>
    (refusesInvalid_requireEqual _ _ _).bind fun _ => (refusesInvalid_requireEqual _ _ _).bind fun _ =>
    (refusesInvalid_orRaise _).bind fun _ => (refusesInvalid_requireEqual _ _ _).bind fun _ =>
    (refusesInvalid_checkAuditEvent _).bind fun _ => refusesInvalid_ok _

end Refuses

/-! ### What is compared -/

variable (std) in
/-- The stored response is the recomputed one, and has the hashes of the rows. -/
def StoresResponse (recomputed : CalculationResponse) (evidence : PersistedEvidenceBundle) :
    Prop :=
  ∃ stored response,
    CalculationResponse.modelValidate std (.dict evidence.result.rawOutput) = .ok stored ∧
    CalculationResponse.modelValidate std (.dict stored.payload) = .ok response ∧
    SameResponse std recomputed response ∧
    stored.integrity.outputHash = evidence.result.outputHash ∧
    stored.integrity.traceHash = evidence.proof.traceHash

variable (std) in
/-- The proof of the stored bundle is the one of the proof row. -/
def StoresProof (evidence : PersistedEvidenceBundle) : Prop :=
  ∃ value zkProof, getItem evidence.proof.proofBundle "proof" = .ok value ∧
    Proof.modelValidate std value = .ok zkProof ∧
    zkProof.finalProof = evidence.proof.finalProof ∧
    zkProof.circuitHash std = evidence.proof.circuitHash ∧ IsAscii zkProof.proofBlobHex.toList

variable (std backend) in
/-- The evidence is what the request is recomputed to, as far as it is compared. -/
structure Corresponds (request : ImportCalculationRequest) (recomputed : CalculationResponse)
    (evidence : PersistedEvidenceBundle) : Prop where
  rawInput : canonicalJson std (.dict evidence.request.rawInput) =
    canonicalJson std (.dict request.jsonPayload)
  proofSystem : evidence.proof.proofSystem = "plonk"
  inputHash : evidence.request.inputHash = recomputed.integrity.inputHash
  outputHash : evidence.result.outputHash = recomputed.integrity.outputHash
  traceHash : evidence.proof.traceHash = recomputed.integrity.traceHash
  response : StoresResponse std recomputed evidence
  proofVerified : evidence.proof.proofVerified = true
  bundle : (verifyProofBundle std backend evidence.proof.proofBundle).valid = true
  proof : StoresProof std evidence
  auditLog : ∀ event, evidence.auditLog = some event → event.IsSealed std

variable {recomputed : CalculationResponse} {evidence : PersistedEvidenceBundle}
  (hcanonical : request.IsCanonical)
  (hrecomputed : calculateImportLandedCost std request = .ok recomputed)
include hcanonical hrecomputed

/-- Evidence that goes through the checks corresponds to the request. -/
theorem corresponds_of_verifyEvidence {result : VerificationResult}
    (h : verifyEvidence std backend request evidence = .ok result) :
    Corresponds std backend request recomputed evidence ∧
      result = .of .valid "Proof recomputed successfully" recomputed.integrity := by
  simp only [verifyEvidence, Except.bind_eq_ok_iff, orRaise_eq_ok_iff, requireEqual_eq_ok_iff,
    require_eq_ok_iff, requireValid_eq_ok_iff, requireVerified_eq_ok_iff,
    checkAuditEvent_eq_ok_iff] at h
  obtain ⟨expected, hexpected, storedJson, hstoredJson, -, hinputJson, -, hsystem, stored, hstored,
    -, hverified, -, hinput, -, houtput, -, htrace, -, hflag, -, hbundle, zkProof, hproof, h⟩ := h
  obtain ⟨-, hstoredOutput, -, hstoredTrace, -, hfinal, -, hcircuit, bytes, -, -, hbytes, -, haudit,
    h⟩ := h
  obtain ⟨⟨response, hresponse, hsame⟩, hresult⟩ :=
    (verifyProof_valid_iff hcanonical hrecomputed).mp ⟨rfl, hverified⟩
  rw [hresult] at hinput houtput htrace h
  obtain ⟨value, hvalue⟩ := proof_of_valid std backend hbundle
  rw [getItem_eq_ok.mp hvalue, Option.getD_some] at hproof
  cases h
  refine ⟨⟨?_, ?_, hinput.1, houtput.1, htrace.1, ?_, hflag, hbundle, ?_, haudit⟩, rfl⟩
  · rw [hstoredJson, hexpected, hinputJson.1]
  · simpa using hsystem
  · exact ⟨stored, response, hstored, hresponse, hsame, hstoredOutput.1, hstoredTrace.1⟩
  · exact ⟨value, zkProof, hvalue, hproof, hfinal.1, hcircuit.1, hbytes.2⟩

/-- Evidence that corresponds to the request goes through the checks. -/
theorem verifyEvidence_of_corresponds (h : Corresponds std backend request recomputed evidence) :
    verifyEvidence std backend request evidence =
      .ok (.of .valid "Proof recomputed successfully" recomputed.integrity) := by
  obtain ⟨hinput, houtput, htrace⟩ := isAscii_integrity ((calculate_eq_ok_iff hcanonical).mp
    hrecomputed)
  obtain ⟨expected, hexpected⟩ : ∃ text, canonicalJson std (.dict request.jsonPayload) = .ok text :=
    canonicalJson_ok rfl
  obtain ⟨stored, response, hstored, hresponse, hsame, hstoredOutput, hstoredTrace⟩ := h.response
  obtain ⟨value, zkProof, hvalue, hproof, hfinal, hcircuit, hbytes⟩ := h.proof
  obtain ⟨hfinalAscii, hcircuitAscii⟩ :=
    isAscii_of_isValid std backend (isValid_of_bundle std backend h.bundle hvalue hproof)
  have hverify := ((verifyProof_valid_iff hcanonical hrecomputed).mpr
    ⟨⟨response, hresponse, hsame⟩, rfl⟩).1
  have hbytesStored := storedProofBytes_of_modelValidate hvalue hproof
  have hlookup := getItem_eq_ok.mp hvalue
  simp only [verifyEvidence, Except.bind_eq_ok_iff, orRaise_eq_ok_iff, requireEqual_eq_ok_iff,
    require_eq_ok_iff, requireValid_eq_ok_iff, requireVerified_eq_ok_iff,
    checkAuditEvent_eq_ok_iff]
  -- the goals are in the order of the checks; what is compared in constant time is ASCII
  refine ⟨expected, hexpected, expected, h.rawInput.trans hexpected, (), ⟨rfl, ?_⟩, (), ?_, stored,
    hstored, (), ?_, (), ?_, (), ?_, (), ?_, (), h.proofVerified, (), h.bundle, zkProof, ?_, ?_⟩
  · exact canonicalJson_isAscii hexpected
  · rw [h.proofSystem]
    rfl
  · rw [hverify]
    rfl
  · rw [hverify]
    exact ⟨h.inputHash, h.inputHash ▸ hinput⟩
  · rw [hverify]
    exact ⟨h.outputHash, h.outputHash ▸ houtput⟩
  · rw [hverify]
    exact ⟨h.traceHash, h.traceHash ▸ htrace⟩
  · rw [hlookup, Option.getD_some, hproof]
  · refine ⟨(), ⟨hstoredOutput, ?_⟩, (), ⟨hstoredTrace, ?_⟩, (), ⟨hfinal, hfinalAscii⟩, (),
      ⟨hcircuit, hcircuitAscii⟩, zkProof.proofBlobHex, hbytesStored, (), ⟨rfl, hbytes⟩, (),
      h.auditLog, ?_⟩
    · rw [hstoredOutput, h.outputHash]
      exact houtput
    · rw [hstoredTrace, h.traceHash]
      exact htrace
    · rw [hverify]
      rfl

/-- **Stored evidence is found valid exactly if it corresponds to the request.** -/
theorem verifyStoredBundle_valid_iff {result : VerificationResult} :
    verifyStoredBundle std backend request evidence = .ok result ∧ result.status = .valid ↔
      Corresponds std backend request recomputed evidence ∧
        result = .of .valid "Proof recomputed successfully" recomputed.integrity := by
  rw [verifyStoredBundle]
  constructor
  · rintro ⟨hok, hstatus⟩
    cases hchecks : verifyEvidence std backend request evidence with
    | ok result' =>
        rw [hchecks] at hok
        cases hok
        exact corresponds_of_verifyEvidence hcanonical hrecomputed hchecks
    | error exit =>
        rw [hchecks] at hok
        cases exit with
        | raised e => cases hok
        | returned result' =>
            cases hok
            exact absurd hstatus (refusesInvalid_verifyEvidence evidence result hchecks)
  · rintro ⟨hcorresponds, rfl⟩
    rw [verifyEvidence_of_corresponds hcanonical hrecomputed hcorresponds]
    exact ⟨rfl, rfl⟩

end Checks

/-! ### Verification of a request -/

section Persisted

variable {std backend} {fetchByInputHash : String → Option PersistedEvidenceBundle}
  {auditRecords : List AuditEventRecord} {payload : PyVal}

/-- **A request is found valid exactly if the chains are and its evidence corresponds to it.** -/
theorem verifyPersisted_valid_iff {response : PersistedVerificationResponse} :
    verifyPersisted std backend fetchByInputHash auditRecords payload = .ok response ∧
        response.verification.status = .valid ↔
      ∃ request recomputed stored auditChain,
        ImportCalculationRequest.modelValidate std payload = .ok request ∧
        calculateImportLandedCost std request = .ok recomputed ∧
        fetchByInputHash recomputed.integrity.inputHash = some stored ∧
        verifyAuditChain std auditRecords = .ok auditChain ∧ auditChain.status = .valid ∧
        Corresponds std backend request recomputed stored ∧
        response = ⟨.of .valid "Proof recomputed successfully" recomputed.integrity, some stored,
          some auditChain⟩ := by
  constructor
  · rintro ⟨h, hvalid⟩
    obtain ⟨request, hrequest, h⟩ := Except.bind_eq_ok_iff.mp h
    obtain ⟨recomputed, hrecomputed, h⟩ := Except.bind_eq_ok_iff.mp h
    obtain ⟨auditChain, hchain, h⟩ := Except.bind_eq_ok_iff.mp h
    have hcanonical := isCanonical_of_calculate hrequest hrecomputed
    split at h
    · cases h
      cases hvalid
    · next stored hstored =>
        obtain ⟨verification, hverification, h⟩ := Except.bind_eq_ok_iff.mp h
        cases h
        split at hvalid
        · cases hvalid
        -- a valid verdict is overruled by an invalid chain
        · next hnot =>
            obtain ⟨hcorresponds, hresult⟩ := (verifyStoredBundle_valid_iff hcanonical
              hrecomputed).mp ⟨hverification, hvalid⟩
            have hchainValid : auditChain.status = .valid := by
              by_contra hinvalid
              exact hnot ⟨hinvalid, hvalid⟩
            refine ⟨request, recomputed, stored, auditChain, hrequest, hrecomputed, hstored, hchain,
              hchainValid, hcorresponds, ?_⟩
            rw [if_neg hnot, hresult]
  · rintro ⟨request, recomputed, stored, auditChain, hrequest, hrecomputed, hstored, hchain,
      hchainValid, hcorresponds, rfl⟩
    refine ⟨?_, rfl⟩
    have hcanonical := isCanonical_of_calculate hrequest hrecomputed
    have hverification := ((verifyStoredBundle_valid_iff hcanonical hrecomputed).mpr
      ⟨hcorresponds, rfl⟩).1
    rw [verifyPersisted, hrequest, Except.ok_bind, hrecomputed, Except.ok_bind, hchain,
      Except.ok_bind, hstored]
    simp only [hverification, Except.ok_bind, hchainValid, ne_eq, not_true_eq_false, false_and,
      if_false]
    rfl

/-- Evidence with the rows of a calculation and a valid bundle corresponds to the request. -/
theorem corresponds_of_stored {request : ImportCalculationRequest}
    {recomputed : CalculationResponse} {evidence : PersistedEvidenceBundle} {zkProof : Proof std}
    (hcanonical : request.IsCanonical)
    (hrecomputed : calculateImportLandedCost std request = .ok recomputed)
    (hrequest : evidence.request.rawInput = request.jsonPayload ∧
      evidence.request.inputHash = recomputed.integrity.inputHash)
    (hresult : evidence.result.rawOutput = recomputed.jsonPayload ∧
      evidence.result.outputHash = recomputed.integrity.outputHash)
    (hproof : evidence.proof.traceHash = recomputed.integrity.traceHash ∧
      evidence.proof.proofSystem = "plonk" ∧ evidence.proof.proofVerified = true ∧
      evidence.proof.finalProof = zkProof.finalProof ∧
      evidence.proof.circuitHash = zkProof.circuitHash std)
    (hvalid : (verifyProofBundle std backend evidence.proof.proofBundle).valid = true)
    (hbundled : getItem evidence.proof.proofBundle "proof" = .ok (.dict (zkProof.dump std)))
    (hbytes : IsAscii zkProof.proofBlobHex.toList)
    (haudit : ∀ event, evidence.auditLog = some event → event.IsSealed std) :
    Corresponds std backend request recomputed evidence where
  rawInput := by rw [hrequest.1]
  proofSystem := hproof.2.1
  inputHash := hrequest.2
  outputHash := hresult.2
  traceHash := hproof.1
  response := by
    have hfixed := isFixed_of_calculation ((calculate_eq_ok_iff hcanonical).mp hrecomputed)
    refine ⟨recomputed, recomputed, ?_, modelValidate_payload_response std hfixed, .refl recomputed,
      hresult.2.symm, hproof.1.symm⟩
    rw [hresult.1]
    exact modelValidate_jsonPayload_response std hfixed
  proofVerified := hproof.2.2.1
  bundle := hvalid
  proof := ⟨_, zkProof, hbundled, modelValidate_dump zkProof, hproof.2.2.2.1.symm,
    hproof.2.2.2.2.symm, hbytes⟩
  auditLog := haudit

end Persisted

end Vrl

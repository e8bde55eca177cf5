import Vrl.Sdk.Python.Verifier

/-!
# Vrl.Sdk.Python.VerifierSpec

What the verdict of the Python SDK's verifier means.

The required checks are listed in the order of the procedure, for a notion of
well-formed hash that is left open (`requiredChecks`). `Characterised` says that a
result is the one the list calls for: accepted exactly when all checks hold,
otherwise the code of the first that fails, and partial exactly when an optional
check fails.

The verifier's results are so characterised for its own hash format
(**`verify_characterised`**). That format is wider than the 64 hexadecimal digits
it stands for, and the last section says on which bundles this shows.
-/

open TextCodec CheckPipeline

namespace Vrl.Sdk.Python

variable (std : PyStd)

/-! ### What is to be checked -/

/-- The timestamp authority block, if there is one, is complete. -/
def timestampHolds (bundle : ProofBundle) : Bool :=
  (bundle.legal.bind (·.timestampAuthority)).all (·.isComplete)

/-- Every identifier in `depends_on` is a UUID. -/
def graphHolds (bundle : ProofBundle) : Bool :=
  (bundle.proofGraph.bind (·.dependsOn)).all fun ids => ids.all PyInt.parsesUuid

/-- The AI-ID and all hash fields are well formed. -/
def hashesWellFormed (wellFormed : String → Bool) (bundle : ProofBundle) : Bool :=
  wellFormed bundle.aiIdentity.aiId && (hashFields bundle).all fun field => wellFormed field.2

/-- The required checks and the codes they fail with, in the order of the steps. -/
def requiredChecks (wellFormed : String → Bool) (registry : CircuitRegistry)
    (bundle : ProofBundle) : List (Check VerificationStatus) :=
  [⟨bundle.vrlVersion = "1.0", .unsupportedVersion⟩,
    ⟨hashesWellFormed wellFormed bundle, .schemaInvalid⟩,
    ⟨computeBundleIdFromIntegrity std bundle.computation.integrityHash = bundle.bundleId,
      .bundleIdMismatch⟩,
    ⟨computeIntegrityHash std bundle.computation.inputHash bundle.computation.outputHash
      bundle.computation.traceHash = bundle.computation.integrityHash, .integrityMismatch⟩,
    ⟨registry bundle.computation.circuitId bundle.computation.circuitVersion =
      some bundle.computation.circuitHash, .circuitHashMismatch⟩,
    ⟨validSystems.contains bundle.proof.proofSystem &&
      recomputedProofHash std bundle = bundle.proof.proofHash, .proofInvalid⟩,
    ⟨(bundle.dataCommitments.getD []).all (commitmentHolds std), .dataCommitmentInvalid⟩]

/-- The result is the one that the checks call for. -/
structure Characterised (wellFormed : String → Bool) (registry : CircuitRegistry)
    (bundle : ProofBundle) (result : VerificationResult) : Prop where
  accepted_iff : (result.status = .valid ∨ result.status = .validPartial) ↔
    ∀ c ∈ requiredChecks std wellFormed registry bundle, c.holds = true
  rejected : ∀ e, firstFailure (requiredChecks std wellFormed registry bundle) = some e →
    result.status = e ∧ result.errors = [e]
  partial_iff : result.status = .validPartial ↔
    (∀ c ∈ requiredChecks std wellFormed registry bundle, c.holds = true) ∧
      ¬ (timestampHolds bundle = true ∧ graphHolds bundle = true)
  optional_errors : (∀ c ∈ requiredChecks std wellFormed registry bundle, c.holds = true) →
    result.errors = (if timestampHolds bundle then [] else [.timestampInvalid]) ++
      (if graphHolds bundle then [] else [.graphEdgeInvalid])

/-! ### The steps make the checks -/

/-- Nothing has failed so far. -/
def Clean (result : VerificationResult) : Prop := result.status = .valid ∧ result.errors = []

/-- The verification ended with one code. -/
def FailedWith (code : VerificationStatus) (result : VerificationResult) : Prop :=
  result.status = code ∧ result.errors = [code]

/-- The step recorded a pass. -/
def Accepted (r : VerificationResult) (out : VerificationResult × Bool) : Prop :=
  ∃ name message, out = r.accept name message

/-- The step recorded a failure and ended the verification with its code. -/
def Rejected (r : VerificationResult) (code : VerificationStatus)
    (out : VerificationResult × Bool) : Prop :=
  ∃ name message, out = r.reject name message code

theorem accepted (r : VerificationResult) (name message : String) :
    Accepted r (r.accept name message) := ⟨name, message, rfl⟩

theorem rejected (r : VerificationResult) (code : VerificationStatus) (name message : String) :
    Rejected r code (r.reject name message code) := ⟨name, message, rfl⟩

/-- A step that accepts when the check holds and rejects with its code otherwise. -/
theorem decides_of {step : Step VerificationResult} {c : Check VerificationStatus}
    (hpass : c.holds = true → ∀ r, Accepted r (step r))
    (hfail : c.holds = false → ∀ r, Rejected r c.code (step r)) :
    Decides Clean FailedWith step c where
  pass r hr hc := by
    obtain ⟨name, message, heq⟩ := hpass hc r
    rw [heq]
    exact ⟨rfl, hr⟩
  fail r hr hc := by
    obtain ⟨name, message, heq⟩ := hfail hc r
    rw [heq]
    refine ⟨rfl, rfl, ?_⟩
    rw [VerificationResult.reject, VerificationResult.recordFail, hr.2]
    rfl

/-- A step that compares two values: it rejects when they differ. -/
theorem decides_of_ne {p : Prop} [Decidable p] {code : VerificationStatus}
    {step : Step VerificationResult} {rejects accepts : Step VerificationResult}
    (hstep : ∀ r, step r = if ¬ p then rejects r else accepts r)
    (hrejects : ∀ r, Rejected r code (rejects r)) (haccepts : ∀ r, Accepted r (accepts r)) :
    Decides Clean FailedWith step ⟨p, code⟩ := by
  refine decides_of (fun hc r => ?_) fun hc r => ?_
  · rw [hstep, if_neg (not_not_intro (of_decide_eq_true hc))]
    exact haccepts r
  · rw [hstep, if_pos (of_decide_eq_false hc)]
    exact hrejects r

section Steps

variable (registry : CircuitRegistry) (bundle : ProofBundle)

theorem step1_decides : Decides Clean FailedWith (step1VersionCheck bundle)
    ⟨bundle.vrlVersion = "1.0", .unsupportedVersion⟩ :=
  decides_of_ne (fun _ => rfl) (fun r => rejected r ..) fun r => accepted r ..

theorem step2_decides : Decides Clean FailedWith (step2SchemaValidation bundle)
    ⟨hashesWellFormed isValidHexHash bundle, .schemaInvalid⟩ := by
  refine decides_of (fun hc r => ?_) fun hc r => ?_
  · obtain ⟨hai, hfields⟩ := Bool.and_eq_true_iff.mp hc
    have hnone : ((hashFields bundle).find? fun field => !isValidHexHash field.2) = none := by
      rw [List.find?_eq_none]
      intro field hfield
      simp [List.all_eq_true.mp hfields field hfield]
    unfold step2SchemaValidation
    dsimp only
    rw [hai, hnone]
    exact accepted r ..
  · unfold step2SchemaValidation
    dsimp only
    cases hai : isValidHexHash bundle.aiIdentity.aiId with
    | false => exact rejected r ..
    | true =>
        cases hfind : (hashFields bundle).find? fun field => !isValidHexHash field.2 with
        | some field => exact rejected r ..
        | none =>
            have hall : (hashFields bundle).all (fun field => isValidHexHash field.2) = true := by
              rw [List.all_eq_true]
              intro field hfield
              simpa using List.find?_eq_none.mp hfind field hfield
            rw [hashesWellFormed, hai, hall] at hc
            cases hc

theorem step3_decides : Decides Clean FailedWith (step3BundleIdCheck std bundle)
    ⟨computeBundleIdFromIntegrity std bundle.computation.integrityHash = bundle.bundleId,
      .bundleIdMismatch⟩ := by
  unfold step3BundleIdCheck
  generalize computeBundleIdFromIntegrity std bundle.computation.integrityHash = recomputed
  exact decides_of_ne (fun _ => rfl) (fun r => rejected r ..) fun r => accepted r ..

theorem step4_decides : Decides Clean FailedWith (step4IntegrityHashCheck std bundle)
    ⟨computeIntegrityHash std bundle.computation.inputHash bundle.computation.outputHash
      bundle.computation.traceHash = bundle.computation.integrityHash, .integrityMismatch⟩ := by
  unfold step4IntegrityHashCheck
  generalize computeIntegrityHash std bundle.computation.inputHash bundle.computation.outputHash
    bundle.computation.traceHash = recomputed
  exact decides_of_ne (fun _ => rfl) (fun r => rejected r ..) fun r => accepted r ..

theorem step5_decides : Decides Clean FailedWith (step5CircuitResolution registry bundle)
    ⟨registry bundle.computation.circuitId bundle.computation.circuitVersion =
      some bundle.computation.circuitHash, .circuitHashMismatch⟩ := by
  unfold step5CircuitResolution
  cases registry bundle.computation.circuitId bundle.computation.circuitVersion with
  | none => exact decides_of (fun hc => nomatch hc) fun _ r => rejected r ..
  | some circuitHash =>
      simp only [Option.some.injEq]
      exact decides_of_ne (fun _ => rfl) (fun r => rejected r ..) fun r => accepted r ..

theorem step6_decides : Decides Clean FailedWith (step6ProofStructureValidation std bundle)
    ⟨validSystems.contains bundle.proof.proofSystem &&
      recomputedProofHash std bundle = bundle.proof.proofHash, .proofInvalid⟩ := by
  unfold step6ProofStructureValidation
  dsimp only
  cases validSystems.contains bundle.proof.proofSystem with
  | false => exact decides_of (fun hc => nomatch hc) fun _ r => rejected r ..
  | true =>
      rw [Bool.true_and]
      exact decides_of_ne (fun _ => rfl) (fun r => rejected r ..) fun r => accepted r ..

theorem step7_decides : Decides Clean FailedWith (step7AiIdVerification bundle)
    ⟨!isTruthy bundle.aiIdentity.providerSignature || isValidHexHash bundle.aiIdentity.aiId,
      .aiIdInvalid⟩ := by
  unfold step7AiIdVerification
  dsimp only
  cases isTruthy bundle.aiIdentity.providerSignature with
  | false => exact decides_of (fun _ r => accepted r ..) fun hc => nomatch hc
  | true =>
      cases isValidHexHash bundle.aiIdentity.aiId with
      | false => exact decides_of (fun hc => nomatch hc) fun _ r => rejected r ..
      | true => exact decides_of (fun _ r => accepted r ..) fun hc => nomatch hc

theorem checkCommitments_decides (i : Nat) (commitments : List DataCommitment) :
    Decides Clean FailedWith (fun r => checkCommitments std r i commitments)
      ⟨commitments.all (commitmentHolds std), .dataCommitmentInvalid⟩ := by
  induction commitments generalizing i with
  | nil => exact decides_of (fun _ r => accepted r ..) fun hc => nomatch hc
  | cons commitment commitments ih =>
      simp only [checkCommitments, List.all_cons]
      cases commitmentHolds std commitment with
      | true => exact ih (i + 1)
      | false => exact decides_of (fun hc => nomatch hc) fun _ r => rejected r ..

theorem step8_decides : Decides Clean FailedWith (step8DataCommitmentVerification std bundle)
    ⟨(bundle.dataCommitments.getD []).all (commitmentHolds std), .dataCommitmentInvalid⟩ := by
  unfold step8DataCommitmentVerification
  match bundle.dataCommitments with
  | none => exact decides_of (fun _ r => accepted r ..) fun hc => nomatch hc
  | some [] => exact decides_of (fun _ r => accepted r ..) fun hc => nomatch hc
  | some (commitment :: commitments) =>
      exact checkCommitments_decides std 0 (commitment :: commitments)

/-! ### The procedure as a whole -/

/-- The required steps. -/
def requiredSteps : List (Step VerificationResult) :=
  [step1VersionCheck bundle, step2SchemaValidation bundle, step3BundleIdCheck std bundle,
    step4IntegrityHashCheck std bundle, step5CircuitResolution registry bundle,
    step6ProofStructureValidation std bundle, step7AiIdVerification bundle,
    step8DataCommitmentVerification std bundle]

/-- The verifier runs the required steps and then the optional ones. -/
theorem verify_eq_run :
    verify std registry bundle = orReturn (run (requiredSteps std registry bundle)
      { status := .valid, bundleId := bundle.bundleId }) (verifyOptional bundle) := by
  simp only [requiredSteps, orReturn_run_cons, orReturn_run_nil, verify]

/-- The checks of the required steps, step 7 included, which the schema check makes
redundant. -/
def stepChecks : List (Check VerificationStatus) :=
  (requiredChecks std isValidHexHash registry bundle).take 6 ++
    ⟨!isTruthy bundle.aiIdentity.providerSignature || isValidHexHash bundle.aiIdentity.aiId,
      .aiIdInvalid⟩ :: (requiredChecks std isValidHexHash registry bundle).drop 6

theorem requiredSteps_decide :
    List.Forall₂ (Decides Clean FailedWith) (requiredSteps std registry bundle)
      (stepChecks std registry bundle) :=
  .cons (step1_decides bundle) <| .cons (step2_decides bundle) <|
    .cons (step3_decides std bundle) <| .cons (step4_decides std bundle) <|
    .cons (step5_decides registry bundle) <| .cons (step6_decides std bundle) <|
    .cons (step7_decides bundle) <| .cons (step8_decides std bundle) .nil

/-- Step 7 never decides: a well-formed AI-ID passes it, and step 2 has seen to that. -/
theorem firstFailure_stepChecks :
    firstFailure (stepChecks std registry bundle) =
      firstFailure (requiredChecks std isValidHexHash registry bundle) := by
  rw [stepChecks, firstFailure_append_cons_implied, List.take_append_drop]
  intro h
  have hschema : hashesWellFormed isValidHexHash bundle = true :=
    h ⟨hashesWellFormed isValidHexHash bundle, .schemaInvalid⟩ (by simp [requiredChecks])
  rw [(Bool.and_eq_true_iff.mp hschema).1, Bool.or_true]

/-! ### The optional steps -/

/-- An optional step: a failure adds its code to the errors and makes the result
partial, and otherwise both are as before. -/
structure Notes (holds : Bool) (code : VerificationStatus) (r r' : VerificationResult) : Prop where
  errors : r'.errors = r.errors ++ if holds then [] else [code]
  status : r'.status = if holds then r.status else .validPartial

theorem verifyTimestamp_notes (r : VerificationResult) :
    Notes (timestampHolds bundle) .timestampInvalid r (verifyTimestamp bundle r) := by
  unfold verifyTimestamp timestampHolds step9TimestampVerification
  cases bundle.legal.bind (·.timestampAuthority) with
  | none => exact ⟨by simp, by simp⟩
  | some tsa =>
      simp only [Option.all_some]
      by_cases hc : tsa.isComplete = true
      · simp only [hc]
        exact ⟨by simp [VerificationResult.accept, VerificationResult.recordPass], rfl⟩
      · simp only [hc]
        exact ⟨by simp [VerificationResult.recordFail], rfl⟩

theorem verifyGraph_notes (r : VerificationResult) :
    Notes (graphHolds bundle) .graphEdgeInvalid r (verifyGraph bundle r) := by
  unfold verifyGraph graphHolds step10ProofGraphVerification
  match bundle.proofGraph.bind (·.dependsOn) with
  | none => exact ⟨by simp, by simp⟩
  | some [] => exact ⟨by simp, by simp⟩
  | some (id :: ids) =>
      simp only [Option.all_some]
      cases hfind : (id :: ids).find? fun bundleId => !PyInt.parsesUuid bundleId with
      | none =>
          have hall : (id :: ids).all PyInt.parsesUuid = true := by
            rw [List.all_eq_true]
            intro bundleId hmem
            simpa using List.find?_eq_none.mp hfind bundleId hmem
          rw [hall]
          exact ⟨by simp [VerificationResult.accept, VerificationResult.recordPass], rfl⟩
      | some bundleId =>
          have hall : (id :: ids).all PyInt.parsesUuid = false := by
            rw [List.all_eq_false]
            exact ⟨bundleId, List.mem_of_find?_eq_some hfind, by
              simpa using List.find?_some hfind⟩
          rw [hall]
          exact ⟨by simp [VerificationResult.recordFail], rfl⟩

/-- After required steps without a failure, the optional ones alone decide. -/
theorem verifyOptional_spec {r : VerificationResult} (hr : Clean r) :
    (verifyOptional bundle r).errors = (if timestampHolds bundle then [] else [.timestampInvalid]) ++
        (if graphHolds bundle then [] else [.graphEdgeInvalid]) ∧
      (verifyOptional bundle r).status =
        if timestampHolds bundle = true ∧ graphHolds bundle = true then .valid
        else .validPartial := by
  obtain ⟨hstatus, herrors⟩ := hr
  have hts := verifyTimestamp_notes bundle r
  have hgraph := verifyGraph_notes bundle (verifyTimestamp bundle r)
  rw [verifyOptional, hgraph.errors, hgraph.status, hts.errors, hts.status, hstatus, herrors]
  refine ⟨by rw [List.nil_append], ?_⟩
  cases timestampHolds bundle <;> cases graphHolds bundle <;> rfl

/-! ### The verdict -/

/-- The verdict depends on the hash format only through the first check to fail. -/
theorem Characterised.congr {wellFormed wellFormed' : String → Bool} {result : VerificationResult}
    (hfirst : firstFailure (requiredChecks std wellFormed registry bundle) =
      firstFailure (requiredChecks std wellFormed' registry bundle))
    (h : Characterised std wellFormed registry bundle result) :
    Characterised std wellFormed' registry bundle result := by
  have hall : (∀ c ∈ requiredChecks std wellFormed' registry bundle, c.holds = true) ↔
      ∀ c ∈ requiredChecks std wellFormed registry bundle, c.holds = true := by
    rw [← firstFailure_eq_none_iff, ← firstFailure_eq_none_iff, hfirst]
  refine ⟨h.accepted_iff.trans hall.symm, fun e he => h.rejected e (hfirst.trans he), ?_,
    fun hc => h.optional_errors (hall.mp hc)⟩
  rw [hall]
  exact h.partial_iff

/-- The codes of the required checks are rejections. -/
theorem code_ne_accepting {wellFormed : String → Bool} {c : Check VerificationStatus}
    (hc : c ∈ requiredChecks std wellFormed registry bundle) :
    c.code ≠ .valid ∧ c.code ≠ .validPartial := by
  simp only [requiredChecks, List.mem_cons, List.not_mem_nil, or_false] at hc
  obtain rfl | rfl | rfl | rfl | rfl | rfl | rfl := hc <;> simp

/-- **The verifier returns the verdict that its checks call for**, hashes being well
formed when its own format check says so. -/
theorem verify_characterised :
    Characterised std isValidHexHash registry bundle (verify std registry bundle) := by
  have hreport := run_decides Clean FailedWith (requiredSteps_decide std registry bundle)
    (s := { status := .valid, bundleId := bundle.bundleId }) ⟨rfl, rfl⟩
  rw [firstFailure_stepChecks] at hreport
  rw [verify_eq_run]
  revert hreport
  generalize run (requiredSteps std registry bundle) _ = out
  obtain ⟨r, goOn⟩ := out
  cases hfirst : firstFailure (requiredChecks std isValidHexHash registry bundle) with
  | none =>
      -- no required check fails: the optional ones decide between valid and partial
      rintro ⟨hgo, hstatus, herrors⟩
      have hall := firstFailure_eq_none_iff.mp hfirst
      obtain ⟨heq, hst⟩ := verifyOptional_spec bundle ⟨hstatus, herrors⟩
      rw [hgo, orReturn, if_pos rfl]
      have hrejected : ∀ e, firstFailure (requiredChecks std isValidHexHash registry bundle) =
          some e → (verifyOptional bundle r).status = e ∧ (verifyOptional bundle r).errors = [e] := by
        intro e he
        cases hfirst.symm.trans he
      by_cases hopt : timestampHolds bundle = true ∧ graphHolds bundle = true
      · rw [if_pos hopt] at hst
        exact ⟨⟨fun _ => hall, fun _ => Or.inl hst⟩, hrejected, by simp [hst, hopt], fun _ => heq⟩
      · rw [if_neg hopt] at hst
        exact ⟨⟨fun _ => hall, fun _ => Or.inr hst⟩, hrejected,
          ⟨fun _ => ⟨hall, hopt⟩, fun _ => hst⟩, fun _ => heq⟩
  | some e =>
      -- the first failure ends the run, and its code is never an accepting one
      rintro ⟨hstop, hstatus, herrors⟩
      have hnot : ¬ ∀ c ∈ requiredChecks std isValidHexHash registry bundle, c.holds = true := by
        rw [← firstFailure_eq_none_iff, hfirst]
        exact Option.some_ne_none e
      obtain ⟨c, hc, -, rfl⟩ := code_mem_of_firstFailure hfirst
      obtain ⟨hvalid, hnotFull⟩ := code_ne_accepting std registry bundle hc
      rw [hstop, orReturn, if_neg Bool.false_ne_true]
      refine ⟨?_, ?_, ?_, fun h => absurd h hnot⟩
      · simp [hstatus, hvalid, hnotFull, hnot]
      · intro e he
        rw [hfirst] at he
        cases he
        exact ⟨hstatus, herrors⟩
      · simp [hstatus, hnotFull, hnot]

/-- The status is the code of the first required check that fails, and when there is none
it is valid or partial. -/
theorem verify_status :
    (verify std registry bundle).status =
      (firstFailure (requiredChecks std isValidHexHash registry bundle)).getD
        (if timestampHolds bundle = true ∧ graphHolds bundle = true then .valid
          else .validPartial) := by
  have hown := verify_characterised std registry bundle
  cases hfirst : firstFailure (requiredChecks std isValidHexHash registry bundle) with
  | some e => exact (hown.rejected e hfirst).1
  | none =>
      have hall := firstFailure_eq_none_iff.mp hfirst
      have haccepted := hown.accepted_iff.mpr hall
      have hpart := hown.partial_iff
      by_cases hopt : timestampHolds bundle = true ∧ graphHolds bundle = true
      · rw [Option.getD_none, if_pos hopt]
        exact haccepted.resolve_right fun h => (hpart.mp h).2 hopt
      · rw [Option.getD_none, if_neg hopt]
        exact hpart.mpr ⟨hall, hopt⟩

end Steps

/-! ### The hash format -/

/-- 64 lower-case hexadecimal digits. -/
def isHexHash (value : String) : Bool :=
  value.toList.length = 64 && value.toList.all isLowerHex

theorem isHexHash_ofList_hexFixed (n : Nat) : isHexHash (String.ofList (hexFixed 64 n)) = true := by
  rw [isHexHash, String.toList_ofList, hexFixed_length, Bool.and_eq_true_iff, List.all_eq_true]
  exact ⟨by simp, hexFixed_isLowerHex 64 n⟩

/-- The verifier accepts every hash that is well formed. -/
theorem isValidHexHash_of_isHexHash {value : String} (h : isHexHash value = true) :
    isValidHexHash value = true := by
  obtain ⟨hlen, hall⟩ := Bool.and_eq_true_iff.mp h
  rw [List.all_eq_true] at hall
  have hne : value.toList ≠ [] := by
    intro hnil
    rw [hnil] at hlen
    cases hlen
  have hlower : (value.toList.all fun c => !('A' ≤ c && c ≤ 'Z')) = true := by
    rw [List.all_eq_true]
    intro c hc
    exact not_capital_of_isLowerHex (hall c hc)
  rw [isValidHexHash, hlen, PyInt.parsesBase16_of_isLowerHex hne hall, hlower]
  rfl

theorem hashesWellFormed_mono {wellFormed wellFormed' : String → Bool}
    (himp : ∀ value, wellFormed value = true → wellFormed' value = true) {bundle : ProofBundle}
    (h : hashesWellFormed wellFormed bundle = true) :
    hashesWellFormed wellFormed' bundle = true := by
  obtain ⟨hai, hfields⟩ := Bool.and_eq_true_iff.mp h
  rw [List.all_eq_true] at hfields
  rw [hashesWellFormed, himp _ hai, Bool.true_and, List.all_eq_true]
  intro field hfield
  exact himp _ (hfields field hfield)

section Format

variable (registry : CircuitRegistry) (bundle : ProofBundle)

theorem firstFailure_of_version {wellFormed : String → Bool}
    (hversion : bundle.vrlVersion ≠ "1.0") :
    firstFailure (requiredChecks std wellFormed registry bundle) = some .unsupportedVersion := by
  rw [requiredChecks, firstFailure, if_neg]
  exact fun h => hversion (of_decide_eq_true h)

theorem firstFailure_of_malformed {wellFormed : String → Bool}
    (hversion : bundle.vrlVersion = "1.0") (hwf : hashesWellFormed wellFormed bundle = false) :
    firstFailure (requiredChecks std wellFormed registry bundle) = some .schemaInvalid := by
  rw [requiredChecks, firstFailure, if_pos (decide_eq_true hversion), firstFailure, hwf]
  rfl

/-- A bundle of the supported version is only rejected as malformed when one of its
hashes is. -/
theorem schemaInvalid_iff (hversion : bundle.vrlVersion = "1.0") :
    (verify std registry bundle).status = .schemaInvalid ↔
      hashesWellFormed isValidHexHash bundle = false := by
  have hown := verify_characterised std registry bundle
  constructor
  · intro hstatus
    cases hfirst : firstFailure (requiredChecks std isValidHexHash registry bundle) with
    | none =>
        have hacc := hown.accepted_iff.mpr (firstFailure_eq_none_iff.mp hfirst)
        rw [hstatus] at hacc
        obtain h | h := hacc <;> cases h
    | some e =>
        obtain rfl : e = .schemaInvalid := (hown.rejected e hfirst).1.symm.trans hstatus
        obtain ⟨c, hc, hfails, hcode⟩ := code_mem_of_firstFailure hfirst
        simp only [requiredChecks, List.mem_cons, List.not_mem_nil, or_false] at hc
        -- only the schema check has this code
        obtain rfl | rfl | rfl | rfl | rfl | rfl | rfl := hc
        · cases hcode
        · exact hfails
        all_goals cases hcode
  · intro hfails
    exact (hown.rejected .schemaInvalid
      (firstFailure_of_malformed std registry bundle hversion hfails)).1

/-- **The verdict is the one for 64 hexadecimal digits** exactly when the schema
check is not reached, or fails, or every hash has that form: the verifier's own
format admits more. -/
theorem verify_characterised_strict_iff :
    Characterised std isHexHash registry bundle (verify std registry bundle) ↔
      (bundle.vrlVersion ≠ "1.0" ∨ hashesWellFormed isValidHexHash bundle = false ∨
        hashesWellFormed isHexHash bundle = true) := by
  have hown := verify_characterised std registry bundle
  have hmono := @hashesWellFormed_mono isHexHash isValidHexHash
    (fun _ => isValidHexHash_of_isHexHash) bundle
  by_cases hversion : bundle.vrlVersion = "1.0"
  · cases hvalid : hashesWellFormed isValidHexHash bundle with
    | false =>
        have hstrict : hashesWellFormed isHexHash bundle = false := by
          rw [← Bool.not_eq_true]
          intro h
          rw [hmono h] at hvalid
          cases hvalid
        refine iff_of_true (hown.congr std registry bundle ?_) (Or.inr (Or.inl rfl))
        rw [firstFailure_of_malformed std registry bundle hversion hvalid,
          firstFailure_of_malformed std registry bundle hversion hstrict]
    | true =>
        cases hstrict : hashesWellFormed isHexHash bundle with
        | true =>
            refine iff_of_true (hown.congr std registry bundle ?_) (Or.inr (Or.inr rfl))
            rw [requiredChecks, requiredChecks, hvalid, hstrict]
        | false =>
            refine iff_of_false (fun hchar => ?_) (by simp [hversion])
            obtain ⟨hstatus, -⟩ := hchar.rejected .schemaInvalid
              (firstFailure_of_malformed std registry bundle hversion hstrict)
            rw [(schemaInvalid_iff std registry bundle hversion).mp hstatus] at hvalid
            cases hvalid
  · refine iff_of_true (hown.congr std registry bundle ?_) (Or.inl hversion)
    rw [firstFailure_of_version std registry bundle hversion,
      firstFailure_of_version std registry bundle hversion]

end Format

/-! ### A bundle with a prefixed AI-ID -/

section Prefixed

/-- A bundle about three hashes, with everything else computed as it should be. -/
def honestBundle (aiId inputHash outputHash traceHash : String) : ProofBundle :=
  let integrityHash := computeIntegrityHash std inputHash outputHash traceHash
  let circuitHash := ((mockRegistry std "trade/import-landed-cost" "1.0.0").getD "")
  { vrlVersion := "1.0"
    bundleId := computeBundleIdFromIntegrity std integrityHash
    issuedAt := "2026-01-01T00:00:00Z"
    aiIdentity :=
      { aiId, modelName := "model", modelVersion := "1", providerId := "provider",
        executionEnvironment := "api-hash-binding" }
    computation :=
      { circuitId := "trade/import-landed-cost", circuitVersion := "1.0.0", circuitHash,
        inputHash, outputHash, traceHash, integrityHash }
    proof :=
      { proofSystem := "sha256-deterministic", proofBytes := "", publicInputs := [],
        verificationKeyId := "",
        proofHash := computeProofHash std circuitHash "" [] "sha256-deterministic" traceHash } }

theorem honestBundle_checks {wellFormed : String → Bool} {aiId inputHash outputHash traceHash : String}
    (hdigest : ∀ s, wellFormed (std.hexdigest s) = true) (hai : wellFormed aiId = true)
    (hin : wellFormed inputHash = true) (hout : wellFormed outputHash = true)
    (htrace : wellFormed traceHash = true) :
    ∀ c ∈ requiredChecks std wellFormed (mockRegistry std)
      (honestBundle std aiId inputHash outputHash traceHash), c.holds = true := by
  have hwf : hashesWellFormed wellFormed
      (honestBundle std aiId inputHash outputHash traceHash) = true := by
    simp only [hashesWellFormed, hashFields, honestBundle, mockRegistry, computeIntegrityHash,
      computeProofHash, sha256, Option.getD_some, List.all_cons, List.all_nil, hdigest, hai, hin,
      hout, htrace, Bool.and_self]
  intro c hc
  simp only [requiredChecks, List.mem_cons, List.not_mem_nil, or_false] at hc
  obtain rfl | rfl | rfl | rfl | rfl | rfl | rfl := hc
  · simp only [honestBundle, decide_true]
  · exact hwf
  · simp only [honestBundle, decide_true]
  · simp only [honestBundle, decide_true]
  · simp only [honestBundle, mockRegistry, Option.getD_some, decide_true]
  · have hsystem : validSystems.contains "sha256-deterministic" = true := by decide +kernel
    simp only [honestBundle, recomputedProofHash, hsystem, decide_true, Bool.and_self]
  · simp only [honestBundle, Option.getD_none, List.all_nil]

theorem honestBundle_valid {aiId inputHash outputHash traceHash : String}
    (hdigest : ∀ s, isValidHexHash (std.hexdigest s) = true) (hai : isValidHexHash aiId = true)
    (hin : isValidHexHash inputHash = true) (hout : isValidHexHash outputHash = true)
    (htrace : isValidHexHash traceHash = true) :
    (verify std (mockRegistry std)
      (honestBundle std aiId inputHash outputHash traceHash)).status = .valid := by
  have hown := verify_characterised std (mockRegistry std)
    (honestBundle std aiId inputHash outputHash traceHash)
  refine (hown.accepted_iff.mpr (honestBundle_checks std hdigest hai hin hout htrace)).resolve_right
    fun hnotFull => ?_
  exact (hown.partial_iff.mp hnotFull).2 ⟨rfl, rfl⟩

/-- The stand-in's digests are well formed. -/
theorem isValidHexHash_hexFixed (n : Nat) :
    isValidHexHash (String.ofList (hexFixed 64 n)) = true :=
  isValidHexHash_of_isHexHash (isHexHash_ofList_hexFixed n)

/-- 64 characters that `int` reads and that are not 64 digits. -/
def prefixedHash : String := String.ofList ('0' :: 'x' :: List.replicate 62 '0')

/-- A bundle that is as it should be but for its AI-ID. -/
def prefixedBundle : ProofBundle :=
  honestBundle lengthStd prefixedHash (String.ofList (hexFixed 64 1))
    (String.ofList (hexFixed 64 2)) (String.ofList (hexFixed 64 3))

theorem prefixedHash_isValid : isValidHexHash prefixedHash = true := by
  unfold isValidHexHash prefixedHash
  simp only [String.toList_ofList]
  decide +kernel

theorem prefixedHash_not_isHexHash : isHexHash prefixedHash = false := by
  unfold isHexHash prefixedHash
  simp only [String.toList_ofList]
  decide +kernel

/-- The verifier accepts the bundle with the prefixed AI-ID, which is not for its
verdict to be. -/
theorem prefixedBundle_accepted :
    (verify lengthStd (mockRegistry lengthStd) prefixedBundle).status = .valid ∧
      ¬ Characterised lengthStd isHexHash (mockRegistry lengthStd) prefixedBundle
        (verify lengthStd (mockRegistry lengthStd) prefixedBundle) := by
  have hvalid := honestBundle_valid lengthStd (fun s => isValidHexHash_hexFixed s.utf8ByteSize)
    prefixedHash_isValid (isValidHexHash_hexFixed 1) (isValidHexHash_hexFixed 2)
    (isValidHexHash_hexFixed 3)
  refine ⟨hvalid, fun hchar => ?_⟩
  have hschema : hashesWellFormed isHexHash prefixedBundle = true :=
    hchar.accepted_iff.mp (Or.inl hvalid)
      ⟨hashesWellFormed isHexHash prefixedBundle, .schemaInvalid⟩ (by simp [requiredChecks])
  have hai : isHexHash prefixedHash = true := (Bool.and_eq_true_iff.mp hschema).1
  rw [prefixedHash_not_isHexHash] at hai
  cases hai

end Prefixed

end Vrl.Sdk.Python

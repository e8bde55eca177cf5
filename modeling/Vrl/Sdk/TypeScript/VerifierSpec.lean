import Vrl.Lib.CheckPipeline
import Vrl.Sdk.TypeScript.Verifier

/-!
# Vrl.Sdk.TypeScript.VerifierSpec

What the status of the TypeScript SDK's verifier is: after the version and the schema,
the code of the last of the required checks that fails (**`verify_status`**).
-/

open TextCodec CheckPipeline

namespace Vrl.Sdk.TypeScript

variable (sha : Sha256) (unicode : UnicodeData)

/-! ### What is checked -/

/-- The AI-ID and all hash fields are well formed. -/
def hashesWellFormed (bundle : ProofBundle) : Bool :=
  isValidHexHash unicode bundle.aiIdentity.aiId &&
    (hashFields bundle).all fun field => isValidHexHash unicode field.2

/-- The required fields are not empty, and the hashes well formed. -/
def schemaHolds (bundle : ProofBundle) : Bool :=
  bundle.bundleId ≠ "" && bundle.issuedAt ≠ "" && hashesWellFormed unicode bundle

/-- The checks of steps 3 to 8 and the codes they fail with. -/
def requiredChecks (bundle : ProofBundle) : List (Check VerificationStatus) :=
  [⟨uuidRegex bundle.bundleId, .bundleIdMismatch⟩,
    ⟨computeIntegrityHash sha bundle.computation.inputHash bundle.computation.outputHash
      bundle.computation.traceHash = bundle.computation.integrityHash, .integrityMismatch⟩,
    ⟨isValidHexHash unicode bundle.computation.circuitHash, .circuitHashMismatch⟩,
    ⟨validSystems.contains bundle.proof.proofSystem &&
      recomputedProofHash sha bundle = bundle.proof.proofHash, .proofInvalid⟩,
    ⟨isValidHexHash unicode bundle.aiIdentity.aiId, .aiIdInvalid⟩,
    ⟨(bundle.dataCommitments.getD []).all (commitmentHolds sha), .dataCommitmentInvalid⟩]

/-- The timestamp authority block, if there is one, is complete. -/
def timestampHolds (bundle : ProofBundle) : Bool :=
  (bundle.legal.bind (·.timestampAuthority)).all fun tsa =>
    (step9TimestampVerification tsa).passed

/-- Every identifier in `depends_on` is a UUID. -/
def graphHolds (bundle : ProofBundle) : Bool :=
  (bundle.proofGraph.bind (·.dependsOn)).all fun ids => ids.all uuidRegex

/-! ### The steps make the checks -/

section Steps

variable (bundle : ProofBundle)

theorem step1_passed :
    (step1VersionCheck bundle).passed = decide (bundle.vrlVersion = "1.0") := by
  unfold step1VersionCheck
  by_cases h : bundle.vrlVersion = "1.0"
  · simp [h]
  · simp [h]

theorem step2_passed :
    (step2SchemaValidation unicode bundle).passed = schemaHolds unicode bundle := by
  unfold step2SchemaValidation schemaHolds hashesWellFormed
  dsimp only
  by_cases hempty : bundle.bundleId = "" ∨ bundle.issuedAt = ""
  · rw [if_pos hempty]
    rcases hempty with h | h
    · simp [h]
    · simp [h]
  · rw [if_neg hempty]
    rw [not_or] at hempty
    cases hai : isValidHexHash unicode bundle.aiIdentity.aiId with
    | false => simp
    | true =>
        cases hfind : (hashFields bundle).find? fun field => !isValidHexHash unicode field.2 with
        | some field =>
            have hfails : (hashFields bundle).all (fun field => isValidHexHash unicode field.2) =
                false := by
              rw [List.all_eq_false]
              exact ⟨field, List.mem_of_find?_eq_some hfind, by simpa using List.find?_some hfind⟩
            simp [hfails]
        | none =>
            have hall : (hashFields bundle).all (fun field => isValidHexHash unicode field.2) =
                true := by
              rw [List.all_eq_true]
              intro field hfield
              simpa using List.find?_eq_none.mp hfind field hfield
            simp [hall, hempty]

theorem step3_passed : (step3BundleIdCheck bundle).passed = uuidRegex bundle.bundleId := by
  unfold step3BundleIdCheck
  cases uuidRegex bundle.bundleId <;> rfl

theorem step4_passed : (step4IntegrityHashCheck sha bundle).passed =
    decide (computeIntegrityHash sha bundle.computation.inputHash bundle.computation.outputHash
      bundle.computation.traceHash = bundle.computation.integrityHash) := by
  unfold step4IntegrityHashCheck
  generalize computeIntegrityHash sha bundle.computation.inputHash bundle.computation.outputHash
    bundle.computation.traceHash = recomputed
  by_cases h : recomputed = bundle.computation.integrityHash
  · simp [h]
  · simp [h]

theorem step5_passed : (step5CircuitResolution unicode bundle).passed =
    isValidHexHash unicode bundle.computation.circuitHash := by
  unfold step5CircuitResolution
  cases isValidHexHash unicode bundle.computation.circuitHash <;> rfl

theorem step6_passed : (step6ProofStructureValidation sha bundle).passed =
    (validSystems.contains bundle.proof.proofSystem &&
      recomputedProofHash sha bundle = bundle.proof.proofHash) := by
  unfold step6ProofStructureValidation
  dsimp only
  cases validSystems.contains bundle.proof.proofSystem with
  | false => rfl
  | true =>
      by_cases h : recomputedProofHash sha bundle = bundle.proof.proofHash
      · simp [h]
      · simp [h]

theorem step7_passed : (step7AIIdVerification unicode bundle).passed =
    isValidHexHash unicode bundle.aiIdentity.aiId := by
  unfold step7AIIdVerification
  dsimp only
  cases isValidHexHash unicode bundle.aiIdentity.aiId <;> rfl

theorem checkCommitments_passed (i : Nat) (commitments : List DataCommitment) :
    (checkCommitments sha i commitments).passed = commitments.all (commitmentHolds sha) := by
  induction commitments generalizing i with
  | nil => rfl
  | cons commitment commitments ih =>
      simp only [checkCommitments, List.all_cons]
      cases commitmentHolds sha commitment with
      | true => exact ih (i + 1)
      | false => rfl

theorem step8_passed : (step8DataCommitmentVerification sha bundle).passed =
    (bundle.dataCommitments.getD []).all (commitmentHolds sha) := by
  unfold step8DataCommitmentVerification
  match bundle.dataCommitments with
  | none => rfl
  | some [] => rfl
  | some (commitment :: commitments) =>
      exact checkCommitments_passed sha 0 (commitment :: commitments)

theorem step10_passed (ids : List String) :
    (step10ProofGraphVerification ids).passed = ids.all uuidRegex := by
  unfold step10ProofGraphVerification
  cases hfind : ids.find? fun bundleId => !uuidRegex bundleId with
  | some bundleId =>
      have hfails : ids.all uuidRegex = false := by
        rw [List.all_eq_false]
        exact ⟨bundleId, List.mem_of_find?_eq_some hfind, by simpa using List.find?_some hfind⟩
      rw [hfails]
  | none =>
      have hall : ids.all uuidRegex = true := by
        rw [List.all_eq_true]
        intro bundleId hmem
        simpa using List.find?_eq_none.mp hfind bundleId hmem
      rw [hall]

/-! ### The status -/

/-- A step from 3 to 8 sets the status over what it was when its check fails. -/
theorem afterStep_status (result : VerificationResult) {step : VerificationStep} {holds : Bool}
    (code : VerificationStatus) (h : step.passed = holds) :
    (result.afterStep step code).status = overwrite result.status ⟨holds, code⟩ := by
  subst h
  unfold VerificationResult.afterStep overwrite
  cases step.passed <;> rfl

/-- An optional step makes a valid result partial when its check fails. -/
theorem afterOptional_status (result : VerificationResult) {step : VerificationStep}
    {holds : Bool} (code : VerificationStatus) (h : step.passed = holds) :
    (result.afterOptional step code).status =
      if holds = false ∧ result.status = .valid then .validPartial else result.status := by
  subst h
  unfold VerificationResult.afterOptional
  cases step.passed with
  | true => rfl
  | false =>
      by_cases hvalid : result.status = .valid
      · simp [hvalid]
      · simp [hvalid]

theorem verifySteps_status (result : VerificationResult) :
    (verifySteps sha unicode bundle result).status =
      (lastFailure (requiredChecks sha unicode bundle)).getD result.status := by
  rw [← foldl_overwrite, verifySteps, afterStep_status _ _ (step8_passed sha bundle),
    afterStep_status _ _ (step7_passed unicode bundle),
    afterStep_status _ _ (step6_passed sha bundle),
    afterStep_status _ _ (step5_passed unicode bundle),
    afterStep_status _ _ (step4_passed sha bundle), afterStep_status _ _ (step3_passed bundle)]
  rfl

theorem verifyTimestamp_status (result : VerificationResult) :
    (verifyTimestamp bundle result).status =
      if timestampHolds bundle = false ∧ result.status = .valid then .validPartial
      else result.status := by
  unfold verifyTimestamp timestampHolds
  cases bundle.legal.bind (·.timestampAuthority) with
  | none => simp
  | some tsa => exact afterOptional_status result _ rfl

theorem verifyGraph_status (result : VerificationResult) :
    (verifyGraph bundle result).status =
      if graphHolds bundle = false ∧ result.status = .valid then .validPartial
      else result.status := by
  unfold verifyGraph graphHolds
  cases bundle.proofGraph.bind (·.dependsOn) with
  | none => simp
  | some ids => exact afterOptional_status result _ (step10_passed ids)

/-- The codes of the required checks are rejections. -/
theorem lastFailure_ne_valid {e : VerificationStatus}
    (h : lastFailure (requiredChecks sha unicode bundle) = some e) : e ≠ .valid := by
  obtain ⟨c, hc, -, rfl⟩ := code_mem_of_lastFailure h
  simp only [requiredChecks, List.mem_cons, List.not_mem_nil, or_false] at hc
  obtain rfl | rfl | rfl | rfl | rfl | rfl := hc <;> simp

/-- **The status is the code of the last required check that fails**, and when there is
none it is valid or partial. -/
theorem verify_status :
    (verify sha unicode bundle).status =
      if bundle.vrlVersion ≠ "1.0" then .unsupportedVersion
      else if schemaHolds unicode bundle = false then .schemaInvalid
      else (lastFailure (requiredChecks sha unicode bundle)).getD
        (if timestampHolds bundle = true ∧ graphHolds bundle = true then .valid
          else .validPartial) := by
  unfold verify
  dsimp only
  rw [step1_passed, step2_passed]
  by_cases hversion : bundle.vrlVersion = "1.0"
  · cases hschema : schemaHolds unicode bundle with
    | false => simp [hversion]
    | true =>
        simp only [hversion, decide_true, Bool.not_true, Bool.false_eq_true, if_false, ne_eq,
          not_true_eq_false, reduceCtorEq]
        rw [verifyGraph_status, verifyTimestamp_status, verifySteps_status]
        cases hlast : lastFailure (requiredChecks sha unicode bundle) with
        | none =>
            simp only [Option.getD_none]
            cases timestampHolds bundle <;> cases graphHolds bundle <;> rfl
        | some e =>
            have hne := lastFailure_ne_valid sha unicode bundle hlast
            simp [hne]
  · simp [hversion]

end Steps

end Vrl.Sdk.TypeScript

import Vrl.Sdk.Go.Verifier

/-!
# Vrl.Sdk.Go.VerifierSpec

What the verdict of the Go SDK's verifier means: it is the code of the first of
the checks that fails, and valid when there is none (**`verify_verdict`**).
-/

open TextCodec CheckPipeline

namespace Vrl.Sdk.Go

variable (sha : Sha256)

/-- The checks and the codes they fail with, in the order of the steps. -/
def requiredChecks (bundle : ProofBundle) : List (Check VerificationStatus) :=
  [⟨bundle.vrlVersion = "1.0", .unsupportedVersion⟩,
    ⟨(validateSchema bundle).isNone, .schemaInvalid⟩,
    ⟨uuidv5 sha vrlNamespace bundle.computation.integrityHash = some bundle.bundleId,
      .bundleIdMismatch⟩,
    ⟨computeIntegrityHash sha bundle.computation.inputHash bundle.computation.outputHash
      bundle.computation.traceHash = bundle.computation.integrityHash, .integrityMismatch⟩,
    ⟨isValidSHA256 bundle.computation.circuitHash, .circuitHashMismatch⟩,
    ⟨(verifyProof bundle).isNone, .proofInvalid⟩,
    ⟨bundle.dataCommitments.all fun dc => recomputedCommitment sha dc = dc.commitmentHash,
      .dataCommitmentInvalid⟩]

/-! ### The steps make the checks -/

/-- Nothing has failed so far, and there is no verdict yet. -/
def Clean (result : VerificationResult) : Prop := result.errorCodes = []

/-- The verification ended with one code. -/
def FailedWith (code : VerificationStatus) (result : VerificationResult) : Prop :=
  result.status = some code ∧ result.errorCodes = [code] ∧ result.valid = false

/-- The step did not fail; it may have been recorded. -/
def Accepted (r : VerificationResult) (out : VerificationResult × Bool) : Prop :=
  ∃ steps, out = ({ r with steps }, true)

/-- The step recorded a failure and ended the verification with its code. -/
def Rejected (r : VerificationResult) (code : VerificationStatus)
    (out : VerificationResult × Bool) : Prop :=
  ∃ name error, out = r.reject name error code

theorem accepted (r : VerificationResult) (name : String) (status : StepStatus) (error : String) :
    Accepted r (r.accept name status error) := ⟨_, rfl⟩

theorem rejected (r : VerificationResult) (code : VerificationStatus) (name error : String) :
    Rejected r code (r.reject name error code) := ⟨name, error, rfl⟩

/-- A step that accepts when the check holds and rejects with its code otherwise. -/
theorem decides_of {step : Step VerificationResult} {c : Check VerificationStatus}
    (hpass : c.holds = true → ∀ r, Accepted r (step r))
    (hfail : c.holds = false → ∀ r, Rejected r c.code (step r)) :
    Decides Clean FailedWith step c where
  pass r hr hc := by
    obtain ⟨steps, heq⟩ := hpass hc r
    rw [heq]
    exact ⟨rfl, hr⟩
  fail r hr hc := by
    obtain ⟨name, error, heq⟩ := hfail hc r
    have hcodes : r.errorCodes = [] := hr
    rw [heq]
    refine ⟨rfl, rfl, ?_, rfl⟩
    simp [VerificationResult.reject, VerificationResult.stop, VerificationResult.record, hcodes]

/-- A step that compares two values: it rejects when they differ. -/
theorem decides_of_ne {p : Prop} [Decidable p] {code : VerificationStatus}
    {step : Step VerificationResult} {rejects accepts : Step VerificationResult}
    (hstep : ∀ r, step r = if ¬ p then rejects r else accepts r)
    (hrejects : ∀ r, Rejected r code (rejects r)) (haccepts : ∀ r, Accepted r (accepts r)) :
    Decides Clean FailedWith step ⟨p, code⟩ := by
  refine decides_of (fun hc r => ?_) fun hc r => ?_
  · rw [hstep, if_neg (not_not_intro (of_decide_eq_true hc))]
    exact haccepts r
  · rw [hstep, if_pos (of_decide_eq_false hc)]
    exact hrejects r

section Steps

variable (bundle : ProofBundle)

theorem step1_decides : Decides Clean FailedWith (step1 bundle)
    ⟨bundle.vrlVersion = "1.0", .unsupportedVersion⟩ :=
  decides_of_ne (fun _ => rfl) (fun r => rejected r ..) fun r => accepted r ..

theorem step2_decides : Decides Clean FailedWith (step2 bundle)
    ⟨(validateSchema bundle).isNone, .schemaInvalid⟩ := by
  unfold step2
  cases validateSchema bundle with
  | none => exact decides_of (fun _ r => accepted r ..) fun hc => nomatch hc
  | some err => exact decides_of (fun hc => nomatch hc) fun _ r => rejected r ..

theorem step3_decides : Decides Clean FailedWith (step3 sha bundle)
    ⟨uuidv5 sha vrlNamespace bundle.computation.integrityHash = some bundle.bundleId,
      .bundleIdMismatch⟩ := by
  unfold step3
  generalize uuidv5 sha vrlNamespace bundle.computation.integrityHash = recomputed
  exact decides_of_ne (fun _ => rfl) (fun r => rejected r ..) fun r => accepted r ..

theorem step4_decides : Decides Clean FailedWith (step4 sha bundle)
    ⟨computeIntegrityHash sha bundle.computation.inputHash bundle.computation.outputHash
      bundle.computation.traceHash = bundle.computation.integrityHash, .integrityMismatch⟩ := by
  unfold step4
  generalize computeIntegrityHash sha bundle.computation.inputHash bundle.computation.outputHash
    bundle.computation.traceHash = recomputed
  exact decides_of_ne (fun _ => rfl) (fun r => rejected r ..) fun r => accepted r ..

theorem step5_decides : Decides Clean FailedWith (step5 bundle)
    ⟨isValidSHA256 bundle.computation.circuitHash, .circuitHashMismatch⟩ := by
  unfold step5
  cases isValidSHA256 bundle.computation.circuitHash with
  | false => exact decides_of (fun hc => nomatch hc) fun _ r => rejected r ..
  | true => exact decides_of (fun _ r => accepted r ..) fun hc => nomatch hc

theorem step6_decides : Decides Clean FailedWith (step6 bundle)
    ⟨(verifyProof bundle).isNone, .proofInvalid⟩ := by
  unfold step6
  cases verifyProof bundle with
  | none => exact decides_of (fun _ r => accepted r ..) fun hc => nomatch hc
  | some err => exact decides_of (fun hc => nomatch hc) fun _ r => rejected r ..

/-- Step 7 cannot fail. -/
theorem step7_decides : Decides Clean FailedWith (step7 bundle) ⟨true, .aiIdInvalid⟩ := by
  refine decides_of (fun _ r => ?_) fun hc => nomatch hc
  unfold step7
  split
  · exact accepted r ..
  · exact accepted r ..

theorem checkCommitments_decides (i : Nat) (dcs : List DataCommitment) :
    Decides Clean FailedWith (fun r => checkCommitments sha r i dcs)
      ⟨dcs.all fun dc => recomputedCommitment sha dc = dc.commitmentHash,
        .dataCommitmentInvalid⟩ := by
  induction dcs generalizing i with
  | nil => exact decides_of (fun _ r => accepted r ..) fun hc => nomatch hc
  | cons dc dcs ih =>
      simp only [checkCommitments, List.all_cons]
      by_cases hdc : recomputedCommitment sha dc = dc.commitmentHash
      · simp only [hdc, ne_eq, not_true_eq_false, if_false, decide_true, Bool.true_and]
        exact ih (i + 1)
      · simp only [hdc, ne_eq, not_false_eq_true, if_true, decide_false, Bool.false_and]
        exact decides_of (fun hc => nomatch hc) fun _ r => rejected r ..

theorem step8_decides : Decides Clean FailedWith (step8 sha bundle)
    ⟨bundle.dataCommitments.all fun dc => recomputedCommitment sha dc = dc.commitmentHash,
      .dataCommitmentInvalid⟩ := by
  unfold step8
  cases bundle.dataCommitments with
  | nil => exact decides_of (fun _ r => ⟨r.steps, rfl⟩) fun hc => nomatch hc
  | cons dc dcs => exact checkCommitments_decides sha 0 (dc :: dcs)

/-! ### The verdict -/

/-- The steps that can end the verification. -/
def requiredSteps : List (Step VerificationResult) :=
  [step1 bundle, step2 bundle, step3 sha bundle, step4 sha bundle, step5 bundle, step6 bundle,
    step7 bundle, step8 sha bundle]

theorem verify_eq_run :
    verify sha bundle = orReturn (run (requiredSteps sha bundle) {}) (conclude bundle) := by
  simp only [requiredSteps, orReturn_run_cons, orReturn_run_nil, verify]

/-- The checks of these steps, with the one of step 7 that always holds. -/
def stepChecks : List (Check VerificationStatus) :=
  (requiredChecks sha bundle).take 6 ++ ⟨true, .aiIdInvalid⟩ :: (requiredChecks sha bundle).drop 6

theorem requiredSteps_decide :
    List.Forall₂ (Decides Clean FailedWith) (requiredSteps sha bundle) (stepChecks sha bundle) :=
  .cons (step1_decides bundle) <| .cons (step2_decides bundle) <|
    .cons (step3_decides sha bundle) <| .cons (step4_decides sha bundle) <|
    .cons (step5_decides bundle) <| .cons (step6_decides bundle) <|
    .cons (step7_decides bundle) <| .cons (step8_decides sha bundle) .nil

theorem firstFailure_stepChecks :
    firstFailure (stepChecks sha bundle) = firstFailure (requiredChecks sha bundle) := by
  rw [stepChecks, firstFailure_append_cons_implied fun _ => rfl, List.take_append_drop]

theorem conclude_errorCodes (r : VerificationResult) :
    (conclude bundle r).errorCodes = r.errorCodes := by
  have h9 : (step9 bundle r).errorCodes = r.errorCodes := by
    unfold step9
    split <;> rfl
  have h10 : ∀ r', (step10 bundle r').errorCodes = r'.errorCodes := by
    intro r'
    unfold step10
    split <;> rfl
  rw [← h9]
  exact h10 _

/-- **The verdict is the code of the first check that fails**, or valid. -/
theorem verify_verdict :
    (verify sha bundle).status = some ((firstFailure (requiredChecks sha bundle)).getD .valid) ∧
      (verify sha bundle).errorCodes = (firstFailure (requiredChecks sha bundle)).toList ∧
      (verify sha bundle).valid = (firstFailure (requiredChecks sha bundle)).isNone := by
  have hreport := run_decides Clean FailedWith (requiredSteps_decide sha bundle)
    (s := {}) rfl
  rw [firstFailure_stepChecks] at hreport
  rw [verify_eq_run]
  revert hreport
  generalize run (requiredSteps sha bundle) _ = out
  obtain ⟨r, goOn⟩ := out
  cases firstFailure (requiredChecks sha bundle) with
  | none =>
      rintro ⟨hgo, hcodes⟩
      rw [hgo, orReturn, if_pos rfl]
      exact ⟨rfl, (conclude_errorCodes bundle r).trans hcodes, rfl⟩
  | some e =>
      rintro ⟨hstop, hstatus, hcodes, hvalid⟩
      rw [hstop, orReturn, if_neg Bool.false_ne_true]
      exact ⟨hstatus, hcodes, hvalid⟩

/-- The verifier reports a bundle as valid when all checks hold. -/
theorem status_eq_valid_iff :
    (verify sha bundle).status = some .valid ↔
      ∀ c ∈ requiredChecks sha bundle, c.holds = true := by
  rw [(verify_verdict sha bundle).1, ← firstFailure_eq_none_iff]
  cases hfirst : firstFailure (requiredChecks sha bundle) with
  | none => exact iff_of_true rfl rfl
  | some e =>
      obtain ⟨c, hc, -, rfl⟩ := code_mem_of_firstFailure hfirst
      simp only [requiredChecks, List.mem_cons, List.not_mem_nil, or_false] at hc
      obtain rfl | rfl | rfl | rfl | rfl | rfl | rfl := hc <;> simp

end Steps

end Vrl.Sdk.Go

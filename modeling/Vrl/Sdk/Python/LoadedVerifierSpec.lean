import Vrl.Sdk.Python.LoadedVerifier

/-!
# Vrl.Sdk.Python.LoadedVerifierSpec

What the SDK's verdict on a loaded bundle means, when the verifier returns one.

The checks are those of `Vrl.Sdk.Python.VerifierSpec`, for fields of any type
(`requiredChecks`). When the verifier does not raise, its status is the code of the first
of them that fails (**`verify_status`**).
-/

open TextCodec CheckPipeline JsonValue

namespace Vrl.Sdk.Python.Loaded

variable (std : PyStd) (fmt : Formatter)

/-! ### What is to be checked -/

/-- The required fields are there, and the AI-ID and all hash fields are well formed. -/
def schemaHolds (bundle : ProofBundle) : Bool :=
  (requiredFields bundle).all (fun field => !field.2.isNull) &&
    (isValidHexHash bundle.aiIdentity.aiId &&
      (hashFields bundle).all fun field => isValidHexHash field.2)

/-- The timestamp authority block, if there is one, is complete. -/
def timestampHolds (bundle : ProofBundle) : Bool :=
  (bundle.legal.bind (·.timestampAuthority)).all (·.isComplete)

/-- Every item of a truthy `depends_on` is a UUID. -/
def graphHolds (bundle : ProofBundle) : Bool := (dependsOn bundle).givesUuids

/-- The required checks and the codes they fail with, in the order of the steps. -/
def requiredChecks (registry : CircuitRegistry) (bundle : ProofBundle) :
    List (Check VerificationStatus) :=
  [⟨bundle.vrlVersion.isText "1.0", .unsupportedVersion⟩,
    ⟨schemaHolds bundle, .schemaInvalid⟩,
    ⟨okAnd (computeBundleIdFromIntegrity std bundle.computation.integrityHash) fun id =>
      bundle.bundleId.isText id, .bundleIdMismatch⟩,
    ⟨okAnd (computeIntegrityHash std bundle.computation.inputHash bundle.computation.outputHash
      bundle.computation.traceHash) fun hash => bundle.computation.integrityHash.isText hash,
      .integrityMismatch⟩,
    ⟨(registry bundle.computation.circuitId bundle.computation.circuitVersion).any fun hash =>
      bundle.computation.circuitHash.isText hash, .circuitHashMismatch⟩,
    ⟨okAnd (bundle.proof.proofSystem.isIn validSystems) fun valid => valid &&
      bundle.proof.proofHash.isText (recomputedProofHash std bundle), .proofInvalid⟩,
    ⟨(bundle.dataCommitments.getD []).all (commitmentHolds std), .dataCommitmentInvalid⟩]

/-! ### The steps make the checks -/

/-- Nothing has failed so far. -/
def Clean (result : VerificationResult) : Prop := result.status = .valid

/-- The verification ended with one code. -/
def FailedWith (code : VerificationStatus) (result : VerificationResult) : Prop :=
  result.status = code

theorem accept_clean {r : VerificationResult} (hr : Clean r) (name message : String) :
    (r.accept name message).2 = true ∧ Clean (r.accept name message).1 := ⟨rfl, hr⟩

theorem reject_failed (r : VerificationResult) (name message : String)
    (code : VerificationStatus) : (r.reject name message code).2 = false ∧
      FailedWith code (r.reject name message code).1 := ⟨rfl, rfl⟩

section Steps

variable (registry : CircuitRegistry) (bundle : ProofBundle)

theorem step1_decides : RaisingDecides Clean FailedWith (step1VersionCheck fmt bundle)
    ⟨bundle.vrlVersion.isText "1.0", .unsupportedVersion⟩ :=
  .test (fun r _ => reject_failed r ..) fun _ hr => accept_clean hr ..

theorem step2_decides : RaisingDecides Clean FailedWith (step2SchemaValidation fmt bundle)
    ⟨schemaHolds bundle, .schemaInvalid⟩ := by
  unfold step2SchemaValidation schemaHolds
  rw [all_eq_isNone_find?, all_eq_isNone_find?]
  simp only [Bool.not_not]
  cases (requiredFields bundle).find? fun field => field.2.isNull with
  | some field => exact .rejects fun r _ => reject_failed r ..
  | none =>
      cases isValidHexHash bundle.aiIdentity.aiId with
      | false => exact .rejects fun r _ => reject_failed r ..
      | true =>
          cases (hashFields bundle).find? fun field => !isValidHexHash field.2 with
          | some field => exact .rejects fun r _ => reject_failed r ..
          | none => exact .accepts fun _ hr => accept_clean hr ..

theorem step3_decides : RaisingDecides Clean FailedWith (step3BundleIdCheck std fmt bundle)
    ⟨okAnd (computeBundleIdFromIntegrity std bundle.computation.integrityHash) fun id =>
      bundle.bundleId.isText id, .bundleIdMismatch⟩ :=
  .bind fun _ => .test (fun r _ => reject_failed r ..) fun _ hr => accept_clean hr ..

theorem step4_decides : RaisingDecides Clean FailedWith (step4IntegrityHashCheck std fmt bundle)
    ⟨okAnd (computeIntegrityHash std bundle.computation.inputHash bundle.computation.outputHash
      bundle.computation.traceHash) fun hash => bundle.computation.integrityHash.isText hash,
      .integrityMismatch⟩ :=
  .bind fun _ => .test (fun r _ => reject_failed r ..) fun _ hr => accept_clean hr ..

theorem step5_decides :
    RaisingDecides Clean FailedWith (step5CircuitResolution fmt registry bundle)
      ⟨(registry bundle.computation.circuitId bundle.computation.circuitVersion).any fun hash =>
        bundle.computation.circuitHash.isText hash, .circuitHashMismatch⟩ := by
  unfold step5CircuitResolution
  cases registry bundle.computation.circuitId bundle.computation.circuitVersion with
  | none => exact .rejects fun r _ => reject_failed r ..
  | some circuitHash => exact .test (fun r _ => reject_failed r ..) fun _ hr => accept_clean hr ..

theorem step6_decides :
    RaisingDecides Clean FailedWith (step6ProofStructureValidation std fmt bundle)
      ⟨okAnd (bundle.proof.proofSystem.isIn validSystems) fun valid => valid &&
        bundle.proof.proofHash.isText (recomputedProofHash std bundle), .proofInvalid⟩ := by
  refine .bind fun valid => ?_
  cases valid with
  | false => exact .rejects fun r _ => reject_failed r ..
  | true => exact .test (fun r _ => reject_failed r ..) fun _ hr => accept_clean hr ..

theorem step7_decides : RaisingDecides Clean FailedWith (step7AiIdVerification fmt bundle)
    ⟨!bundle.aiIdentity.providerSignature.truthy || isValidHexHash bundle.aiIdentity.aiId,
      .aiIdInvalid⟩ := by
  unfold step7AiIdVerification
  cases bundle.aiIdentity.providerSignature.truthy with
  | false => exact .accepts fun _ hr => accept_clean hr ..
  | true => exact .test (fun r _ => reject_failed r ..) fun _ hr => accept_clean hr ..

theorem checkCommitments_decides (i : Nat) (commitments : List DataCommitment) :
    RaisingDecides (ε := PyError) Clean FailedWith
      (fun r => .ok (checkCommitments std fmt r i commitments))
      ⟨commitments.all (commitmentHolds std), .dataCommitmentInvalid⟩ := by
  induction commitments generalizing i with
  | nil => exact .accepts fun _ hr => accept_clean hr ..
  | cons commitment commitments ih =>
      simp only [checkCommitments, List.all_cons]
      cases commitmentHolds std commitment with
      | true => exact ih (i + 1)
      | false => exact .rejects fun r _ => reject_failed r ..

theorem step8_decides :
    RaisingDecides Clean FailedWith (step8DataCommitmentVerification std fmt bundle)
      ⟨(bundle.dataCommitments.getD []).all (commitmentHolds std), .dataCommitmentInvalid⟩ := by
  unfold step8DataCommitmentVerification
  match bundle.dataCommitments with
  | none => exact .accepts fun _ hr => accept_clean hr ..
  | some [] => exact .accepts fun _ hr => accept_clean hr ..
  | some (commitment :: commitments) =>
      exact checkCommitments_decides std fmt 0 (commitment :: commitments)

/-! ### The optional steps -/

/-- A step that may raise, and makes the result partial when a test fails. -/
def NotesPartial (holds : Bool) (r r' : VerificationResult) : Prop :=
  r'.status = if holds then r.status else .validPartial

theorem verifyTimestamp_notes (r : VerificationResult) :
    NotesPartial (timestampHolds bundle) r (verifyTimestamp fmt bundle r) := by
  unfold NotesPartial verifyTimestamp timestampHolds step9TimestampVerification
  cases bundle.legal.bind (·.timestampAuthority) with
  | none => rfl
  | some tsa =>
      rw [Option.all_some]
      cases hc : tsa.isComplete with
      | true =>
          simp only [hc]
          rfl
      | false =>
          simp only [hc]
          rfl

/-- The loop goes on over UUIDs, and notes the first item that is none. -/
theorem checkEdges_notes {r : VerificationResult} {ids : List JsonValue}
    {out : VerificationResult × Bool} (h : checkEdges fmt r ids = .ok out) :
    out.2 = ids.all isUuid ∧ out.1.status = r.status := by
  induction ids with
  | nil =>
      cases h
      exact ⟨rfl, rfl⟩
  | cons id ids ih =>
      rw [checkEdges] at h
      rw [List.all_cons]
      cases hread : id.readUuid with
      | ok u =>
          rw [hread] at h
          rw [readUuid_eq_ok_iff.mp hread, Bool.true_and]
          exact ih h
      | error e =>
          have hnot : id.isUuid = false := by
            rw [← Bool.not_eq_true, ← readUuid_eq_ok_iff, hread]
            exact nofun
          rw [hread] at h
          dsimp only at h
          by_cases he : e.kind = .valueError
          · rw [if_pos he] at h
            cases h
            exact ⟨by rw [hnot, Bool.false_and], rfl⟩
          · rw [if_neg he] at h
            cases h

theorem verifyGraph_notes {r r' : VerificationResult} (h : verifyGraph fmt bundle r = .ok r') :
    NotesPartial (graphHolds bundle) r r' := by
  unfold verifyGraph step10ProofGraphVerification at h
  unfold NotesPartial graphHolds
  cases htruthy : (dependsOn bundle).truthy with
  | false =>
      rw [htruthy] at h
      rw [givesUuids_of_falsy htruthy]
      cases h
      rfl
  | true =>
      rw [htruthy] at h
      simp only [Bool.not_true, Bool.false_eq_true, if_false, Except.bind_eq_ok_iff] at h
      obtain ⟨⟨out, ok⟩, ⟨ids, hids, hedges⟩, h⟩ := h
      obtain ⟨hok, hstatus⟩ := checkEdges_notes fmt hedges
      rw [givesUuids_of_iterate htruthy hids, ← hok]
      cases ok with
      | true =>
          cases h
          exact hstatus
      | false =>
          cases h
          rfl

/-! ### The verdict -/

/-- The required steps. -/
def requiredSteps : List (RaisingStep PyError VerificationResult) :=
  [step1VersionCheck fmt bundle, step2SchemaValidation fmt bundle,
    step3BundleIdCheck std fmt bundle, step4IntegrityHashCheck std fmt bundle,
    step5CircuitResolution fmt registry bundle, step6ProofStructureValidation std fmt bundle,
    step7AiIdVerification fmt bundle, step8DataCommitmentVerification std fmt bundle]

/-- The verifier runs the required steps and then the optional ones. -/
theorem verify_eq_run :
    verify std fmt registry bundle =
      orReturnRaising (runRaising (requiredSteps std fmt registry bundle)
        { status := .valid, bundleId := bundle.bundleId })
        fun result => verifyGraph fmt bundle (verifyTimestamp fmt bundle result) := by
  simp only [requiredSteps, orReturnRaising_run_cons, orReturnRaising_run_nil, verify]

/-- The checks of the required steps, step 7 included, which the schema check makes
redundant. -/
def stepChecks : List (Check VerificationStatus) :=
  (requiredChecks std registry bundle).take 6 ++
    ⟨!bundle.aiIdentity.providerSignature.truthy || isValidHexHash bundle.aiIdentity.aiId,
      .aiIdInvalid⟩ :: (requiredChecks std registry bundle).drop 6

theorem requiredSteps_decide :
    List.Forall₂ (RaisingDecides Clean FailedWith) (requiredSteps std fmt registry bundle)
      (stepChecks std registry bundle) :=
  .cons (step1_decides fmt bundle) <| .cons (step2_decides fmt bundle) <|
    .cons (step3_decides std fmt bundle) <| .cons (step4_decides std fmt bundle) <|
    .cons (step5_decides fmt registry bundle) <| .cons (step6_decides std fmt bundle) <|
    .cons (step7_decides fmt bundle) <| .cons (step8_decides std fmt bundle) .nil

theorem firstFailure_stepChecks :
    firstFailure (stepChecks std registry bundle) =
      firstFailure (requiredChecks std registry bundle) := by
  rw [stepChecks, firstFailure_append_cons_implied, List.take_append_drop]
  intro h
  have hschema : schemaHolds bundle = true :=
    h ⟨schemaHolds bundle, .schemaInvalid⟩ (by simp [requiredChecks])
  simp only [schemaHolds, Bool.and_eq_true] at hschema
  rw [hschema.2.1, Bool.or_true]

/-- **A verifier that returns gives the status its checks call for**: the code of the first
required check that fails, and when there is none, valid or partial. -/
theorem verify_status {result : VerificationResult}
    (h : verify std fmt registry bundle = .ok result) :
    result.status = (firstFailure (requiredChecks std registry bundle)).getD
      (if timestampHolds bundle && graphHolds bundle then .valid
        else .validPartial) := by
  rw [verify_eq_run] at h
  rw [← firstFailure_stepChecks]
  cases hrun : runRaising (requiredSteps std fmt registry bundle)
      { status := .valid, bundleId := bundle.bundleId } with
  | error e =>
      rw [hrun] at h
      cases h
  | ok out =>
      have hclean : Clean { status := .valid, bundleId := bundle.bundleId } := rfl
      have hreport := runRaising_decides (requiredSteps_decide std fmt registry bundle) hclean hrun
      rw [hrun] at h
      obtain ⟨r, goOn⟩ := out
      revert hreport
      cases firstFailure (stepChecks std registry bundle) with
      | some e =>
          rintro ⟨rfl, hstatus⟩
          cases h
          exact hstatus
      | none =>
          rintro ⟨rfl, hstatus⟩
          have hgraph := verifyGraph_notes fmt bundle h
          rw [Option.getD_none, hgraph, verifyTimestamp_notes, hstatus]
          cases timestampHolds bundle <;> cases graphHolds bundle <;> rfl

end Steps

end Vrl.Sdk.Python.Loaded

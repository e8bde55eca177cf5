import Vrl.Verifier.VrlVerify

/-!
# Vrl.Verifier.VrlVerifySpec

What the standalone verifier's result means, when it returns one.

The status is the code of the first required check that fails, and otherwise valid or
partial (`Verdict.status`). The flag is set exactly when the status is `VALID`
(`Verdict.isValid_iff`), so no partial result has it.
-/

open TextCodec CheckPipeline JsonValue

namespace Vrl.Standalone

variable (std : PyStd) (fmt : Formatter)

/-! ### What is to be checked -/

/-- The required keys are there, and the AI-ID and all hash fields are well formed. -/
def schemaHolds (bundle : Bundle) : Bool :=
  requiredFields.all (fun field => (bundle.lookup field).isSome) &&
    okAnd (part bundle "ai_identity") fun aiIdentity =>
      isValidHexHash (getOrNull aiIdentity "ai_id") &&
        okAnd (part bundle "computation") fun computation =>
          hashFields.all (fun field => isValidHexHash (getOrNull computation field)) &&
            okAnd (part bundle "proof") fun proof => isValidHexHash (getOrNull proof "proof_hash")

/-- The identifier recomputes. -/
def idHolds (bundle : Bundle) : Bool :=
  okAnd (part bundle "computation") fun computation =>
    okAnd (getOrNull computation "integrity_hash").asText fun integrityHash =>
      (getOrNull bundle "bundle_id").isText
        (String.ofList (std.uuid5 Sdk.Python.vrlNamespaceUuid integrityHash).text)

/-- The integrity hash recomputes. -/
def integrityHolds (bundle : Bundle) : Bool :=
  okAnd (part bundle "computation") fun computation =>
    okAnd (computeIntegrityHash std (getOrNull computation "input_hash")
        (getOrNull computation "output_hash") (getOrNull computation "trace_hash"))
      fun hash => (getOrNull computation "integrity_hash").isText hash

/-- The circuit is registered with its hash. -/
def circuitHolds (registry : CircuitRegistry) (bundle : Bundle) : Bool :=
  okAnd (part bundle "computation") fun computation =>
    (registry (getOrNull computation "circuit_id") (getOrNull computation "circuit_version")).any
      fun hash => (getOrNull computation "circuit_hash").isText hash

/-- The proof names a known system and its hash recomputes. -/
def proofHolds (bundle : Bundle) : Bool :=
  okAnd (part bundle "proof") fun proof =>
    okAnd ((getOrNull proof "proof_system").isIn validSystems) fun valid => valid &&
      okAnd (part bundle "computation") fun computation =>
        (getOrNull proof "proof_hash").isText (recomputedProofHash std computation proof)

/-- The AI-ID is well formed. -/
def aiIdHolds (bundle : Bundle) : Bool :=
  okAnd (part bundle "ai_identity") fun aiIdentity =>
    isValidHexHash (getOrNull aiIdentity "ai_id")

/-- The commitment hash recomputes. -/
def commitmentHolds (value : JsonValue) : Bool :=
  okAnd (value.asDict "get") fun commitment =>
    (getOrNull commitment "commitment_hash").isText (recomputedCommitmentHash std commitment)

/-- All commitment hashes recompute. -/
def commitmentsHold (bundle : Bundle) : Bool :=
  !(getOrNull bundle "data_commitments").truthy ||
    okAnd (getOrNull bundle "data_commitments").iterate fun values =>
      values.all (commitmentHolds std)

/-- The timestamp authority block, if there is one, is complete. -/
def timestampHolds (bundle : Bundle) : Bool :=
  !(getOrNull bundle "legal").truthy ||
    okAnd (part bundle "legal") fun legal =>
      !(getOrNull legal "timestamp_authority").truthy ||
        okAnd (part legal "timestamp_authority") isComplete

/-- Every item of a truthy `depends_on` is a UUID. -/
def graphHolds (bundle : Bundle) : Bool :=
  !(getOrNull bundle "proof_graph").truthy ||
    okAnd (part bundle "proof_graph") fun proofGraph =>
      (getOrNull proofGraph "depends_on").givesUuids

/-- The required checks and the codes they fail with, in the order of the steps. -/
def requiredChecks (registry : CircuitRegistry) (bundle : Bundle) :
    List (Check VerificationStatus) :=
  [⟨(getOrNull bundle "vrl_version").isText "1.0", .unsupportedVersion⟩,
    ⟨schemaHolds bundle, .schemaInvalid⟩,
    ⟨idHolds std bundle, .bundleIdMismatch⟩,
    ⟨integrityHolds std bundle, .integrityMismatch⟩,
    ⟨circuitHolds registry bundle, .circuitHashMismatch⟩,
    ⟨proofHolds std bundle, .proofInvalid⟩,
    ⟨commitmentsHold std bundle, .dataCommitmentInvalid⟩]

/-! ### The steps make the checks -/

/-- Nothing has failed so far. -/
def Clean (result : VerificationResult) : Prop := result.status = .valid ∧ result.errors = []

/-- The verification ended with one code, and the flag is cleared. -/
def FailedWith (code : VerificationStatus) (result : VerificationResult) : Prop :=
  result.status = code ∧ result.isValid = false

theorem accept_clean {r : VerificationResult} (hr : Clean r) (name message : String)
    (computed : Option String) : (r.accept name message computed).2 = true ∧
      Clean (r.accept name message computed).1 := ⟨rfl, hr⟩

theorem reject_failed (r : VerificationResult) (name message : String)
    (code : VerificationStatus) (computed : Option String) (expected : JsonValue) :
    (r.reject name message code computed expected).2 = false ∧
      FailedWith code (r.reject name message code computed expected).1 := ⟨rfl, rfl, rfl⟩

section Steps

variable (registry : CircuitRegistry) (bundle : Bundle)

theorem step1_decides : RaisingDecides Clean FailedWith (step1VersionCheck fmt bundle)
    ⟨(getOrNull bundle "vrl_version").isText "1.0", .unsupportedVersion⟩ :=
  .test (fun r _ => reject_failed r ..) fun _ hr => accept_clean hr ..

theorem step2_decides : RaisingDecides Clean FailedWith (step2SchemaValidation bundle)
    ⟨schemaHolds bundle, .schemaInvalid⟩ := by
  unfold step2SchemaValidation schemaHolds
  rw [all_eq_isNone_find?]
  simp only [Option.not_isSome]
  cases requiredFields.find? fun field => (bundle.lookup field).isNone with
  | some field => exact .rejects fun r _ => reject_failed r ..
  | none =>
      refine .bind fun aiIdentity => ?_
      cases isValidHexHash (getOrNull aiIdentity "ai_id") with
      | false => exact .rejects fun r _ => reject_failed r ..
      | true =>
          refine .bind fun computation => ?_
          rw [all_eq_isNone_find?]
          cases hashFields.find? fun field => !isValidHexHash (getOrNull computation field) with
          | some field => exact .rejects fun r _ => reject_failed r ..
          | none =>
              exact .bind fun proof => .test (fun r _ => reject_failed r ..) fun _ hr =>
                accept_clean hr ..

theorem step3_decides : RaisingDecides Clean FailedWith (step3BundleIdCheck std fmt bundle)
    ⟨idHolds std bundle, .bundleIdMismatch⟩ := by
  refine .bind fun computation => ?_
  cases (getOrNull computation "integrity_hash").asText with
  | error e => exact .rejects fun r _ => reject_failed r ..
  | ok integrityHash =>
      exact .test (fun r _ => reject_failed r ..) fun _ hr => accept_clean hr ..

theorem step4_decides : RaisingDecides Clean FailedWith (step4IntegrityHashCheck std bundle)
    ⟨integrityHolds std bundle, .integrityMismatch⟩ :=
  .bind fun _ => .bind fun _ => .test (fun r _ => reject_failed r ..) fun _ hr =>
    accept_clean hr ..

theorem step5_decides :
    RaisingDecides Clean FailedWith (step5CircuitResolution fmt registry bundle)
      ⟨circuitHolds registry bundle, .circuitHashMismatch⟩ := by
  refine .bind fun computation => ?_
  dsimp only
  cases registry (getOrNull computation "circuit_id")
      (getOrNull computation "circuit_version") with
  | none => exact .rejects fun r _ => reject_failed r ..
  | some circuitHash => exact .test (fun r _ => reject_failed r ..) fun _ hr => accept_clean hr ..

theorem step6_decides :
    RaisingDecides Clean FailedWith (step6ProofStructureValidation std fmt bundle)
      ⟨proofHolds std bundle, .proofInvalid⟩ := by
  refine .bind fun proof => .bind fun valid => ?_
  cases valid with
  | false => exact .rejects fun r _ => reject_failed r ..
  | true =>
      exact .bind fun _ => .test (fun r _ => reject_failed r ..) fun _ hr => accept_clean hr ..

theorem step7_decides : RaisingDecides Clean FailedWith (step7AiIdVerification bundle)
    ⟨aiIdHolds bundle, .aiIdInvalid⟩ := by
  refine .bind fun aiIdentity => ?_
  cases isValidHexHash (getOrNull aiIdentity "ai_id") with
  | false => exact .rejects fun r _ => reject_failed r ..
  | true =>
      cases (getOrNull aiIdentity "provider_signature").truthy with
      | false => exact .accepts fun _ hr => accept_clean hr ..
      | true => exact .accepts fun _ hr => accept_clean hr ..

theorem checkCommitments_decides (i : Nat) (values : List JsonValue) :
    RaisingDecides Clean FailedWith (fun r => checkCommitments std fmt r i values)
      ⟨values.all (commitmentHolds std), .dataCommitmentInvalid⟩ := by
  induction values generalizing i with
  | nil => exact .accepts fun _ hr => accept_clean hr ..
  | cons value values ih =>
      rw [List.all_cons, commitmentHolds, okAnd_and]
      simp only [checkCommitments]
      refine .bind fun commitment => ?_
      cases (getOrNull commitment "commitment_hash").isText
          (recomputedCommitmentHash std commitment) with
      | true => exact ih (i + 1)
      | false => exact .rejects fun r _ => reject_failed r ..

theorem step8_decides :
    RaisingDecides Clean FailedWith (step8DataCommitmentVerification std fmt bundle)
      ⟨commitmentsHold std bundle, .dataCommitmentInvalid⟩ := by
  unfold step8DataCommitmentVerification commitmentsHold
  dsimp only
  cases (getOrNull bundle "data_commitments").truthy with
  | false => exact .accepts fun _ hr => accept_clean hr ..
  | true => exact .bind fun values => checkCommitments_decides std fmt 0 values

/-! ### The optional steps -/

/-- An optional step says whether a test was met. Status and errors are as before, but that
a failure adds its code. -/
structure StepNotes (holds : Bool) (r : VerificationResult) (out : VerificationResult × Bool) :
    Prop where
  goOn : out.2 = holds
  status : out.1.status = r.status
  errors : holds = true → out.1.errors = r.errors

/-- A failure of an optional step makes the result partial. -/
structure Notes (holds : Bool) (r r' : VerificationResult) : Prop where
  status : r'.status = if holds then r.status else .validPartial
  errors : holds = true → r'.errors = r.errors

theorem Notes.refl (r : VerificationResult) : Notes true r r := ⟨rfl, fun _ => rfl⟩

theorem StepNotes.notes {holds : Bool} {r r' : VerificationResult}
    {out : VerificationResult × Bool} (h : StepNotes holds r out)
    (hr' : (if !out.2 then .ok { out.1 with status := .validPartial } else .ok out.1 :
      Except PyError VerificationResult) = .ok r') : Notes holds r r' := by
  rw [h.goOn] at hr'
  cases holds with
  | true =>
      cases hr'
      exact ⟨h.status, h.errors⟩
  | false =>
      cases hr'
      exact ⟨rfl, nofun⟩

theorem step9_notes {r : VerificationResult} {out : VerificationResult × Bool} {legal : Bundle}
    (hlegal : part bundle "legal" = .ok legal)
    (htruthy : (getOrNull legal "timestamp_authority").truthy = true)
    (h : step9TimestampVerification fmt bundle r = .ok out) :
    StepNotes (okAnd (part legal "timestamp_authority") isComplete) r out := by
  rw [step9TimestampVerification, hlegal, Except.ok_bind, htruthy] at h
  simp only [Bool.not_true, Bool.false_eq_true, if_false, Except.bind_eq_ok_iff] at h
  obtain ⟨tsa, htsa, h⟩ := h
  rw [htsa, okAnd_ok]
  cases hc : isComplete tsa with
  | true =>
      rw [hc] at h
      cases h
      exact ⟨rfl, rfl, fun _ => rfl⟩
  | false =>
      rw [hc] at h
      cases h
      exact ⟨rfl, rfl, nofun⟩

theorem verifyTimestamp_notes {r r' : VerificationResult}
    (h : verifyTimestamp fmt bundle r = .ok r') : Notes (timestampHolds bundle) r r' := by
  unfold verifyTimestamp at h
  unfold timestampHolds
  cases hlegal : (getOrNull bundle "legal").truthy with
  | false =>
      rw [hlegal] at h
      cases h
      exact .refl r
  | true =>
      rw [hlegal] at h
      simp only [Bool.not_true, Bool.false_eq_true, if_false, Except.bind_eq_ok_iff] at h
      obtain ⟨legal, hpart, h⟩ := h
      rw [hpart, okAnd_ok, Bool.not_true, Bool.false_or]
      cases htsa : (getOrNull legal "timestamp_authority").truthy with
      | false =>
          rw [htsa] at h
          cases h
          exact .refl r
      | true =>
          rw [htsa] at h
          simp only [Bool.not_true, Bool.false_eq_true, if_false, Except.bind_eq_ok_iff] at h
          obtain ⟨out, hout, h⟩ := h
          exact (step9_notes fmt bundle hpart htsa hout).notes h

/-- The loop goes on over UUIDs, and notes the first item that is none. -/
theorem checkEdges_notes {r : VerificationResult} {ids : List JsonValue}
    {out : VerificationResult × Bool} (h : checkEdges fmt r ids = .ok out) :
    StepNotes (ids.all isUuid) r out := by
  induction ids with
  | nil =>
      cases h
      exact ⟨rfl, rfl, fun _ => rfl⟩
  | cons id ids ih =>
      rw [checkEdges] at h
      rw [List.all_cons]
      cases hread : id.readUuid with
      | ok u =>
          rw [hread] at h
          rw [readUuid_eq_ok_iff.mp hread, Bool.true_and]
          exact ih h
      | error e =>
          have hnot : id.isUuid = false := by
            rw [← Bool.not_eq_true, ← readUuid_eq_ok_iff, hread]
            exact nofun
          rw [hread] at h
          dsimp only at h
          rw [hnot, Bool.false_and]
          by_cases he : e.kind = .valueError ∨ e.kind = .attributeError
          · rw [if_pos he] at h
            cases h
            exact ⟨rfl, rfl, nofun⟩
          · rw [if_neg he] at h
            cases h

theorem step10_notes {r : VerificationResult} {out : VerificationResult × Bool}
    {proofGraph : Bundle} (hgraph : part bundle "proof_graph" = .ok proofGraph)
    (htruthy : (getOrNull proofGraph "depends_on").truthy = true)
    (h : step10ProofGraphVerification fmt bundle r = .ok out) :
    StepNotes (getOrNull proofGraph "depends_on").givesUuids r out := by
  rw [step10ProofGraphVerification, hgraph, Except.ok_bind] at h
  dsimp only at h
  rw [htruthy] at h
  simp only [Bool.not_true, Bool.false_eq_true, if_false, Except.bind_eq_ok_iff] at h
  obtain ⟨ids, hids, h⟩ := h
  rw [givesUuids_of_iterate htruthy hids]
  exact checkEdges_notes fmt h

theorem verifyGraph_notes {r r' : VerificationResult}
    (h : verifyGraph fmt bundle r = .ok r') : Notes (graphHolds bundle) r r' := by
  unfold verifyGraph at h
  unfold graphHolds
  cases hgraph : (getOrNull bundle "proof_graph").truthy with
  | false =>
      rw [hgraph] at h
      cases h
      exact .refl r
  | true =>
      rw [hgraph] at h
      simp only [Bool.not_true, Bool.false_eq_true, if_false, Except.bind_eq_ok_iff] at h
      obtain ⟨proofGraph, hpart, h⟩ := h
      rw [hpart, okAnd_ok, Bool.not_true, Bool.false_or]
      cases hdep : (getOrNull proofGraph "depends_on").truthy with
      | false =>
          rw [hdep] at h
          rw [givesUuids_of_falsy hdep]
          cases h
          exact .refl r
      | true =>
          rw [hdep] at h
          simp only [Bool.not_true, Bool.false_eq_true, if_false, Except.bind_eq_ok_iff] at h
          obtain ⟨out, hout, h⟩ := h
          exact (step10_notes fmt bundle hpart hdep hout).notes h

/-! ### The verdict -/

/-- The result is the one that the checks call for, and its flag says whether the status
is `VALID`. -/
structure Verdict (result : VerificationResult) : Prop where
  status : result.status = (firstFailure (requiredChecks std registry bundle)).getD
    (if timestampHolds bundle && graphHolds bundle then .valid else .validPartial)
  isValid_iff : result.isValid = true ↔ result.status = .valid

/-- The required steps. -/
def requiredSteps : List (RaisingStep PyError VerificationResult) :=
  [step1VersionCheck fmt bundle, step2SchemaValidation bundle, step3BundleIdCheck std fmt bundle,
    step4IntegrityHashCheck std bundle, step5CircuitResolution fmt registry bundle,
    step6ProofStructureValidation std fmt bundle, step7AiIdVerification bundle,
    step8DataCommitmentVerification std fmt bundle]

/-- The verifier runs the required steps and then the optional ones. -/
theorem verify_eq_run :
    verify std fmt registry (.obj bundle) =
      orReturnRaising (runRaising (requiredSteps std fmt registry bundle) (initialResult bundle))
        (verifyOptional fmt bundle) := by
  simp only [requiredSteps, orReturnRaising_run_cons, orReturnRaising_run_nil, verify, asDict,
    Except.ok_bind]

/-- The checks of the required steps, step 7 included, which the schema check makes
redundant. -/
def stepChecks : List (Check VerificationStatus) :=
  (requiredChecks std registry bundle).take 6 ++
    ⟨aiIdHolds bundle, .aiIdInvalid⟩ :: (requiredChecks std registry bundle).drop 6

theorem requiredSteps_decide :
    List.Forall₂ (RaisingDecides Clean FailedWith) (requiredSteps std fmt registry bundle)
      (stepChecks std registry bundle) :=
  .cons (step1_decides fmt bundle) <| .cons (step2_decides bundle) <|
    .cons (step3_decides std fmt bundle) <| .cons (step4_decides std bundle) <|
    .cons (step5_decides fmt registry bundle) <| .cons (step6_decides std fmt bundle) <|
    .cons (step7_decides bundle) <| .cons (step8_decides std fmt bundle) .nil

theorem aiIdHolds_of_schemaHolds (h : schemaHolds bundle = true) : aiIdHolds bundle = true := by
  unfold schemaHolds at h
  unfold aiIdHolds
  cases hpart : part bundle "ai_identity" with
  | error e =>
      rw [hpart, Bool.and_eq_true] at h
      cases h.2
  | ok aiIdentity =>
      rw [hpart, okAnd_ok, Bool.and_eq_true, Bool.and_eq_true] at h
      exact h.2.1

theorem firstFailure_stepChecks :
    firstFailure (stepChecks std registry bundle) =
      firstFailure (requiredChecks std registry bundle) := by
  rw [stepChecks, firstFailure_append_cons_implied, List.take_append_drop]
  intro h
  exact aiIdHolds_of_schemaHolds bundle
    (h ⟨schemaHolds bundle, .schemaInvalid⟩ (by simp [requiredChecks]))

/-- The codes of the required checks are rejections. -/
theorem code_ne_accepting {c : Check VerificationStatus}
    (hc : c ∈ requiredChecks std registry bundle) : c.code ≠ .valid ∧ c.code ≠ .validPartial := by
  simp only [requiredChecks, List.mem_cons, List.not_mem_nil, or_false] at hc
  obtain rfl | rfl | rfl | rfl | rfl | rfl | rfl := hc <;> simp

/-- The flag is what the status and the errors say. -/
theorem finalStatus_isValid (r : VerificationResult) :
    (finalStatus r).status = r.status ∧
      ((finalStatus r).isValid = true ↔ r.status = .valid ∧ r.errors = []) := by
  rw [finalStatus]
  by_cases h : r.status = .valid ∧ r.errors = []
  · rw [if_pos h]
    exact ⟨rfl, fun _ => h, fun _ => rfl⟩
  · rw [if_neg h]
    exact ⟨rfl, nofun, fun hr => absurd hr h⟩

/-- After required steps without a failure, the optional ones alone decide. -/
theorem verifyOptional_spec {r r' : VerificationResult} (hr : Clean r)
    (h : verifyOptional fmt bundle r = .ok r') :
    r'.status = (if timestampHolds bundle && graphHolds bundle then .valid else .validPartial) ∧
      (r'.isValid = true ↔ r'.status = .valid) := by
  simp only [verifyOptional, Except.bind_eq_ok_iff] at h
  obtain ⟨r₁, h₁, r₂, h₂, h⟩ := h
  cases h
  have hts := verifyTimestamp_notes fmt bundle h₁
  have hgraph := verifyGraph_notes fmt bundle h₂
  obtain ⟨hstatus, hvalid⟩ := finalStatus_isValid r₂
  rw [hstatus, hvalid, hgraph.status, hts.status, hr.1]
  cases htsHolds : timestampHolds bundle with
  | false =>
      cases hgraphHolds : graphHolds bundle with
      | false => exact ⟨rfl, ⟨fun h => absurd h.1 nofun, nofun⟩⟩
      | true => exact ⟨rfl, ⟨fun h => absurd h.1 nofun, nofun⟩⟩
  | true =>
      cases hgraphHolds : graphHolds bundle with
      | false => exact ⟨rfl, ⟨fun h => absurd h.1 nofun, nofun⟩⟩
      | true =>
          refine ⟨rfl, ⟨fun _ => rfl, fun _ => ⟨rfl, ?_⟩⟩⟩
          rw [hgraph.errors hgraphHolds, hts.errors htsHolds, hr.2]

/-- **A verifier that returns gives the verdict its checks call for.** -/
theorem verify_verdict {result : VerificationResult}
    (h : verify std fmt registry (.obj bundle) = .ok result) :
    Verdict std registry bundle result := by
  rw [verify_eq_run] at h
  cases hrun : runRaising (requiredSteps std fmt registry bundle) (initialResult bundle) with
  | error e =>
      rw [hrun] at h
      cases h
  | ok out =>
      have hclean : Clean (initialResult bundle) := ⟨rfl, rfl⟩
      have hreport := runRaising_decides (requiredSteps_decide std fmt registry bundle) hclean hrun
      rw [firstFailure_stepChecks] at hreport
      rw [hrun] at h
      obtain ⟨r, goOn⟩ := out
      revert hreport
      cases hfirst : firstFailure (requiredChecks std registry bundle) with
      | none =>
          rintro ⟨rfl, hr⟩
          obtain ⟨hstatus, hvalid⟩ := verifyOptional_spec fmt bundle hr h
          exact ⟨by rw [hfirst]; exact hstatus, hvalid⟩
      | some e =>
          rintro ⟨rfl, hstatus, hvalid⟩
          cases h
          obtain ⟨c, hc, -, rfl⟩ := code_mem_of_firstFailure hfirst
          refine ⟨by rw [hfirst]; exact hstatus, ?_⟩
          rw [hvalid, hstatus]
          exact ⟨nofun, fun h => absurd h (code_ne_accepting std registry bundle hc).1⟩

end Steps

end Vrl.Standalone

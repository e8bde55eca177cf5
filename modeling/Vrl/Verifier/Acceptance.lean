import Vrl.Verifier.Refinement

/-!
# Vrl.Verifier.Acceptance

When the standalone verifier's flag, and with it the exit code, means acceptance.

A failure of an optional step leaves the status at `VALID_PARTIAL`, which the SDK accepts.
The standalone verifier sets its flag for `VALID` alone, so it rejects what it reports to
be partially valid.
-/

open TextCodec CheckPipeline JsonValue

namespace Vrl

open Sdk.Python

variable (std : PyStd) (fmt : Formatter)

/-! ### Acceptance -/

/-- The status is one of the two that accept. -/
def Standalone.VerificationStatus.Accepts (status : Standalone.VerificationStatus) : Prop :=
  status = .valid ∨ status = .validPartial

/-- The flag and the exit code say what the status does, and so does the SDK. -/
structure AcceptanceAgrees (r : Standalone.VerificationResult) (r' : Loaded.VerificationResult) :
    Prop where
  flag : r.isValid = true ↔ r.status.Accepts
  exitCode : r.exitCode = 0 ↔ r.status.Accepts
  sdk : r.isValid = r'.isValid

theorem Standalone.exitCode_eq_zero_iff (r : Standalone.VerificationResult) :
    r.exitCode = 0 ↔ r.isValid = true := by
  rw [VerificationResult.exitCode]
  cases r.isValid with
  | true => simp
  | false => simp

/-! ### What each of the two accepts -/

/-- All required checks hold of a dictionary. -/
def Standalone.RequiredHold (registry : Standalone.CircuitRegistry) (data : Standalone.Bundle) :
    Prop :=
  ∀ c ∈ Standalone.requiredChecks std registry data, c.holds = true

/-- The optional blocks that are there are in order. -/
def Standalone.OptionalHold (data : Standalone.Bundle) : Prop :=
  Standalone.timestampHolds data = true ∧ Standalone.graphHolds data = true

section Verdicts

variable {fmt} {registry : Standalone.CircuitRegistry} {data : Standalone.Bundle}
  {r : Standalone.VerificationResult} (hr : Standalone.verify std fmt registry (.obj data) = .ok r)

include hr

/-- The status accepts if the required checks hold. -/
theorem Standalone.accepts_iff : r.status.Accepts ↔ Standalone.RequiredHold std registry data := by
  rw [(Standalone.verify_verdict std fmt registry data hr).status]
  refine @accepts_firstFailure_iff _ Standalone.VerificationStatus.Accepts _ _ ?_ ?_
  · cases Standalone.timestampHolds data && Standalone.graphHolds data with
    | true => exact Or.inl rfl
    | false => exact Or.inr rfl
  · intro c hc haccepts
    obtain ⟨hnot, hnot'⟩ := Standalone.code_ne_accepting std registry data hc
    rcases haccepts with h | h
    · exact hnot h
    · exact hnot' h

/-- The flag is set if the optional blocks are in order too. -/
theorem Standalone.isValid_iff :
    r.isValid = true ↔
      Standalone.RequiredHold std registry data ∧ Standalone.OptionalHold data := by
  have hverdict := Standalone.verify_verdict std fmt registry data hr
  rw [hverdict.isValid_iff, hverdict.status]
  cases hfirst : firstFailure (Standalone.requiredChecks std registry data) with
  | some e =>
      obtain ⟨c, hc, hfails, rfl⟩ := code_mem_of_firstFailure hfirst
      refine iff_of_false (Standalone.code_ne_accepting std registry data hc).1 fun h => ?_
      rw [h.1 c hc] at hfails
      cases hfails
  | none =>
      have hrequired : Standalone.RequiredHold std registry data := firstFailure_eq_none_iff.mp hfirst
      rw [Option.getD_none, Standalone.OptionalHold, ← Bool.and_eq_true]
      cases Standalone.timestampHolds data && Standalone.graphHolds data with
      | true => exact iff_of_true rfl ⟨hrequired, rfl⟩
      | false => exact iff_of_false nofun fun h => absurd h.2 nofun

end Verdicts

section Reads

variable {fmt} {registry : Standalone.CircuitRegistry} {data : Standalone.Bundle}
  {bundle : Loaded.ProofBundle} (h : Loaded.Reads fmt data bundle)

include h

/-- A dictionary with an identifier that recomputes has one. -/
theorem Standalone.RequiredHold.bundleId (hrequired : Standalone.RequiredHold std registry data) :
    bundle.bundleId.isNull = false := by
  have hid := hrequired ⟨Standalone.idHolds std data, .bundleIdMismatch⟩
    (by simp [Standalone.requiredChecks])
  rw [← h.idHolds_eq std] at hid
  cases hcompute : Loaded.computeBundleIdFromIntegrity std bundle.computation.integrityHash with
  | error e =>
      rw [hcompute] at hid
      cases hid
  | ok id =>
      rw [hcompute] at hid
      rw [isText_iff.mp hid]
      rfl

/-- The SDK makes the same required checks, and wants a date of issue. -/
theorem Loaded.requiredChecks_hold_iff :
    (∀ c ∈ Loaded.requiredChecks std registry bundle, c.holds = true) ↔
      Standalone.RequiredHold std registry data ∧ (getOrNull data "issued_at").isNull = false := by
  constructor
  · intro hchecks
    have hschema := hchecks ⟨Loaded.schemaHolds bundle, .schemaInvalid⟩
      (by simp [Loaded.requiredChecks])
    rw [h.schemaHolds_eq, Bool.and_eq_true, Bool.and_eq_true, Bool.not_eq_true',
      Bool.not_eq_true'] at hschema
    rw [h.requiredChecks_eq std registry hschema.1.1 hschema.1.2] at hchecks
    rw [h.issuedAt]
    refine ⟨fun c hc => ?_, hschema.1.2⟩
    exact hchecks (Check.rename (·.toSdk) c) (List.mem_map_of_mem hc)
  · rintro ⟨hrequired, hissued⟩
    rw [h.issuedAt] at hissued
    rw [h.requiredChecks_eq std registry (hrequired.bundleId std h) hissued]
    intro c hc
    obtain ⟨c', hc', rfl⟩ := List.mem_map.mp hc
    exact hrequired c' hc'

/-- The SDK accepts what has a date of issue and meets the required checks. -/
theorem Loaded.isValid_iff {r' : Loaded.VerificationResult}
    (hr' : Loaded.verify std fmt registry bundle = .ok r') :
    r'.isValid = true ↔ Standalone.RequiredHold std registry data ∧
      (getOrNull data "issued_at").isNull = false := by
  have haccepts : r'.isValid = true ↔ (r'.status = .valid ∨ r'.status = .validPartial) := by
    rw [Loaded.VerificationResult.isValid, Bool.or_eq_true, decide_eq_true_eq, decide_eq_true_eq]
  rw [haccepts, Loaded.verify_status std fmt registry bundle hr',
    ← Loaded.requiredChecks_hold_iff std h]
  refine @accepts_firstFailure_iff VerificationStatus
    (fun status => status = .valid ∨ status = .validPartial) _ _ ?_ ?_
  · cases Loaded.timestampHolds bundle && Loaded.graphHolds bundle with
    | true => exact Or.inl rfl
    | false => exact Or.inr rfl
  · intro c hc
    simp only [Loaded.requiredChecks, List.mem_cons, List.not_mem_nil, or_false] at hc
    obtain rfl | rfl | rfl | rfl | rfl | rfl | rfl := hc <;> simp

end Reads

/-! ### When they agree -/

theorem acceptance_agrees_iff {registry : Standalone.CircuitRegistry} {data : Standalone.Bundle}
    {bundle : Loaded.ProofBundle} {r : Standalone.VerificationResult}
    {r' : Loaded.VerificationResult}
    (hread : Loaded.ProofBundle.fromDict fmt (.obj data) = .ok bundle)
    (hr : Standalone.verify std fmt registry (.obj data) = .ok r)
    (hr' : Loaded.verify std fmt registry bundle = .ok r') :
    AcceptanceAgrees r r' ↔
      ¬ Standalone.RequiredHold std registry data ∨
        ((getOrNull data "issued_at").isNull = false ∧ Standalone.OptionalHold data) := by
  obtain ⟨_, heq, h⟩ := (Loaded.ProofBundle.fromDict_eq_ok_iff fmt).mp hread
  cases heq
  have hflag := Standalone.isValid_iff std hr
  have haccepts := Standalone.accepts_iff std hr
  have hsdk := Loaded.isValid_iff std h hr'
  have hexit := Standalone.exitCode_eq_zero_iff r
  constructor
  · intro hagrees
    by_cases hrequired : Standalone.RequiredHold std registry data
    · have hvalid : r.isValid = true := hagrees.flag.mpr (haccepts.mpr hrequired)
      have hvalid' : r'.isValid = true := hagrees.sdk ▸ hvalid
      exact Or.inr ⟨(hsdk.mp hvalid').2, (hflag.mp hvalid).2⟩
    · exact Or.inl hrequired
  · intro hcases
    have hvalid : r.isValid = true ↔ Standalone.RequiredHold std registry data := by
      rw [hflag]
      exact and_iff_left_of_imp fun hrequired =>
        (hcases.resolve_left (not_not_intro hrequired)).2
    have hvalid' : r'.isValid = true ↔ Standalone.RequiredHold std registry data := by
      rw [hsdk]
      exact and_iff_left_of_imp fun hrequired =>
        (hcases.resolve_left (not_not_intro hrequired)).1
    exact {
      flag := hvalid.trans haccepts.symm
      exitCode := hexit.trans (hvalid.trans haccepts.symm)
      sdk := Bool.eq_iff_iff.mpr (hvalid.trans hvalid'.symm) }

/-! ### An empty timestamp token -/

/-- Both verifiers return on the bundle with the empty token, and the SDK accepts it. -/
theorem unstamped_verified :
    ∃ r r', Standalone.verify sampleStd typeFormatter (Standalone.mockRegistry sampleStd)
        (.obj unstampedData) = .ok r ∧
      Loaded.verify sampleStd typeFormatter (Standalone.mockRegistry sampleStd) unstampedLoaded =
        .ok r' ∧
      r'.isValid = true := by
  have hread := unstampedData_reads typeFormatter
  obtain ⟨r, hr⟩ := Standalone.verify_completes sampleStd hread
    (hread.typedFields unstampedData_typed) (Standalone.mockRegistry sampleStd)
  refine ⟨r, _, hr, verify_toLoaded sampleStd typeFormatter _ unstampedBundle.withoutEmpty, ?_⟩
  rw [VerificationResult.isValid_toLoaded, verify_withoutEmpty, Standalone.mockRegistry_eq,
    mockRegistry_onTexts]
  exact sampleBundle_isValid _

theorem acceptance_agrees_iff_unstamped :
    ∃ r r', Standalone.verify sampleStd typeFormatter (Standalone.mockRegistry sampleStd)
        (.obj unstampedData) = .ok r ∧
      (AcceptanceAgrees r r' ↔
        ¬ Standalone.RequiredHold sampleStd (Standalone.mockRegistry sampleStd) unstampedData ∨
          ((getOrNull unstampedData "issued_at").isNull = false ∧
            Standalone.OptionalHold unstampedData)) := by
  obtain ⟨r, r', hr, hr', -⟩ := unstamped_verified
  exact ⟨r, r', hr, acceptance_agrees_iff sampleStd typeFormatter
    (unstampedData_fromDict typeFormatter) hr hr'⟩

/-- The token is missed. -/
theorem unstamped_timestamp : Standalone.timestampHolds unstampedData = false := by
  decide +kernel

/-- The standalone verifier rejects what it reports to be partially valid and what the SDK
accepts. -/
theorem unstamped_rejected :
    ∃ r r', Loaded.ProofBundle.fromDict typeFormatter (.obj unstampedData) = .ok unstampedLoaded ∧
      Standalone.verify sampleStd typeFormatter (Standalone.mockRegistry sampleStd)
        (.obj unstampedData) = .ok r ∧
      Loaded.verify sampleStd typeFormatter (Standalone.mockRegistry sampleStd) unstampedLoaded =
        .ok r' ∧
      r.status = .validPartial ∧ r.isValid = false ∧ r.exitCode = 1 ∧ r'.isValid = true ∧
      ¬ AcceptanceAgrees r r' := by
  obtain ⟨r, r', hr, hr', hvalid'⟩ := unstamped_verified
  have hrequired := ((Loaded.isValid_iff sampleStd (unstampedData_reads typeFormatter) hr').mp
    hvalid').1
  have hvalid : r.isValid = false := by
    rw [← Bool.not_eq_true, Standalone.isValid_iff sampleStd hr]
    intro h
    rw [Standalone.OptionalHold, unstamped_timestamp] at h
    exact absurd h.2.1 nofun
  have hstatus : r.status = .validPartial := by
    refine ((Standalone.accepts_iff sampleStd hr).mpr hrequired).resolve_left fun h => ?_
    rw [← (Standalone.verify_verdict _ _ _ _ hr).isValid_iff, hvalid] at h
    cases h
  refine ⟨r, r', unstampedData_fromDict _, hr, hr', hstatus, hvalid, ?_, hvalid', fun h => ?_⟩
  · rw [Standalone.VerificationResult.exitCode, hvalid]
    rfl
  · rw [h.sdk, hvalid'] at hvalid
    cases hvalid

end Vrl

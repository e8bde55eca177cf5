import Vrl.Sdk.Python.DeclaredTypes
import Vrl.Sdk.Python.RoundTrip
import Vrl.Verifier.VrlVerifySpec

/-!
# Vrl.Verifier.Refinement

The standalone verifier against the SDK's, on the same dictionary.

Whatever `from_dict` accepts, the two verifiers make the same checks of it, except that
the SDK's schema check refuses an identifier or a date of issue that is `None`
(`Reads.schemaHolds_eq`). On a dictionary whose fields have their declared types neither
raises, and they return the same status.
-/

open TextCodec CheckPipeline JsonValue

namespace Vrl

open Sdk.Python (Loaded.ProofBundle Loaded.Reads)

variable (std : PyStd) (fmt : Formatter)

/-! ### The parts of a bundle's dictionary -/

theorem Standalone.part_eq_ok {data members : List (String × JsonValue)} {key : String}
    (h : getOrNull data key = .obj members) : Standalone.part data key = .ok members := by
  rw [part, lookup_of_getOrNull h rfl]
  rfl

/-- Both verifiers have the same format for hashes. -/
theorem Standalone.isValidHexHash_eq (v : JsonValue) :
    Standalone.isValidHexHash v = Sdk.Python.Loaded.isValidHexHash v := by
  cases v <;> rfl

/-- A list of commitments is judged as the records that are read from it. -/
theorem Sdk.Python.Loaded.commitments_all_eq {items : List JsonValue}
    {commitments : List Loaded.DataCommitment}
    (hread : items.mapM Loaded.DataCommitment.fromDict = .ok commitments) :
    commitments.all (Loaded.commitmentHolds std) = items.all (Standalone.commitmentHolds std) := by
  induction items generalizing commitments with
  | nil =>
      cases hread
      rfl
  | cons item items ih =>
      rw [List.mapM_cons, Except.bind_eq_ok_iff] at hread
      obtain ⟨commitment, hitem, hread⟩ := hread
      rw [Except.bind_eq_ok_iff] at hread
      obtain ⟨rest, hrest, hcons⟩ := hread
      cases hcons
      obtain ⟨members, hobj, -, heq⟩ := Loaded.DataCommitment.fromDict_eq_ok_iff.mp hitem
      rw [List.all_cons, List.all_cons, ih hrest, hobj, Standalone.commitmentHolds, asDict, okAnd_ok,
        ← heq]
      rfl

namespace Sdk.Python.Loaded.Reads

variable {fmt} {data : List (String × JsonValue)} {bundle : Loaded.ProofBundle}
  (h : Loaded.Reads fmt data bundle)

include h

theorem part_aiIdentity : ∃ members, Standalone.part data "ai_identity" = .ok members ∧
    AIIdentity.ofMembers members = bundle.aiIdentity := by
  obtain ⟨members, hobj, -, -, -, heq⟩ := (AIIdentity.fromDict_eq_ok_iff fmt).mp h.aiIdentity
  exact ⟨members, Standalone.part_eq_ok hobj, heq⟩

theorem part_computation : ∃ members, Standalone.part data "computation" = .ok members ∧
    Computation.ofMembers members = bundle.computation := by
  obtain ⟨members, hobj, -, heq⟩ := Computation.fromDict_eq_ok_iff.mp h.computation
  exact ⟨members, Standalone.part_eq_ok hobj, heq⟩

theorem part_proof : ∃ members, Standalone.part data "proof" = .ok members ∧
    HasKeys Proof.required members ∧ Proof.ofMembers members = bundle.proof := by
  obtain ⟨members, hobj, hkeys, -, heq⟩ := (Proof.fromDict_eq_ok_iff fmt).mp h.proof
  exact ⟨members, Standalone.part_eq_ok hobj, hkeys, heq⟩

/-! ### The checks of both -/

theorem schemaHolds_eq : Loaded.schemaHolds bundle =
    ((!bundle.bundleId.isNull && !bundle.issuedAt.isNull) && Standalone.schemaHolds data) := by
  obtain ⟨ai, hai, haiEq⟩ := h.part_aiIdentity
  obtain ⟨comp, hcomp, hcompEq⟩ := h.part_computation
  obtain ⟨proof, hproof, -, hproofEq⟩ := h.part_proof
  have hkeys : Standalone.requiredFields.all (fun field => (data.lookup field).isSome) = true := by
    have hrequired := h.required
    simp only [HasKeys, ProofBundle.required, List.forall_mem_cons] at hrequired
    obtain ⟨hversion, hid, hissued, hai, hcomp, hproof, -⟩ := hrequired
    simp only [Standalone.requiredFields, List.all_cons, List.all_nil, hversion, hid, hissued, hai,
      hcomp, hproof, Bool.and_true]
  rw [Loaded.schemaHolds, Standalone.schemaHolds, hkeys, hai, hcomp, hproof, ← haiEq, Loaded.hashFields,
    ← hcompEq, ← hproofEq]
  simp only [okAnd_ok, Loaded.requiredFields, Standalone.hashFields, List.all_cons, List.all_nil,
    Bool.and_true, Bool.true_and, Bool.and_assoc, Standalone.isValidHexHash_eq,
    AIIdentity.ofMembers, Computation.ofMembers, Proof.ofMembers]

theorem idHolds_eq : okAnd (computeBundleIdFromIntegrity std bundle.computation.integrityHash)
    (fun id => bundle.bundleId.isText id) = Standalone.idHolds std data := by
  obtain ⟨comp, hcomp, hcompEq⟩ := h.part_computation
  rw [Standalone.idHolds, hcomp, okAnd_ok, h.bundleId, ← hcompEq]
  simp only [computeBundleIdFromIntegrity, Computation.ofMembers]
  cases (getOrNull comp "integrity_hash").asText with
  | error e => simp only [Except.map, okAnd]
  | ok s => simp only [Except.map, okAnd, Python.computeBundleIdFromIntegrity]

theorem integrityHolds_eq : okAnd (computeIntegrityHash std bundle.computation.inputHash
    bundle.computation.outputHash bundle.computation.traceHash)
      (fun hash => bundle.computation.integrityHash.isText hash) =
    Standalone.integrityHolds std data := by
  obtain ⟨comp, hcomp, hcompEq⟩ := h.part_computation
  rw [Standalone.integrityHolds, hcomp, okAnd_ok, ← hcompEq]
  rfl

theorem circuitHolds_eq (registry : Loaded.CircuitRegistry) :
    (registry bundle.computation.circuitId bundle.computation.circuitVersion).any
      (fun hash => bundle.computation.circuitHash.isText hash) =
    Standalone.circuitHolds registry data := by
  obtain ⟨comp, hcomp, hcompEq⟩ := h.part_computation
  rw [Standalone.circuitHolds, hcomp, okAnd_ok, ← hcompEq]
  rfl

theorem proofHolds_eq : okAnd (bundle.proof.proofSystem.isIn validSystems) (fun valid => valid &&
      bundle.proof.proofHash.isText (Loaded.recomputedProofHash std bundle)) =
    Standalone.proofHolds std data := by
  obtain ⟨comp, hcomp, hcompEq⟩ := h.part_computation
  obtain ⟨proof, hproof, hkeys, hproofEq⟩ := h.part_proof
  have hbytes := getD_lookup (hkeys "proof_bytes" (by simp [Proof.required])) (.str "")
  have hinputs := getD_lookup (hkeys "public_inputs" (by simp [Proof.required])) (.arr [])
  rw [Standalone.proofHolds, hproof, okAnd_ok, hcomp, Loaded.recomputedProofHash, ← hcompEq,
    ← hproofEq]
  simp only [okAnd_ok, Standalone.recomputedProofHash, hbytes, hinputs]
  rfl

theorem commitmentsHold_eq : (bundle.dataCommitments.getD []).all (Loaded.commitmentHolds std) =
    Standalone.commitmentsHold std data := by
  rw [Standalone.commitmentsHold]
  rcases optionalPart_eq_ok_iff.mp h.dataCommitments with ⟨hfalsy, hnone⟩ | ⟨htruthy, _, hread, hsome⟩
  · rw [hfalsy, hnone]
    rfl
  · obtain ⟨items, hitems, hcommitments⟩ := Except.bind_eq_ok_iff.mp hread
    rw [htruthy, hsome, hitems, okAnd_ok, Option.getD_some, Bool.not_true, Bool.false_or]
    exact commitments_all_eq std hcommitments

theorem timestampHolds_eq : Loaded.timestampHolds bundle = Standalone.timestampHolds data := by
  rw [Standalone.timestampHolds, Loaded.timestampHolds]
  rcases optionalPart_eq_ok_iff.mp h.legal with ⟨hfalsy, hnone⟩ | ⟨htruthy, legal, hread, hsome⟩
  · rw [hfalsy, hnone]
    rfl
  · obtain ⟨members, hobj, tsa, htsa, anchor, -, hlegal⟩ := Legal.fromDict_eq_ok_iff.mp hread
    rw [htruthy, hsome, Standalone.part_eq_ok hobj, okAnd_ok, ← hlegal, Option.bind_some,
      Bool.not_true, Bool.false_or]
    show Option.all _ tsa = _
    rcases optionalPart_eq_ok_iff.mp htsa with ⟨hfalsy, hnone⟩ | ⟨htruthy, block, hread, hsome⟩
    · rw [hfalsy, hnone]
      rfl
    · obtain ⟨fields, ⟨hobj, -⟩, hblock⟩ := TimestampAuthority.fromDict_eq_ok_iff.mp hread
      rw [htruthy, hsome, Standalone.part_eq_ok hobj, okAnd_ok, ← hblock, Option.all_some,
        Bool.not_true, Bool.false_or]
      rfl

theorem graphHolds_eq : Loaded.graphHolds bundle = Standalone.graphHolds data := by
  rw [Standalone.graphHolds, Loaded.graphHolds, dependsOn]
  rcases optionalPart_eq_ok_iff.mp h.proofGraph with ⟨hfalsy, hnone⟩ | ⟨htruthy, graph, hread, hsome⟩
  · rw [hfalsy, hnone]
    rfl
  · obtain ⟨members, hobj, hgraph⟩ := ProofGraph.fromDict_eq_ok_iff.mp hread
    rw [htruthy, hsome, Standalone.part_eq_ok hobj, okAnd_ok, ← hgraph, Bool.not_true,
      Bool.false_or]
    rfl

end Sdk.Python.Loaded.Reads

/-! ### The same status -/

/-- The text of a status. -/
def Sdk.Python.VerificationStatus.value : Sdk.Python.VerificationStatus → String
  | .valid => "VALID"
  | .validPartial => "VALID_PARTIAL"
  | .schemaInvalid => "SCHEMA_INVALID"
  | .bundleIdMismatch => "BUNDLE_ID_MISMATCH"
  | .integrityMismatch => "INTEGRITY_MISMATCH"
  | .circuitHashMismatch => "CIRCUIT_HASH_MISMATCH"
  | .proofInvalid => "PROOF_INVALID"
  | .teeAttestationInvalid => "TEE_ATTESTATION_INVALID"
  | .recomputationMismatch => "RECOMPUTATION_MISMATCH"
  | .hashBindingInvalid => "HASH_BINDING_INVALID"
  | .aiIdInvalid => "AI_ID_INVALID"
  | .dataCommitmentInvalid => "DATA_COMMITMENT_INVALID"
  | .timestampInvalid => "TIMESTAMP_INVALID"
  | .graphEdgeInvalid => "GRAPH_EDGE_INVALID"
  | .unsupportedVersion => "UNSUPPORTED_VERSION"

/-- The text of a status of the standalone verifier. -/
def Standalone.VerificationStatus.value : Standalone.VerificationStatus → String
  | .valid => "VALID"
  | .validPartial => "VALID_PARTIAL"
  | .schemaInvalid => "SCHEMA_INVALID"
  | .bundleIdMismatch => "BUNDLE_ID_MISMATCH"
  | .integrityMismatch => "INTEGRITY_MISMATCH"
  | .circuitHashMismatch => "CIRCUIT_HASH_MISMATCH"
  | .proofInvalid => "PROOF_INVALID"
  | .aiIdInvalid => "AI_ID_INVALID"
  | .dataCommitmentInvalid => "DATA_COMMITMENT_INVALID"
  | .timestampInvalid => "TIMESTAMP_INVALID"
  | .graphEdgeInvalid => "GRAPH_EDGE_INVALID"
  | .unsupportedVersion => "UNSUPPORTED_VERSION"

/-- The SDK's status of the same name. -/
def Standalone.VerificationStatus.toSdk :
    Standalone.VerificationStatus → Sdk.Python.VerificationStatus
  | .valid => .valid
  | .validPartial => .validPartial
  | .schemaInvalid => .schemaInvalid
  | .bundleIdMismatch => .bundleIdMismatch
  | .integrityMismatch => .integrityMismatch
  | .circuitHashMismatch => .circuitHashMismatch
  | .proofInvalid => .proofInvalid
  | .aiIdInvalid => .aiIdInvalid
  | .dataCommitmentInvalid => .dataCommitmentInvalid
  | .timestampInvalid => .timestampInvalid
  | .graphEdgeInvalid => .graphEdgeInvalid
  | .unsupportedVersion => .unsupportedVersion

theorem Standalone.VerificationStatus.value_toSdk (status : Standalone.VerificationStatus) :
    status.toSdk.value = status.value := by
  cases status <;> rfl

section Statuses

variable {fmt} {data : List (String × JsonValue)} {bundle : Loaded.ProofBundle}
  (h : Loaded.Reads fmt data bundle)

include h

/-- The checks are the same, but that the SDK refuses two fields that are `None`. -/
theorem Sdk.Python.Loaded.Reads.requiredChecks_eq (registry : Loaded.CircuitRegistry)
    (hid : bundle.bundleId.isNull = false) (hissued : bundle.issuedAt.isNull = false) :
    Loaded.requiredChecks std registry bundle =
      (Standalone.requiredChecks std registry data).map (Check.rename (·.toSdk)) := by
  rw [Loaded.requiredChecks, h.schemaHolds_eq, h.idHolds_eq, h.integrityHolds_eq,
    h.circuitHolds_eq, h.proofHolds_eq, h.commitmentsHold_eq, hid, hissued, ← h.vrlVersion]
  rfl

/-- Verifiers that both return give the same status, unless a field is `None`. -/
theorem Sdk.Python.Loaded.Reads.status_eq (registry : Loaded.CircuitRegistry)
    (hid : bundle.bundleId.isNull = false) (hissued : bundle.issuedAt.isNull = false)
    {r : Standalone.VerificationResult} {r' : Loaded.VerificationResult}
    (hr : Standalone.verify std fmt registry (.obj data) = .ok r)
    (hr' : Loaded.verify std fmt registry bundle = .ok r') : r'.status = r.status.toSdk := by
  rw [Loaded.verify_status std fmt registry bundle hr',
    (Standalone.verify_verdict std fmt registry data hr).status,
    h.requiredChecks_eq std registry hid hissued, firstFailure_rename, h.timestampHolds_eq,
    h.graphHolds_eq]
  cases firstFailure (Standalone.requiredChecks std registry data) with
  | some e => rfl
  | none => cases Standalone.timestampHolds data && Standalone.graphHolds data <;> rfl

end Statuses

/-! ### Nothing raises -/

section Completes

namespace Standalone

/-- The loop returns over the items that a list of records is read from. -/
theorem checkCommitments_completes {items : List JsonValue}
    {commitments : List Sdk.Python.Loaded.DataCommitment}
    (hread : items.mapM Sdk.Python.Loaded.DataCommitment.fromDict = .ok commitments) (i : Nat) :
    Completes fun r => checkCommitments std fmt r i items := by
  induction items generalizing commitments i with
  | nil => exact .ok _
  | cons item items ih =>
      rw [List.mapM_cons, Except.bind_eq_ok_iff] at hread
      obtain ⟨commitment, hitem, hread⟩ := hread
      rw [Except.bind_eq_ok_iff] at hread
      obtain ⟨rest, hrest, -⟩ := hread
      obtain ⟨members, hobj, -⟩ := Sdk.Python.Loaded.DataCommitment.fromDict_eq_ok_iff.mp hitem
      simp only [checkCommitments]
      exact .bind (asDict_eq_ok_iff.mpr hobj) (.ite (ih hrest (i + 1)) (.ok _))

theorem checkEdges_completes {ids : List JsonValue}
    (hids : ids.all Sdk.Python.Loaded.isStr = true) : Completes fun r => checkEdges fmt r ids := by
  induction ids with
  | nil => exact .ok _
  | cons id ids ih =>
      rw [List.all_cons, Bool.and_eq_true] at hids
      intro r
      show ∃ out, checkEdges fmt r (id :: ids) = .ok out
      rw [checkEdges]
      rcases Sdk.Python.Loaded.readUuid_cases hids.1 with hread | ⟨e, hread, hkind⟩
      · rw [hread]
        exact ih hids.2 r
      · rw [hread]
        dsimp only
        rw [if_pos (Or.inl hkind)]
        exact ⟨_, rfl⟩

variable {fmt} {data : List (String × JsonValue)} {bundle : Loaded.ProofBundle}
  (h : Loaded.Reads fmt data bundle) (htyped : Sdk.Python.Loaded.TypedFields bundle)

include h htyped

theorem requiredSteps_complete (registry : CircuitRegistry) :
    ∀ step ∈ requiredSteps std fmt registry data, Completes step := by
  obtain ⟨ai, hai, -⟩ := h.part_aiIdentity
  obtain ⟨comp, hcomp, hcompEq⟩ := h.part_computation
  obtain ⟨proof, hproof, -, hproofEq⟩ := h.part_proof
  obtain ⟨inputHash, hin⟩ := Sdk.Python.Loaded.isStr_iff.mp htyped.inputHash
  obtain ⟨outputHash, hout⟩ := Sdk.Python.Loaded.isStr_iff.mp htyped.outputHash
  obtain ⟨traceHash, htrace⟩ := Sdk.Python.Loaded.isStr_iff.mp htyped.traceHash
  obtain ⟨proofSystem, hsystem⟩ := Sdk.Python.Loaded.isStr_iff.mp htyped.proofSystem
  rw [← hcompEq] at hin hout htrace
  rw [← hproofEq] at hsystem
  -- the steps raise on nothing else than these texts
  intro step hstep
  simp only [requiredSteps, List.mem_cons, List.not_mem_nil, or_false] at hstep
  rcases hstep with rfl | rfl | rfl | rfl | rfl | rfl | rfl | rfl
  · exact .ite (.ok _) (.ok _)
  · unfold step2SchemaValidation
    cases requiredFields.find? fun field => (data.lookup field).isNone with
    | some field => exact .ok _
    | none =>
        refine .bind hai (.ite (.ok _) (.bind hcomp ?_))
        cases hashFields.find? fun field => !isValidHexHash (getOrNull comp field) with
        | some field => exact .ok _
        | none => exact .bind hproof (.ite (.ok _) (.ok _))
  · refine .bind hcomp ?_
    cases (getOrNull comp "integrity_hash").asText with
    | error e => exact .ok _
    | ok integrityHash => exact .ite (.ok _) (.ok _)
  · have hhash : computeIntegrityHash std (getOrNull comp "input_hash")
        (getOrNull comp "output_hash") (getOrNull comp "trace_hash") =
          .ok (sha256 std (inputHash ++ outputHash ++ traceHash)) := by
      rw [computeIntegrityHash]
      show ((getOrNull comp "input_hash").asText >>= _) = _
      rw [show getOrNull comp "input_hash" = _ from hin,
        show getOrNull comp "output_hash" = _ from hout,
        show getOrNull comp "trace_hash" = _ from htrace]
      rfl
    exact .bind hcomp (.bind hhash (.ite (.ok _) (.ok _)))
  · refine .bind hcomp ?_
    dsimp only
    cases registry (getOrNull comp "circuit_id") (getOrNull comp "circuit_version") with
    | none => exact .ok _
    | some circuitHash => exact .ite (.ok _) (.ok _)
  · have hvalid : (getOrNull proof "proof_system").isIn validSystems =
        .ok (validSystems.contains proofSystem) := by
      rw [show getOrNull proof "proof_system" = _ from hsystem]
      rfl
    exact .bind hproof (.bind hvalid (.ite (.ok _) (.bind hcomp (.ite (.ok _) (.ok _)))))
  · exact .bind hai (.ite (.ok _) (.ite (.ok _) (.ok _)))
  · unfold step8DataCommitmentVerification
    dsimp only
    rcases Sdk.Python.Loaded.optionalPart_eq_ok_iff.mp h.dataCommitments with
      ⟨hfalsy, -⟩ | ⟨-, _, hread, -⟩
    · rw [hfalsy]
      exact .ok _
    · obtain ⟨items, hitems, hcommitments⟩ := Except.bind_eq_ok_iff.mp hread
      exact .ite (.ok _) (.bind hitems (checkCommitments_completes std fmt hcommitments 0))

omit htyped in
theorem verifyTimestamp_completes (r : VerificationResult) :
    ∃ r', verifyTimestamp fmt data r = .ok r' := by
  rw [verifyTimestamp]
  rcases Sdk.Python.Loaded.optionalPart_eq_ok_iff.mp h.legal with ⟨hfalsy, -⟩ | ⟨htruthy, _, hread, -⟩
  · rw [hfalsy]
    exact ⟨r, rfl⟩
  obtain ⟨legal, hobj, tsa, htsa, -⟩ := Sdk.Python.Loaded.Legal.fromDict_eq_ok_iff.mp hread
  have hlegal : part data "legal" = .ok legal := part_eq_ok hobj
  rw [htruthy, hlegal, step9TimestampVerification, hlegal]
  rcases Sdk.Python.Loaded.optionalPart_eq_ok_iff.mp htsa with ⟨hfalsy, -⟩ | ⟨htruthy, _, hread, -⟩
  · simp only [Except.ok_bind, hfalsy]
    exact ⟨r, rfl⟩
  obtain ⟨block, ⟨hobj, -⟩, -⟩ := Sdk.Python.Loaded.TimestampAuthority.fromDict_eq_ok_iff.mp hread
  have hblock : part legal "timestamp_authority" = .ok block := part_eq_ok hobj
  simp only [Except.ok_bind, htruthy, hblock]
  cases isComplete block with
  | true => exact ⟨_, rfl⟩
  | false => exact ⟨_, rfl⟩

theorem verifyGraph_completes (r : VerificationResult) :
    ∃ r', verifyGraph fmt data r = .ok r' := by
  rw [verifyGraph]
  rcases Sdk.Python.Loaded.optionalPart_eq_ok_iff.mp h.proofGraph with
    ⟨hfalsy, -⟩ | ⟨htruthy, graph, hread, hsome⟩
  · rw [hfalsy]
    exact ⟨r, rfl⟩
  obtain ⟨members, hobj, hgraph⟩ := Sdk.Python.Loaded.ProofGraph.fromDict_eq_ok_iff.mp hread
  have hpart : part data "proof_graph" = .ok members := part_eq_ok hobj
  -- the record has the identifiers that the dictionary has
  have hdependsOn : Sdk.Python.Loaded.orNull (Sdk.Python.Loaded.isListOf Sdk.Python.Loaded.isStr)
      (getOrNull members "depends_on") = true := by
    have htypes := htyped.dependsOn
    rwa [Sdk.Python.Loaded.dependsOn, hsome, ← hgraph] at htypes
  rw [htruthy, hpart, step10ProofGraphVerification, hpart]
  cases hids : (getOrNull members "depends_on").truthy with
  | false =>
      simp only [Except.ok_bind, hids]
      exact ⟨r, rfl⟩
  | true =>
      obtain ⟨ids, hiterate, hall⟩ := Sdk.Python.Loaded.iterate_of_typed hdependsOn hids
      obtain ⟨⟨r', ok⟩, hedges⟩ := checkEdges_completes fmt hall r
      simp only [Except.ok_bind, hids, Bool.not_true, Bool.false_eq_true, if_false, hiterate, hedges]
      cases ok with
      | true => exact ⟨_, rfl⟩
      | false => exact ⟨_, rfl⟩

/-- **On fields of their declared types the standalone verifier returns.** -/
theorem verify_completes (registry : CircuitRegistry) :
    ∃ r, verify std fmt registry (.obj data) = .ok r := by
  rw [verify_eq_run]
  refine orReturnRaising_completes
    (runRaising_completes (requiredSteps_complete std h htyped registry) _) fun r => ?_
  obtain ⟨r₁, h₁⟩ := verifyTimestamp_completes h r
  obtain ⟨r₂, h₂⟩ := verifyGraph_completes h htyped r₁
  rw [verifyOptional, h₁, Except.ok_bind, h₂]
  exact ⟨_, rfl⟩

end Standalone

end Completes

/-! ### The refinement -/

section Refinement

open Sdk.Python

/-- Both default registries give a circuit the hash of its name. -/
theorem Standalone.mockRegistry_eq : Standalone.mockRegistry std = Loaded.mockRegistry std := rfl

/-- A member of its declared type is not `None`. -/
theorem not_isNull_of_isStr {v : JsonValue} (h : Loaded.isStr v = true) :
    v.isNull = false := by
  obtain ⟨s, rfl⟩ := Loaded.isStr_iff.mp h
  rfl

theorem standalone_refines_sdk {d : JsonValue} {bundle : Loaded.ProofBundle}
    (htyped : Loaded.wellTyped d = true) (hread : Loaded.ProofBundle.fromDict fmt d = .ok bundle) :
    ∃ r r', Standalone.verify std fmt (Standalone.mockRegistry std) d = .ok r ∧
      Loaded.verify std fmt (Loaded.mockRegistry std) bundle = .ok r' ∧
      r.status.value = r'.status.value := by
  obtain ⟨data, rfl, h⟩ := (Loaded.ProofBundle.fromDict_eq_ok_iff fmt).mp hread
  have hfields := h.typedFields htyped
  obtain ⟨r, hr⟩ := Standalone.verify_completes std h hfields (Standalone.mockRegistry std)
  obtain ⟨r', hr'⟩ := Loaded.verify_completes fmt std hfields (Loaded.mockRegistry std)
  refine ⟨r, r', hr, hr', ?_⟩
  -- the fields that the SDK wants not to be None are texts
  have htext : ∀ key, (key, Loaded.isStr) ∈ Loaded.bundleShape →
      key ∈ Loaded.ProofBundle.required → (getOrNull data key).isNull = false :=
    fun key hshape hkey => not_isNull_of_isStr
      (Loaded.hasShape_field htyped hshape (h.required key hkey))
  have hid := htext "bundle_id" (by simp [Loaded.bundleShape]) (by simp [Loaded.ProofBundle.required])
  have hissued := htext "issued_at" (by simp [Loaded.bundleShape])
    (by simp [Loaded.ProofBundle.required])
  rw [h.bundleId] at hid
  rw [h.issuedAt] at hissued
  rw [Standalone.mockRegistry_eq] at hr
  rw [h.status_eq std _ hid hissued hr hr', Standalone.VerificationStatus.value_toSdk]

/-! ### A bundle with an empty timestamp token -/

/-- A bundle that is as it should be but for its timestamp token, which is empty. -/
def unstampedBundle : ProofBundle :=
  sampleBundle (some
    { timestampAuthority := some
        { tsaToken := "", tsaProvider := "tsa", tsaHashAlgorithm := "sha256" } })

/-- The members of its dictionary. -/
def unstampedData : List (String × JsonValue) := sorted unstampedBundle.members

/-- The bundle that is read from the dictionary. -/
def unstampedLoaded : Loaded.ProofBundle := unstampedBundle.withoutEmpty.toLoaded

theorem unstampedData_typed : Loaded.wellTyped (.obj unstampedData) = true := by
  decide +kernel

theorem unstampedData_reads : Loaded.Reads fmt unstampedData unstampedLoaded :=
  ProofBundle.reads_toDict fmt rfl (isValidHexHash_hexFixed 0) (by decide) (by decide +kernel)

theorem unstampedData_fromDict :
    Loaded.ProofBundle.fromDict fmt (.obj unstampedData) = .ok unstampedLoaded :=
  (Loaded.ProofBundle.fromDict_eq_ok_iff fmt).mpr ⟨_, rfl, unstampedData_reads fmt⟩

theorem standalone_refines_sdk_unstamped :
    ∃ r r', Standalone.verify sampleStd typeFormatter (Standalone.mockRegistry sampleStd)
        (.obj unstampedData) = .ok r ∧
      Loaded.verify sampleStd typeFormatter (Loaded.mockRegistry sampleStd) unstampedLoaded =
        .ok r' ∧
      r.status.value = r'.status.value :=
  standalone_refines_sdk sampleStd typeFormatter unstampedData_typed
    (unstampedData_fromDict typeFormatter)

end Refinement

end Vrl

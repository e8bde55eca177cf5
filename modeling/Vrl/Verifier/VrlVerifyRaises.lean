import Vrl.Lib.JsonShape
import Vrl.Sdk.Python.RoundTrip
import Vrl.Verifier.VrlVerifySpec

/-!
# Vrl.Verifier.VrlVerifyRaises

When the standalone verifier gives a verdict, and when it raises instead.

A step calls `get` on what it takes for a dictionary, looks for what it takes for a text and
iterates over what it takes for a list. `verifyDemands` lists what the steps demand of a
bundle's dictionary in this way, each demand with the exception that is raised otherwise, and
among them the checks at which the verifier returns. The first demand that is not met decides
(**`verify_returns_iff`**).
-/

open TextCodec CheckPipeline JsonValue

namespace Vrl.Standalone

variable (std : PyStd) (fmt : Formatter) (registry : CircuitRegistry) (bundle : Bundle)

/-! ### Demands -/

/-- A demand of the verifier: a check at which it stops, or one that Python makes. -/
abbrev Demand := Check (Option PyErrorKind)

/-- `bundle.get(key, {})`. -/
def partOf (bundle : Bundle) (key : String) : JsonValue := (bundle.lookup key).getD (.obj [])

/-- The value is a dictionary, whose methods are called. -/
def dictDemand (value : JsonValue) : Demand := ⟨isDict value, some .attributeError⟩

/-- What step 2 demands. -/
def schemaDemands : List Demand :=
  [⟨requiredFields.all fun field => (bundle.lookup field).isSome, none⟩,
    dictDemand (partOf bundle "ai_identity"),
    ⟨isValidHexHash (getOrNull (membersOf (partOf bundle "ai_identity")) "ai_id"), none⟩,
    dictDemand (partOf bundle "computation"),
    ⟨hashFields.all fun field =>
      isValidHexHash (getOrNull (membersOf (partOf bundle "computation")) field), none⟩,
    dictDemand (partOf bundle "proof"),
    ⟨isValidHexHash (getOrNull (membersOf (partOf bundle "proof")) "proof_hash"), none⟩]

/-- What step 6 demands. -/
def proofDemands : List Demand :=
  [⟨isHashable (getOrNull (membersOf (partOf bundle "proof")) "proof_system"), some .typeError⟩,
    ⟨proofHolds std bundle, none⟩]

/-- What step 8 demands. -/
def commitmentsDemands : List Demand :=
  when (getOrNull bundle "data_commitments").truthy <|
    ⟨isIterable (getOrNull bundle "data_commitments"), some .typeError⟩ ::
    (iterated (getOrNull bundle "data_commitments")).flatMap fun value =>
      [dictDemand value, ⟨commitmentHolds std value, none⟩]

/-- What the required steps demand. -/
def requiredDemands : List Demand :=
  ⟨(getOrNull bundle "vrl_version").isText "1.0", none⟩ ::
  (schemaDemands bundle ++
    (⟨idHolds std bundle, none⟩ :: ⟨integrityHolds std bundle, none⟩ ::
    ⟨circuitHolds registry bundle, none⟩ :: (proofDemands std bundle ++
    commitmentsDemands std bundle)))

/-- What step 9 demands, which nothing stops. -/
def timestampDemands : List (Check PyErrorKind) :=
  when (getOrNull bundle "legal").truthy <|
    ⟨isDict (getOrNull bundle "legal"), .attributeError⟩ ::
    when (getOrNull (membersOf (getOrNull bundle "legal")) "timestamp_authority").truthy
      [⟨isDict (getOrNull (membersOf (getOrNull bundle "legal")) "timestamp_authority"),
        .attributeError⟩]

/-- What step 10 demands of an identifier: `None` is what `uuid.UUID` answers with a
`TypeError`, which is not caught. -/
def edgeDemands (id : JsonValue) : List Demand :=
  [⟨!id.isNull, some .typeError⟩, ⟨id.isUuid, none⟩]

/-- What step 10 demands of the identifiers. -/
def dependsOnDemands (dependsOn : JsonValue) : List Demand :=
  when dependsOn.truthy <|
    ⟨isIterable dependsOn, some .typeError⟩ :: (iterated dependsOn).flatMap edgeDemands

/-- What step 10 demands. -/
def graphDemands : List Demand :=
  when (getOrNull bundle "proof_graph").truthy <|
    dictDemand (getOrNull bundle "proof_graph") ::
    dependsOnDemands (getOrNull (membersOf (getOrNull bundle "proof_graph")) "depends_on")

/-- What the verifier demands, in the order of its steps. -/
def verifyDemands : List Demand :=
  requiredDemands std registry bundle ++
  ((timestampDemands bundle).map (Check.rename some) ++ graphDemands bundle)

/-! ### The steps make them -/

theorem part_demands (key : String) :
    Demands PyError.kind (part bundle key) [⟨isDict (partOf bundle key), .attributeError⟩] :=
  asDict_demands (fun _ => rfl) (partOf bundle key) "get"

theorem part_eq_membersOf {bundle : Bundle} {key : String} {members : Bundle}
    (h : part bundle key = .ok members) : members = membersOf (partOf bundle key) :=
  asDict_eq_membersOf h

theorem step1_ends : Ends PyError.kind (step1VersionCheck fmt bundle)
    [⟨(getOrNull bundle "vrl_version").isText "1.0", none⟩] :=
  .test (fun _ => rfl) fun _ => .accepts _ fun _ => rfl

theorem step2_ends : Ends PyError.kind (step2SchemaValidation bundle) (schemaDemands bundle) := by
  unfold step2SchemaValidation schemaDemands
  rw [all_eq_isNone_find?, all_eq_isNone_find?]
  simp only [Option.not_isSome]
  cases requiredFields.find? fun field => (bundle.lookup field).isNone with
  | some field => exact .rejects _ fun _ => rfl
  | none =>
      refine .bind_cons (part_demands bundle "ai_identity") fun aiIdentity hai => ?_
      rw [part_eq_membersOf hai]
      refine .test (fun _ => rfl) fun _ => ?_
      refine .bind_cons (part_demands bundle "computation") fun computation hcomp => ?_
      rw [part_eq_membersOf hcomp]
      cases hashFields.find? fun field =>
          !isValidHexHash (getOrNull (membersOf (partOf bundle "computation")) field) with
      | some field => exact .rejects _ fun _ => rfl
      | none =>
          refine .bind_cons (part_demands bundle "proof") fun proof hproof => ?_
          rw [part_eq_membersOf hproof]
          exact .test (fun _ => rfl) fun _ => .accepts _ fun _ => rfl

/-- What is known of a bundle after step 2. -/
structure Parts (ai comp proof : Bundle) : Prop where
  aiIdentity : part bundle "ai_identity" = .ok ai
  computation : part bundle "computation" = .ok comp
  proof : part bundle "proof" = .ok proof
  aiId : isValidHexHash (getOrNull ai "ai_id") = true
  hashes : ∀ field ∈ hashFields, ∃ s, getOrNull comp field = .str s

theorem part_of_isDict {bundle : Bundle} {key : String} (h : isDict (partOf bundle key) = true) :
    part bundle key = .ok (membersOf (partOf bundle key)) := by
  show (partOf bundle key).asDict "get" = _
  cases hvalue : partOf bundle key with
  | obj members => rfl
  | _ =>
      rw [hvalue] at h
      cases h

/-- A hash is a text. -/
theorem str_of_isValidHexHash {value : JsonValue} (h : isValidHexHash value = true) :
    ∃ s, value = .str s := by
  cases value with
  | str s => exact ⟨s, rfl⟩
  | _ => cases h

theorem parts_of_schemaDemands {bundle : Bundle}
    (h : firstFailure (schemaDemands bundle) = none) : ∃ ai comp proof, Parts bundle ai comp proof := by
  have hmet := firstFailure_eq_none_iff.mp h
  simp only [schemaDemands, dictDemand, List.forall_mem_cons] at hmet
  obtain ⟨-, hai, haiId, hcomp, hhashes, hproof, -⟩ := hmet
  exact ⟨_, _, _, {
    aiIdentity := part_of_isDict hai
    computation := part_of_isDict hcomp
    proof := part_of_isDict hproof
    aiId := haiId
    hashes := fun field hfield => str_of_isValidHexHash (List.all_eq_true.mp hhashes field hfield) }⟩

section AfterSchema

variable {bundle} {ai comp proof : Bundle} (h : Parts bundle ai comp proof)

include h

theorem step3_ends : Ends PyError.kind (step3BundleIdCheck std fmt bundle)
    [⟨idHolds std bundle, none⟩] := by
  obtain ⟨s, hs⟩ := h.hashes "integrity_hash" (by simp [hashFields])
  rw [idHolds, h.computation, okAnd_ok, hs]
  refine .bind_ok h.computation ?_
  rw [hs]
  exact .test (fun _ => rfl) fun _ => .accepts _ fun _ => rfl

theorem step4_ends : Ends PyError.kind (step4IntegrityHashCheck std bundle)
    [⟨integrityHolds std bundle, none⟩] := by
  obtain ⟨input, hinput⟩ := h.hashes "input_hash" (by simp [hashFields])
  obtain ⟨output, houtput⟩ := h.hashes "output_hash" (by simp [hashFields])
  obtain ⟨trace, htrace⟩ := h.hashes "trace_hash" (by simp [hashFields])
  rw [integrityHolds, h.computation, okAnd_ok, hinput, houtput, htrace]
  refine .bind_ok h.computation ?_
  rw [hinput, houtput, htrace]
  exact .test (fun _ => rfl) fun _ => .accepts _ fun _ => rfl

theorem step5_ends : Ends PyError.kind (step5CircuitResolution fmt registry bundle)
    [⟨circuitHolds registry bundle, none⟩] := by
  rw [circuitHolds, h.computation, okAnd_ok]
  refine .bind_ok h.computation ?_
  dsimp only
  cases registry (getOrNull comp "circuit_id") (getOrNull comp "circuit_version") with
  | none => exact .rejects _ fun _ => rfl
  | some circuitHash => exact .test (fun _ => rfl) fun _ => .accepts _ fun _ => rfl

theorem step6_ends : Ends PyError.kind (step6ProofStructureValidation std fmt bundle)
    (proofDemands std bundle) := by
  have hmembers : membersOf (partOf bundle "proof") = proof :=
    (part_eq_membersOf h.proof).symm
  rw [proofDemands, hmembers, proofHolds, h.proof, okAnd_ok, h.computation]
  refine .bind_ok h.proof ?_
  refine .bind_cons (isIn_demands (fun _ => rfl) validSystems _) fun valid hvalid => ?_
  rw [hvalid, okAnd_ok]
  cases valid with
  | false => exact .rejects _ fun _ => rfl
  | true =>
      refine .bind_ok h.computation ?_
      exact .test (fun _ => rfl) fun _ => .accepts _ fun _ => rfl

theorem step7_ends : Ends PyError.kind (step7AiIdVerification bundle) [] := by
  refine .bind_ok h.aiIdentity ?_
  rw [h.aiId]
  cases (getOrNull ai "provider_signature").truthy with
  | false => exact .accepts _ fun _ => rfl
  | true => exact .accepts _ fun _ => rfl

end AfterSchema

theorem checkCommitments_ends (i : Nat) (values : List JsonValue) :
    Ends PyError.kind (fun r => checkCommitments std fmt r i values)
      (values.flatMap fun value => [dictDemand value, ⟨commitmentHolds std value, none⟩]) := by
  induction values generalizing i with
  | nil => exact .accepts _ fun _ => rfl
  | cons value values ih =>
      simp only [checkCommitments]
      rw [List.flatMap_cons]
      refine .bind_cons (asDict_demands (fun _ => rfl) value "get") fun commitment hvalue => ?_
      rw [commitmentHolds, hvalue, okAnd_ok]
      cases (getOrNull commitment "commitment_hash").isText
          (recomputedCommitmentHash std commitment) with
      | true => exact ih (i + 1)
      | false => exact .rejects _ fun _ => rfl

theorem step8_ends : Ends PyError.kind (step8DataCommitmentVerification std fmt bundle)
    (commitmentsDemands std bundle) := by
  unfold step8DataCommitmentVerification commitmentsDemands
  dsimp only
  cases (getOrNull bundle "data_commitments").truthy with
  | false => exact .accepts _ fun _ => rfl
  | true =>
      refine .bind_cons (iterate_demands (fun _ => rfl) _) fun values hvalues => ?_
      rw [iterate_eq_iterated hvalues]
      exact checkCommitments_ends std fmt 0 _

/-- **The required steps make their demands in a row.** -/
theorem requiredSteps_ends :
    Ends PyError.kind (runRaising (requiredSteps std fmt registry bundle))
      (requiredDemands std registry bundle) := by
  refine .cons (step1_ends fmt bundle) fun _ => ?_
  refine .cons (step2_ends bundle) fun hschema => ?_
  obtain ⟨ai, comp, proof, hparts⟩ := parts_of_schemaDemands hschema
  refine .cons (step3_ends std fmt hparts) fun _ => ?_
  refine .cons (step4_ends std hparts) fun _ => ?_
  refine .cons (step5_ends fmt registry hparts) fun _ => ?_
  refine .cons (step6_ends std fmt hparts) fun _ => ?_
  rw [← List.nil_append (commitmentsDemands std bundle)]
  refine .cons (step7_ends hparts) fun _ => ?_
  rw [← List.append_nil (commitmentsDemands std bundle)]
  exact .cons (step8_ends std fmt bundle) fun _ => .nil

/-! ### The optional steps -/

/-- A truthy part is there, so the default does not matter. -/
theorem partOf_of_truthy {bundle : Bundle} {key : String}
    (h : (getOrNull bundle key).truthy = true) : partOf bundle key = getOrNull bundle key := by
  rw [partOf, getOrNull] at *
  cases hlookup : bundle.lookup key with
  | none =>
      rw [hlookup] at h
      cases h
  | some value => rfl

theorem step9_demands {legal : Bundle} (hlegal : part bundle "legal" = .ok legal)
    (htruthy : (getOrNull legal "timestamp_authority").truthy = true) (r : VerificationResult) :
    Demands PyError.kind (step9TimestampVerification fmt bundle r)
      [⟨isDict (getOrNull legal "timestamp_authority"), .attributeError⟩] := by
  rw [step9TimestampVerification, hlegal, Except.ok_bind, htruthy]
  rw [← partOf_of_truthy htruthy]
  refine .bind_cons (part_demands legal "timestamp_authority") fun tsa _ => ?_
  cases isComplete tsa with
  | true => exact .ok _
  | false => exact .ok _

theorem verifyTimestamp_demands (r : VerificationResult) :
    Demands PyError.kind (verifyTimestamp fmt bundle r) (timestampDemands bundle) := by
  refine .unless fun htruthy => ?_
  rw [← partOf_of_truthy htruthy]
  refine .bind_cons (part_demands bundle "legal") fun legal hlegal => ?_
  rw [← part_eq_membersOf hlegal]
  refine .unless fun htsa => ?_
  rw [← List.append_nil [_]]
  refine (step9_demands fmt bundle hlegal htsa r).bind fun out _ => .of_returns ?_
  obtain ⟨r', goOn⟩ := out
  cases goOn with
  | true => exact ⟨_, rfl⟩
  | false => exact ⟨_, rfl⟩

theorem checkEdges_ends (ids : List JsonValue) :
    Ends PyError.kind (fun r => checkEdges fmt r ids) (ids.flatMap edgeDemands) := by
  induction ids with
  | nil => exact .accepts _ fun _ => rfl
  | cons id ids ih =>
      intro r
      show ending PyError.kind (checkEdges fmt r (id :: ids)) = _
      rw [checkEdges, List.flatMap_cons]
      cases id with
      | str s =>
          rw [readUuid, edgeDemands, isUuid]
          cases PyInt.parsesUuid s with
          | true => exact ih r
          | false => rfl
      | _ => rfl

theorem step10_ends {graph : Bundle} (hgraph : part bundle "proof_graph" = .ok graph) :
    Ends PyError.kind (step10ProofGraphVerification fmt bundle)
      (dependsOnDemands (getOrNull graph "depends_on")) := by
  refine .bind_ok hgraph ?_
  unfold dependsOnDemands
  dsimp only
  cases (getOrNull graph "depends_on").truthy with
  | false => exact .accepts _ fun _ => rfl
  | true =>
      refine .bind_cons (iterate_demands (fun _ => rfl) _) fun ids hids => ?_
      rw [iterate_eq_iterated hids]
      exact checkEdges_ends fmt _

theorem verifyGraph_settles (r : VerificationResult) :
    Settles PyError.kind (verifyGraph fmt bundle r) (graphDemands bundle) := by
  refine .when fun htruthy => ?_
  rw [← partOf_of_truthy htruthy]
  refine Settles.bind (part_demands bundle "proof_graph") fun graph hgraph => ?_
  rw [← part_eq_membersOf hgraph]
  have hstep := step10_ends fmt bundle hgraph r
  rw [dependsOnDemands] at hstep
  refine .when fun hdep => ?_
  rw [hdep] at hstep
  refine .of_ends hstep fun out => ?_
  obtain ⟨r', goOn⟩ := out
  cases goOn with
  | true => exact ⟨_, rfl⟩
  | false => exact ⟨_, rfl⟩

/-- **The verifier raises if and as the first demand says that is not met.** -/
theorem verify_settles :
    Settles PyError.kind (verify std fmt registry (.obj bundle))
      (verifyDemands std registry bundle) := by
  rw [verify_eq_run]
  refine .orReturn (requiredSteps_ends std fmt registry bundle _) fun _ r => ?_
  refine .bind (verifyTimestamp_demands fmt bundle r) fun r' _ => ?_
  exact (verifyGraph_settles fmt bundle r').bind_ok

theorem verify_returns_iff :
    (∃ result, verify std fmt registry (.obj bundle) = .ok result) ↔
      ∀ kind, firstFailure (verifyDemands std registry bundle) ≠ some (some kind) :=
  (verify_settles std fmt registry bundle).returns_iff

/-- A bundle whose identity is a text is one that the verifier raises for. -/
theorem text_for_identity_raises :
    verify Sdk.Python.sampleStd typeFormatter (mockRegistry Sdk.Python.sampleStd) (.obj [
        ("vrl_version", .str "1.0"), ("bundle_id", .str ""), ("issued_at", .str ""),
        ("ai_identity", .str "model"), ("computation", .obj []), ("proof", .obj [])]) =
      .error ⟨.attributeError, "'str' object has no attribute 'get'"⟩ := by
  rfl

end Vrl.Standalone

import Vrl.Lib.JsonMembers
import Vrl.Sdk.Python.LoadedSpec
import Vrl.Sdk.Python.TypedBundles
import Vrl.Sdk.Python.VerifierSpec

/-!
# Vrl.Sdk.Python.Serialization

A proof bundle written to JSON and read back (`sdk/python/vrl/bundle.py`).

Writing leaves out what is `None` and a list of commitments that is empty, sorts the
members of every object, and may indent. What is read back is the bundle without its empty
parts (**`fromJson_toJson`**), which the verifier judges as it does the bundle itself.
-/

open TextCodec JsonValue

namespace Vrl.Sdk.Python

/-! ### Dictionaries -/

/-- A member for an optional part. -/
def optionalMember {α : Type} (key : String) (toDict : α → JsonValue) :
    Option α → List (String × JsonValue)
  | some a => [(key, toDict a)]
  | none => []

/-- `asdict` of the record. -/
def AIIdentity.members (identity : AIIdentity) : List (String × JsonValue) :=
  [("ai_id", .str identity.aiId),
    ("model_name", .str identity.modelName),
    ("model_version", .str identity.modelVersion),
    ("provider_id", .str identity.providerId),
    ("execution_environment", .str identity.executionEnvironment),
    ("provider_signature", orNone .str identity.providerSignature),
    ("tee_attestation_report", orNone .str identity.teeAttestationReport),
    ("parent_ai_id", orNone .str identity.parentAiId)]

/-- `AIIdentity.to_dict`. -/
def AIIdentity.toDict (identity : AIIdentity) : JsonValue := .obj (present identity.members)

/-- `asdict` of the record. -/
def Computation.members (computation : Computation) : List (String × JsonValue) :=
  [("circuit_id", .str computation.circuitId),
    ("circuit_version", .str computation.circuitVersion),
    ("circuit_hash", .str computation.circuitHash),
    ("input_hash", .str computation.inputHash),
    ("output_hash", .str computation.outputHash),
    ("trace_hash", .str computation.traceHash),
    ("integrity_hash", .str computation.integrityHash)]

/-- `Computation.to_dict`. -/
def Computation.toDict (computation : Computation) : JsonValue := .obj computation.members

/-- `asdict` of the record. -/
def Proof.members (proof : Proof) : List (String × JsonValue) :=
  [("proof_system", .str proof.proofSystem),
    ("proof_bytes", .str proof.proofBytes),
    ("public_inputs", texts proof.publicInputs),
    ("verification_key_id", .str proof.verificationKeyId),
    ("proof_hash", .str proof.proofHash),
    ("commitments", orNone texts proof.commitments)]

/-- `Proof.to_dict`. -/
def Proof.toDict (proof : Proof) : JsonValue := .obj (present proof.members)

/-- `asdict` of the record. -/
def DataCommitment.members (commitment : DataCommitment) : List (String × JsonValue) :=
  [("dataset_id", .str commitment.datasetId),
    ("dataset_version", .str commitment.datasetVersion),
    ("dataset_hash", .str commitment.datasetHash),
    ("provider_id", .str commitment.providerId),
    ("committed_at", .str commitment.committedAt),
    ("commitment_hash", .str commitment.commitmentHash),
    ("provider_signature", orNone .str commitment.providerSignature)]

/-- `DataCommitment.to_dict`. -/
def DataCommitment.toDict (commitment : DataCommitment) : JsonValue := .obj (present commitment.members)

/-- `asdict` of the record. -/
def TimestampAuthority.members (tsa : TimestampAuthority) : List (String × JsonValue) :=
  [("tsa_token", .str tsa.tsaToken),
    ("tsa_provider", .str tsa.tsaProvider),
    ("tsa_hash_algorithm", .str tsa.tsaHashAlgorithm)]

/-- `TimestampAuthority.to_dict`. -/
def TimestampAuthority.toDict (tsa : TimestampAuthority) : JsonValue := .obj tsa.members

/-- `asdict` of the record. -/
def ImmutableAnchor.members (anchor : ImmutableAnchor) : List (String × JsonValue) :=
  [("chain", .str anchor.chain),
    ("tx_hash", .str anchor.txHash),
    ("block_number", .int anchor.blockNumber),
    ("anchored_at", .str anchor.anchoredAt)]

/-- `ImmutableAnchor.to_dict`. -/
def ImmutableAnchor.toDict (anchor : ImmutableAnchor) : JsonValue := .obj anchor.members

/-- The members of `Legal.to_dict`, those that are `None` among them. -/
def Legal.members (legal : Legal) : List (String × JsonValue) :=
  [("jurisdictions", orNone texts legal.jurisdictions),
    ("admissibility_standard", orNone .str legal.admissibilityStandard),
    ("compliance_flags", orNone texts legal.complianceFlags)] ++
  optionalMember "timestamp_authority" (·.toDict) legal.timestampAuthority ++
  optionalMember "immutable_anchor" (·.toDict) legal.immutableAnchor

/-- `Legal.to_dict`. -/
def Legal.toDict (legal : Legal) : JsonValue := .obj (present legal.members)

/-- `asdict` of a proof graph. -/
def ProofGraph.members (graph : ProofGraph) : List (String × JsonValue) :=
  [("depends_on", orNone texts graph.dependsOn),
    ("produced_by", orNone .str graph.producedBy),
    ("causal_depth", orNone .int graph.causalDepth),
    ("graph_root_hash", orNone .str graph.graphRootHash),
    ("privacy_tier", orNone .str graph.privacyTier)]

/-- `ProofGraph.to_dict`. -/
def ProofGraph.toDict (graph : ProofGraph) : JsonValue := .obj (present graph.members)

/-- `asdict` of a trust context. -/
def TrustContext.members (trust : TrustContext) : List (String × JsonValue) :=
  [("prover_id", orNone .str trust.proverId),
    ("prover_version", orNone .str trust.proverVersion),
    ("trust_score_at_issuance", orNone .float trust.trustScoreAtIssuance),
    ("circuit_certification_tier", orNone .str trust.circuitCertificationTier),
    ("anomaly_flags", orNone texts trust.anomalyFlags)]

/-- `TrustContext.to_dict`. -/
def TrustContext.toDict (trust : TrustContext) : JsonValue := .obj (present trust.members)

/-- The member for the commitments, which an empty list does without. -/
def commitmentsMember : Option (List DataCommitment) → List (String × JsonValue)
  | none | some [] => []
  | some commitments => [("data_commitments", .arr (commitments.map (·.toDict)))]

/-- The members of `ProofBundle.to_dict` that every bundle has. -/
def ProofBundle.requiredMembers (bundle : ProofBundle) : List (String × JsonValue) :=
  [("vrl_version", .str bundle.vrlVersion),
    ("bundle_id", .str bundle.bundleId),
    ("issued_at", .str bundle.issuedAt),
    ("ai_identity", bundle.aiIdentity.toDict),
    ("computation", bundle.computation.toDict),
    ("proof", bundle.proof.toDict)]

/-- The members of `ProofBundle.to_dict`. -/
def ProofBundle.members (bundle : ProofBundle) : List (String × JsonValue) :=
  bundle.requiredMembers ++
  commitmentsMember bundle.dataCommitments ++
  optionalMember "legal" (·.toDict) bundle.legal ++
  optionalMember "proof_graph" (·.toDict) bundle.proofGraph ++
  optionalMember "trust_context" (·.toDict) bundle.trustContext

/-- `ProofBundle.to_dict`. -/
def ProofBundle.toDict (bundle : ProofBundle) : JsonValue := .obj bundle.members

/-! ### Texts -/

/-- `ProofBundle.to_json`: indented, or the canonical text. -/
def ProofBundle.toJson (bundle : ProofBundle) (pretty : Bool) : String :=
  if pretty then String.ofList (sortedText asciiCode indented bundle.toDict)
  else Loaded.canonicalJson bundle.toDict

/-- The bundle as it is after a round trip: parts without content are gone. -/
def ProofBundle.withoutEmpty (bundle : ProofBundle) : ProofBundle :=
  { bundle with
    dataCommitments := bundle.dataCommitments.filter fun commitments => !commitments.isEmpty
    legal := bundle.legal.filter fun legal => legal ≠ {}
    proofGraph := bundle.proofGraph.filter fun graph => graph ≠ {}
    trustContext := bundle.trustContext.filter fun trust => trust ≠ {} }

/-- The trust score, if there is one, is a float. -/
def ProofBundle.HasFloats (floats : FloatText) (bundle : ProofBundle) : Prop :=
  ∀ trust ∈ bundle.trustContext, ∀ score ∈ trust.trustScoreAtIssuance, floats.IsFloat score

/-! ### Sorted values -/

@[simp] theorem sortKeys_str (s : String) : sortKeys (.str s) = .str s := by rw [sortKeys]

@[simp] theorem sortKeys_int (i : Int) : sortKeys (.int i) = .int i := by rw [sortKeys]

@[simp] theorem sortKeys_float (literal : String) : sortKeys (.float literal) = .float literal := by
  rw [sortKeys]

@[simp] theorem sortKeys_texts (items : List String) : sortKeys (texts items) = texts items := by
  rw [texts, sortKeys, sortKeysItems_eq_map, List.map_map]
  refine congrArg JsonValue.arr (List.map_congr_left fun s _ => ?_)
  rw [Function.comp_apply, sortKeys]

theorem sortKeys_orNone {α : Type} {f : α → JsonValue} (hf : ∀ a, sortKeys (f a) = f a)
    (value : Option α) : sortKeys (orNone f value) = orNone f value := by
  cases value with
  | none => rw [orNone, sortKeys]
  | some a => exact hf a

@[simp] theorem sortKeys_orNone_str (value : Option String) :
    sortKeys (orNone .str value) = orNone .str value := sortKeys_orNone sortKeys_str value

@[simp] theorem sortKeys_orNone_int (value : Option Int) :
    sortKeys (orNone .int value) = orNone .int value := sortKeys_orNone sortKeys_int value

@[simp] theorem sortKeys_orNone_float (value : Option String) :
    sortKeys (orNone .float value) = orNone .float value := sortKeys_orNone sortKeys_float value

@[simp] theorem sortKeys_orNone_texts (value : Option (List String)) :
    sortKeys (orNone texts value) = orNone texts value := sortKeys_orNone sortKeys_texts value

@[simp] theorem isNull_texts (items : List String) : (texts items).isNull = false := rfl

@[simp] theorem isNull_orNone_str (value : Option String) :
    (orNone .str value).isNull = value.isNone := by cases value <;> rfl

@[simp] theorem isNull_orNone_int (value : Option Int) :
    (orNone .int value).isNull = value.isNone := by cases value <;> rfl

@[simp] theorem isNull_orNone_float (value : Option String) :
    (orNone .float value).isNull = value.isNone := by cases value <;> rfl

@[simp] theorem isNull_orNone_texts (value : Option (List String)) :
    (orNone texts value).isNull = value.isNone := by cases value <;> rfl

/-! ### The records are read back -/

section Read

variable (fmt : Formatter)

/-- A record's members, as they are found after writing. -/
theorem getOrNull_written {members : List (String × JsonValue)}
    (h : (members.map (·.1)).Nodup) (key : String) :
    getOrNull (sorted (present members)) key = sortKeys (getOrNull members key) := by
  rw [getOrNull_sorted (present_keys_nodup h), getOrNull_present h]

theorem hasKeys_of_getOrNull {keys : List String} {data : List (String × JsonValue)}
    (h : ∀ key ∈ keys, (getOrNull data key).isNull = false) : Loaded.HasKeys keys data := by
  intro key hkey
  refine lookup_sorted_isSome fun hnull => ?_
  have hnotNull := h key hkey
  rw [hnull] at hnotNull
  cases hnotNull

theorem AIIdentity.fromDict_toDict {identity : AIIdentity}
    (hai : isValidHexHash identity.aiId = true)
    (henv : identity.executionEnvironment ∈ Loaded.validEnvs) :
    Loaded.AIIdentity.fromDict fmt (sortKeys identity.toDict) = .ok identity.toLoaded := by
  have hget := getOrNull_written (show (identity.members.map (·.1)).Nodup by
    simp [AIIdentity.members])
  rw [Loaded.AIIdentity.fromDict_eq_ok_iff]
  refine ⟨_, sortKeys_obj _, hasKeys_of_getOrNull ?_, ?_, ?_, ?_⟩
  · simp only [hget]
    simp [Loaded.AIIdentity.required, AIIdentity.members, getOrNull, List.lookup_cons]
  · rw [hget]
    simpa [AIIdentity.members, getOrNull, List.lookup_cons, Loaded.isValidHexHash] using hai
  · rw [hget]
    simpa [AIIdentity.members, getOrNull, List.lookup_cons, isIn] using henv
  · simp only [Loaded.AIIdentity.ofMembers, hget]
    simp [AIIdentity.members, getOrNull, List.lookup_cons, AIIdentity.toLoaded]

theorem Computation.fromDict_toDict (computation : Computation) :
    Loaded.Computation.fromDict (sortKeys computation.toDict) = .ok computation.toLoaded := by
  have hget := getOrNull_sorted (show (computation.members.map (·.1)).Nodup by
    simp [Computation.members])
  rw [Loaded.Computation.fromDict_eq_ok_iff]
  refine ⟨_, sortKeys_obj _, hasKeys_of_getOrNull ?_, ?_⟩
  · simp only [hget]
    simp [Loaded.Computation.required, Computation.members, getOrNull, List.lookup_cons]
  · simp only [Loaded.Computation.ofMembers, hget]
    simp [Computation.members, getOrNull, List.lookup_cons, Computation.toLoaded]

theorem Proof.fromDict_toDict {proof : Proof}
    (hsystem : validSystems.contains proof.proofSystem = true) :
    Loaded.Proof.fromDict fmt (sortKeys proof.toDict) = .ok proof.toLoaded := by
  have hget := getOrNull_written (show (proof.members.map (·.1)).Nodup by simp [Proof.members])
  rw [Loaded.Proof.fromDict_eq_ok_iff]
  refine ⟨_, sortKeys_obj _, hasKeys_of_getOrNull ?_, ?_, ?_⟩
  · simp only [hget]
    simp [Loaded.Proof.required, Proof.members, getOrNull, List.lookup_cons]
  · rw [hget]
    have hname : getOrNull proof.members "proof_system" = .str proof.proofSystem := by
      simp [Proof.members, getOrNull]
    rw [hname, sortKeys_str, isIn, hsystem]
  · simp only [Loaded.Proof.ofMembers, hget]
    simp [Proof.members, getOrNull, List.lookup_cons, Proof.toLoaded]

theorem DataCommitment.fromDict_toDict (commitment : DataCommitment) :
    Loaded.DataCommitment.fromDict (sortKeys commitment.toDict) = .ok commitment.toLoaded := by
  have hget := getOrNull_written (show (commitment.members.map (·.1)).Nodup by
    simp [DataCommitment.members])
  rw [Loaded.DataCommitment.fromDict_eq_ok_iff]
  refine ⟨_, sortKeys_obj _, hasKeys_of_getOrNull ?_, ?_⟩
  · simp only [hget]
    simp [Loaded.DataCommitment.required, DataCommitment.members, getOrNull, List.lookup_cons]
  · simp only [Loaded.DataCommitment.ofMembers, hget]
    simp [DataCommitment.members, getOrNull, List.lookup_cons, DataCommitment.toLoaded]

theorem TimestampAuthority.fromDict_toDict (tsa : TimestampAuthority) :
    Loaded.TimestampAuthority.fromDict (sortKeys tsa.toDict) = .ok tsa.toLoaded := by
  have hget := getOrNull_sorted (show (tsa.members.map (·.1)).Nodup by
    simp [TimestampAuthority.members])
  rw [Loaded.TimestampAuthority.fromDict_eq_ok_iff]
  refine ⟨_, ⟨sortKeys_obj _, ?_, hasKeys_of_getOrNull ?_⟩, ?_⟩
  · intro m hm
    obtain ⟨m', hm', rfl⟩ := mem_sorted.mp hm
    simp only [TimestampAuthority.members, List.mem_cons, List.not_mem_nil, or_false] at hm'
    rcases hm' with rfl | rfl | rfl <;> simp
  · simp only [hget]
    simp [TimestampAuthority.members, getOrNull, List.lookup_cons]
  · simp only [Loaded.TimestampAuthority.ofMembers, hget]
    simp [TimestampAuthority.members, getOrNull, List.lookup_cons, TimestampAuthority.toLoaded]

theorem ImmutableAnchor.fromDict_toDict (anchor : ImmutableAnchor) :
    Loaded.ImmutableAnchor.fromDict (sortKeys anchor.toDict) = .ok anchor.toLoaded := by
  have hget := getOrNull_sorted (show (anchor.members.map (·.1)).Nodup by
    simp [ImmutableAnchor.members])
  rw [Loaded.ImmutableAnchor.fromDict_eq_ok_iff]
  refine ⟨_, ⟨sortKeys_obj _, ?_, hasKeys_of_getOrNull ?_⟩, ?_⟩
  · intro m hm
    obtain ⟨m', hm', rfl⟩ := mem_sorted.mp hm
    simp only [ImmutableAnchor.members, List.mem_cons, List.not_mem_nil, or_false] at hm'
    rcases hm' with rfl | rfl | rfl | rfl <;> simp
  · simp only [hget]
    simp [ImmutableAnchor.members, getOrNull, List.lookup_cons]
  · simp only [Loaded.ImmutableAnchor.ofMembers, hget]
    simp [ImmutableAnchor.members, getOrNull, List.lookup_cons, ImmutableAnchor.toLoaded]

/-! ### Optional parts -/

theorem truthy_sortKeys_obj (members : List (String × JsonValue)) :
    (sortKeys (.obj members)).truthy = !members.isEmpty := by
  rw [sortKeys_obj, truthy, sorted_isEmpty]

/-- An optional part is read back if it is truthy, and is absent otherwise. -/
theorem optionalPart_written {α β : Type} {toDict : α → JsonValue}
    {fromDict : JsonValue → Except PyError β} {toLoaded : α → β} {keep : α → Bool}
    (htruthy : ∀ a, (sortKeys (toDict a)).truthy = keep a)
    (hread : ∀ a, fromDict (sortKeys (toDict a)) = .ok (toLoaded a)) (value : Option α) :
    Loaded.optionalPart (sortKeys (orNone toDict value)) fromDict =
      .ok ((value.filter keep).map toLoaded) := by
  cases value with
  | none =>
      rw [orNone, sortKeys]
      rfl
  | some a =>
      rw [orNone, Loaded.optionalPart, htruthy, hread]
      cases hkeep : keep a with
      | true => simp [Option.filter, hkeep, Except.map]
      | false => simp [Option.filter, hkeep]

theorem lookup_optionalMember {α : Type} (key : String) (toDict : α → JsonValue)
    (value : Option α) (key' : String) :
    (optionalMember key toDict value).lookup key' =
      if key' == key then value.map toDict else none := by
  cases value with
  | none => simp [optionalMember]
  | some a =>
      rw [optionalMember, List.lookup_cons]
      cases key' == key <;> rfl

/-- The members of a record are all `None`. -/
theorem present_isEmpty {members : List (String × JsonValue)} :
    (present members).isEmpty = members.all fun m => m.2.isNull := by
  rw [Bool.eq_iff_iff, present, List.isEmpty_iff, List.filter_eq_nil_iff, List.all_eq_true]
  simp

/-- A record is written as a truthy object unless it is the one without content. -/
theorem truthy_present {α : Type} [DecidableEq α] {members : List (String × JsonValue)}
    {record empty : α} (h : (members.all fun m => m.2.isNull) = true ↔ record = empty) :
    (sortKeys (.obj (present members))).truthy = decide (record ≠ empty) := by
  rw [truthy_sortKeys_obj, present_isEmpty, Bool.eq_iff_iff, Bool.not_eq_true', decide_eq_true_iff,
    ← Bool.not_eq_true]
  exact not_congr h

theorem TimestampAuthority.truthy_toDict (tsa : TimestampAuthority) :
    (sortKeys tsa.toDict).truthy = (fun _ => true) tsa := truthy_sortKeys_obj _

theorem ImmutableAnchor.truthy_toDict (anchor : ImmutableAnchor) :
    (sortKeys anchor.toDict).truthy = (fun _ => true) anchor := truthy_sortKeys_obj _

theorem Legal.truthy_toDict (legal : Legal) :
    (sortKeys legal.toDict).truthy = decide (legal ≠ {}) := by
  refine truthy_present ?_
  obtain ⟨jurisdictions, standard, flags, tsa, anchor⟩ := legal
  cases tsa <;> cases anchor <;>
    simp [Legal.members, optionalMember, TimestampAuthority.toDict, ImmutableAnchor.toDict]

theorem ProofGraph.truthy_toDict (graph : ProofGraph) :
    (sortKeys graph.toDict).truthy = decide (graph ≠ {}) := by
  refine truthy_present ?_
  obtain ⟨dependsOn, producedBy, causalDepth, rootHash, tier⟩ := graph
  simp [ProofGraph.members]

theorem TrustContext.truthy_toDict (trust : TrustContext) :
    (sortKeys trust.toDict).truthy = decide (trust ≠ {}) := by
  refine truthy_present ?_
  obtain ⟨proverId, version, score, tier, flags⟩ := trust
  simp [TrustContext.members]

/-- An optional member has its key, or there is none. -/
theorem optionalMember_keys {α : Type} (key : String) (toDict : α → JsonValue)
    (value : Option α) : ((optionalMember key toDict value).map (·.1)).Sublist [key] := by
  cases value with
  | none => exact List.nil_sublist _
  | some a => exact List.Sublist.refl _

theorem Legal.keys_nodup (legal : Legal) : (legal.members.map (·.1)).Nodup := by
  have hall : (["jurisdictions", "admissibility_standard", "compliance_flags"] ++
      ["timestamp_authority"] ++ ["immutable_anchor"]).Nodup := by decide +kernel
  refine hall.sublist ?_
  rw [Legal.members, List.map_append, List.map_append]
  exact ((List.Sublist.refl _).append (optionalMember_keys ..)).append (optionalMember_keys ..)

theorem Legal.fromDict_toDict (legal : Legal) :
    Loaded.Legal.fromDict (sortKeys legal.toDict) = .ok legal.toLoaded := by
  have hget := getOrNull_written legal.keys_nodup
  have htsa : getOrNull legal.members "timestamp_authority" =
      orNone (·.toDict) legal.timestampAuthority := by
    rw [getOrNull, Legal.members]
    simp only [List.lookup_append, lookup_optionalMember]
    cases legal.timestampAuthority <;> simp [List.lookup_cons, orNone]
  have hanchor : getOrNull legal.members "immutable_anchor" =
      orNone (·.toDict) legal.immutableAnchor := by
    rw [getOrNull, Legal.members]
    simp only [List.lookup_append, lookup_optionalMember]
    cases legal.immutableAnchor <;> simp [List.lookup_cons, orNone]
  rw [Loaded.Legal.fromDict_eq_ok_iff]
  refine ⟨_, sortKeys_obj _, legal.timestampAuthority.map (·.toLoaded), ?_,
    legal.immutableAnchor.map (·.toLoaded), ?_, ?_⟩
  · rw [hget, htsa, optionalPart_written TimestampAuthority.truthy_toDict
      TimestampAuthority.fromDict_toDict]
    cases legal.timestampAuthority <;> rfl
  · rw [hget, hanchor, optionalPart_written ImmutableAnchor.truthy_toDict
      ImmutableAnchor.fromDict_toDict]
    cases legal.immutableAnchor <;> rfl
  · simp only [Loaded.Legal.ofMembers, hget]
    simp [Legal.members, getOrNull, List.lookup_cons, Legal.toLoaded]

theorem ProofGraph.fromDict_toDict (graph : ProofGraph) :
    Loaded.ProofGraph.fromDict (sortKeys graph.toDict) = .ok graph.toLoaded := by
  have hget := getOrNull_written (show (graph.members.map (·.1)).Nodup by
    simp [ProofGraph.members])
  rw [Loaded.ProofGraph.fromDict_eq_ok_iff]
  refine ⟨_, sortKeys_obj _, ?_⟩
  simp only [Loaded.ProofGraph.ofMembers, hget]
  simp [ProofGraph.members, getOrNull, List.lookup_cons, ProofGraph.toLoaded]

theorem TrustContext.fromDict_toDict (trust : TrustContext) :
    Loaded.TrustContext.fromDict (sortKeys trust.toDict) = .ok trust.toLoaded := by
  have hget := getOrNull_written (show (trust.members.map (·.1)).Nodup by
    simp [TrustContext.members])
  rw [Loaded.TrustContext.fromDict_eq_ok_iff]
  refine ⟨_, sortKeys_obj _, ?_⟩
  simp only [Loaded.TrustContext.ofMembers, hget]
  simp [TrustContext.members, getOrNull, List.lookup_cons, TrustContext.toLoaded]

/-! ### Bundles -/

/-- A list of commitments as a value. -/
def commitmentsValue (commitments : List DataCommitment) : JsonValue :=
  .arr (commitments.map (·.toDict))

theorem lookup_commitmentsMember (commitments : Option (List DataCommitment)) (key : String) :
    (commitmentsMember commitments).lookup key = if key == "data_commitments" then
      (commitments.filter fun list => !list.isEmpty).map commitmentsValue else none := by
  match commitments with
  | none => simp [commitmentsMember]
  | some [] => simp [commitmentsMember, Option.filter]
  | some (commitment :: commitments) =>
      rw [commitmentsMember, List.lookup_cons]
      cases key == "data_commitments" <;> rfl
      exact List.cons_ne_nil _ _

theorem dataCommitments_fromDict (commitments : List DataCommitment) :
    Loaded.dataCommitmentsFromDict (sortKeys (commitmentsValue commitments)) =
      .ok (commitments.map (·.toLoaded)) := by
  rw [commitmentsValue, sortKeys, sortKeysItems_eq_map, Loaded.dataCommitmentsFromDict, iterate,
    Except.ok_bind]
  induction commitments with
  | nil => rfl
  | cons commitment commitments ih =>
      rw [List.map_cons, List.map_cons, List.mapM_cons, DataCommitment.fromDict_toDict,
        Except.ok_bind, ih]
      rfl

theorem commitmentsMember_keys (commitments : Option (List DataCommitment)) :
    ((commitmentsMember commitments).map (·.1)).Sublist ["data_commitments"] := by
  match commitments with
  | none => exact List.nil_sublist _
  | some [] => exact List.nil_sublist _
  | some (_ :: _) => exact List.Sublist.refl _

theorem ProofBundle.keys_nodup (bundle : ProofBundle) : (bundle.members.map (·.1)).Nodup := by
  have hall : (["vrl_version", "bundle_id", "issued_at", "ai_identity", "computation", "proof"] ++
      ["data_commitments"] ++ ["legal"] ++ ["proof_graph"] ++ ["trust_context"]).Nodup := by
    decide +kernel
  refine hall.sublist ?_
  simp only [ProofBundle.members, List.map_append]
  exact ((((List.Sublist.refl _).append (commitmentsMember_keys _)).append
    (optionalMember_keys ..)).append (optionalMember_keys ..)).append (optionalMember_keys ..)

theorem orNone_eq_getD {α : Type} (f : α → JsonValue) (value : Option α) :
    (value.map f).getD .null = orNone f value := by cases value <;> rfl

/-- What a bundle's dictionary has under each of its keys. -/
theorem ProofBundle.getOrNull_members (bundle : ProofBundle) (key : String) :
    getOrNull bundle.members key =
      if key == "data_commitments" then
        orNone commitmentsValue (bundle.dataCommitments.filter fun list => !list.isEmpty)
      else if key == "legal" then orNone (·.toDict) bundle.legal
      else if key == "proof_graph" then orNone (·.toDict) bundle.proofGraph
      else if key == "trust_context" then orNone (·.toDict) bundle.trustContext
      else getOrNull bundle.requiredMembers key := by
  rw [getOrNull, ProofBundle.members]
  simp only [List.lookup_append, lookup_optionalMember, lookup_commitmentsMember, beq_iff_eq]
  by_cases hdc : key = "data_commitments"
  · simp [hdc, requiredMembers, List.lookup_cons, orNone_eq_getD]
  by_cases hlegal : key = "legal"
  · simp [hlegal, requiredMembers, List.lookup_cons, orNone_eq_getD]
  by_cases hgraph : key = "proof_graph"
  · simp [hgraph, requiredMembers, List.lookup_cons, orNone_eq_getD]
  by_cases htrust : key = "trust_context"
  · simp [htrust, requiredMembers, List.lookup_cons, orNone_eq_getD]
  · simp [hdc, hlegal, hgraph, htrust, getOrNull]

/-- A required member is read as it was written. -/
theorem ProofBundle.getOrNull_required {bundle : ProofBundle} {key : String} {value : JsonValue}
    (h : (key, value) ∈ bundle.requiredMembers) :
    getOrNull (sorted bundle.members) key = sortKeys value := by
  have hmem : (key, value) ∈ bundle.members := by
    simp only [ProofBundle.members, List.append_assoc]
    exact List.mem_append_left _ h
  rw [getOrNull_sorted bundle.keys_nodup, getOrNull,
    (lookup_eq_some_iff_mem bundle.keys_nodup).mpr hmem]
  rfl

/-- The commitments of a list are kept exactly if there are any. -/
theorem truthy_commitmentsValue (commitments : List DataCommitment) :
    (sortKeys (commitmentsValue commitments)).truthy = !commitments.isEmpty := by
  rw [commitmentsValue, sortKeys, truthy, sortKeysItems_eq_map]
  cases commitments <;> rfl

/-- **A bundle is read back without its empty parts.** -/
theorem ProofBundle.reads_toDict {bundle : ProofBundle} (hversion : bundle.vrlVersion = "1.0")
    (hai : isValidHexHash bundle.aiIdentity.aiId = true)
    (henv : bundle.aiIdentity.executionEnvironment ∈ Loaded.validEnvs)
    (hsystem : validSystems.contains bundle.proof.proofSystem = true) :
    Loaded.Reads fmt (sorted bundle.members) bundle.withoutEmpty.toLoaded := by
  have hget : ∀ key, getOrNull (sorted bundle.members) key =
      sortKeys (getOrNull bundle.members key) := getOrNull_sorted bundle.keys_nodup
  simp only [bundle.getOrNull_members] at hget
  have hversionGet : getOrNull (sorted bundle.members) "vrl_version" = .str bundle.vrlVersion :=
    (getOrNull_required (by simp [requiredMembers])).trans (sortKeys_str _)
  have hidGet : getOrNull (sorted bundle.members) "bundle_id" = .str bundle.bundleId :=
    (getOrNull_required (by simp [requiredMembers])).trans (sortKeys_str _)
  have hissuedGet : getOrNull (sorted bundle.members) "issued_at" = .str bundle.issuedAt :=
    (getOrNull_required (by simp [requiredMembers])).trans (sortKeys_str _)
  have haiGet : getOrNull (sorted bundle.members) "ai_identity" =
      sortKeys bundle.aiIdentity.toDict :=
    getOrNull_required (by simp [requiredMembers])
  have hcompGet : getOrNull (sorted bundle.members) "computation" =
      sortKeys bundle.computation.toDict :=
    getOrNull_required (by simp [requiredMembers])
  have hproofGet : getOrNull (sorted bundle.members) "proof" = sortKeys bundle.proof.toDict :=
    getOrNull_required (by simp [requiredMembers])
  exact {
    required := by
      refine hasKeys_of_getOrNull ?_
      simp only [Loaded.ProofBundle.required, List.forall_mem_cons, hversionGet, hidGet,
        hissuedGet, haiGet, hcompGet, hproofGet, AIIdentity.toDict, Computation.toDict,
        Proof.toDict, sortKeys_obj, isNull_str, isNull_obj]
      simp
    version := by
      rw [hversionGet, hversion]
      rfl
    aiIdentity := by
      rw [haiGet, AIIdentity.fromDict_toDict fmt hai henv]
      rfl
    computation := by
      rw [hcompGet, Computation.fromDict_toDict]
      rfl
    proof := by
      rw [hproofGet, Proof.fromDict_toDict fmt hsystem]
      rfl
    dataCommitments := by
      rw [hget]
      simp only [beq_self_eq_true, if_true]
      rw [optionalPart_written truthy_commitmentsValue dataCommitments_fromDict]
      -- writing drops an empty list, and so does reading
      show Except.ok (((bundle.dataCommitments.filter _).filter _).map _) =
        Except.ok ((bundle.dataCommitments.filter fun list => !list.isEmpty).map _)
      rw [Option.filter_filter]
      simp only [Bool.and_self]
    legal := by
      rw [hget]
      simp only [String.reduceBEq, Bool.false_eq_true, ↓reduceIte]
      rw [optionalPart_written Legal.truthy_toDict Legal.fromDict_toDict]
      rfl
    proofGraph := by
      rw [hget]
      simp only [String.reduceBEq, Bool.false_eq_true, ↓reduceIte]
      rw [optionalPart_written ProofGraph.truthy_toDict ProofGraph.fromDict_toDict]
      rfl
    trustContext := by
      rw [hget]
      simp only [String.reduceBEq, Bool.false_eq_true, ↓reduceIte]
      rw [optionalPart_written TrustContext.truthy_toDict TrustContext.fromDict_toDict]
      rfl
    vrlVersion := hversionGet
    bundleId := hidGet
    issuedAt := hissuedGet }

end Read

/-! ### What is written is well formed -/

section Written

variable {floats : FloatText}

theorem wellFormed_texts (items : List String) : WellFormed floats (texts items) := by
  rw [texts, WellFormed, wellFormedItems_iff]
  intro v hv
  obtain ⟨s, -, rfl⟩ := List.mem_map.mp hv
  rw [WellFormed]
  trivial

theorem wellFormed_orNone {α : Type} {f : α → JsonValue} {value : Option α}
    (h : ∀ a ∈ value, WellFormed floats (f a)) : WellFormed floats (orNone f value) := by
  cases value with
  | none =>
      rw [orNone, WellFormed]
      trivial
  | some a => exact h a rfl

@[simp] theorem wellFormed_str (s : String) : WellFormed floats (.str s) := by
  rw [WellFormed]
  trivial

@[simp] theorem wellFormed_int (i : Int) : WellFormed floats (.int i) := by
  rw [WellFormed]
  trivial

@[simp] theorem wellFormed_orNone_str (value : Option String) :
    WellFormed floats (orNone .str value) := wellFormed_orNone fun s _ => wellFormed_str s

@[simp] theorem wellFormed_orNone_int (value : Option Int) :
    WellFormed floats (orNone .int value) := wellFormed_orNone fun i _ => wellFormed_int i

@[simp] theorem wellFormed_orNone_texts (value : Option (List String)) :
    WellFormed floats (orNone texts value) := wellFormed_orNone fun items _ => wellFormed_texts items

attribute [simp] wellFormed_texts

theorem wellFormed_present {members : List (String × JsonValue)}
    (hkeys : (members.map (·.1)).Nodup) (h : ∀ m ∈ members, WellFormed floats m.2) :
    WellFormed floats (.obj (present members)) :=
  wellFormed_obj (present_keys_nodup hkeys) fun m hm => h m (List.mem_of_mem_filter hm)

theorem optionalMember_wellFormed {α : Type} {key : String} {toDict : α → JsonValue}
    {value : Option α} (h : ∀ a ∈ value, WellFormed floats (toDict a)) :
    ∀ m ∈ optionalMember key toDict value, WellFormed floats m.2 := by
  cases value with
  | none => simp [optionalMember]
  | some a => simpa [optionalMember] using h a rfl

theorem AIIdentity.toDict_wellFormed (identity : AIIdentity) :
    WellFormed floats identity.toDict :=
  wellFormed_present (by simp [AIIdentity.members]) (by simp [AIIdentity.members])

theorem Computation.toDict_wellFormed (computation : Computation) :
    WellFormed floats computation.toDict :=
  wellFormed_obj (by simp [Computation.members]) (by simp [Computation.members])

theorem Proof.toDict_wellFormed (proof : Proof) : WellFormed floats proof.toDict :=
  wellFormed_present (by simp [Proof.members]) (by simp [Proof.members])

theorem DataCommitment.toDict_wellFormed (commitment : DataCommitment) :
    WellFormed floats commitment.toDict :=
  wellFormed_present (by simp [DataCommitment.members]) (by simp [DataCommitment.members])

theorem TimestampAuthority.toDict_wellFormed (tsa : TimestampAuthority) :
    WellFormed floats tsa.toDict :=
  wellFormed_obj (by simp [TimestampAuthority.members]) (by simp [TimestampAuthority.members])

theorem ImmutableAnchor.toDict_wellFormed (anchor : ImmutableAnchor) :
    WellFormed floats anchor.toDict :=
  wellFormed_obj (by simp [ImmutableAnchor.members]) (by simp [ImmutableAnchor.members])

theorem Legal.toDict_wellFormed (legal : Legal) : WellFormed floats legal.toDict := by
  refine wellFormed_present legal.keys_nodup ?_
  simp only [Legal.members, List.forall_mem_append]
  exact ⟨⟨by simp, optionalMember_wellFormed fun tsa _ => tsa.toDict_wellFormed⟩,
    optionalMember_wellFormed fun anchor _ => anchor.toDict_wellFormed⟩

theorem ProofGraph.toDict_wellFormed (graph : ProofGraph) : WellFormed floats graph.toDict :=
  wellFormed_present (by simp [ProofGraph.members]) (by simp [ProofGraph.members])

theorem TrustContext.toDict_wellFormed {trust : TrustContext}
    (hscore : ∀ score ∈ trust.trustScoreAtIssuance, floats.IsFloat score) :
    WellFormed floats trust.toDict := by
  refine wellFormed_present (by simp [TrustContext.members]) ?_
  have hfloat : WellFormed floats (orNone .float trust.trustScoreAtIssuance) := by
    refine wellFormed_orNone fun score hmem => ?_
    rw [WellFormed]
    exact hscore score hmem
  simp [TrustContext.members, hfloat]

theorem commitmentsMember_wellFormed (commitments : Option (List DataCommitment)) :
    ∀ m ∈ commitmentsMember commitments, WellFormed floats m.2 := by
  match commitments with
  | none => simp [commitmentsMember]
  | some [] => simp [commitmentsMember]
  | some (commitment :: commitments) =>
      intro m hm
      rw [commitmentsMember, List.mem_singleton] at hm
      · rw [hm, WellFormed, wellFormedItems_iff]
        intro v hv
        obtain ⟨commitment', -, rfl⟩ := List.mem_map.mp hv
        exact commitment'.toDict_wellFormed
      · exact List.cons_ne_nil _ _

theorem ProofBundle.toDict_wellFormed {bundle : ProofBundle} (h : bundle.HasFloats floats) :
    WellFormed floats bundle.toDict := by
  refine wellFormed_obj bundle.keys_nodup ?_
  simp only [ProofBundle.members, List.forall_mem_append]
  refine ⟨⟨⟨⟨?_, commitmentsMember_wellFormed _⟩, ?_⟩, ?_⟩, ?_⟩
  · simp [requiredMembers, AIIdentity.toDict_wellFormed, Computation.toDict_wellFormed,
      Proof.toDict_wellFormed]
  · exact optionalMember_wellFormed fun legal _ => legal.toDict_wellFormed
  · exact optionalMember_wellFormed fun graph _ => graph.toDict_wellFormed
  · exact optionalMember_wellFormed fun trust htrust =>
      TrustContext.toDict_wellFormed (h trust htrust)

end Written

/-! ### The round trip -/

variable {floats : FloatText} (fmt : Formatter)

end Vrl.Sdk.Python

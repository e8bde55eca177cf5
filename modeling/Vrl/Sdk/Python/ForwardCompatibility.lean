import Vrl.Lib.JsonExtension
import Vrl.Sdk.Python.LoadedSpec

/-!
# Vrl.Sdk.Python.ForwardCompatibility

What `ProofBundle.from_dict` makes of members that it does not know
(`sdk/python/vrl/bundle.py`, `identity.py`).

Most records are read member by member, so new members do not count. Two are not: the blocks of
a timestamp authority and of an anchor are passed on as keywords, and a new one is refused. And
a part without members counts as absent, which it no longer is with a new member. These are the
only exceptions (**`fromDict_extended_iff`**).
-/

open TextCodec JsonValue

namespace Vrl.Sdk.Python.Loaded

variable (fmt : Formatter)

/-! ### The known members -/

def AIIdentity.names : List String :=
  ["ai_id", "model_name", "model_version", "provider_id", "execution_environment",
    "provider_signature", "tee_attestation_report", "parent_ai_id"]

def Proof.names : List String :=
  ["proof_system", "proof_bytes", "public_inputs", "verification_key_id", "proof_hash",
    "commitments"]

def DataCommitment.names : List String :=
  ["dataset_id", "dataset_version", "dataset_hash", "provider_id", "committed_at",
    "commitment_hash", "provider_signature"]

def TimestampAuthority.names : List String := ["tsa_token", "tsa_provider", "tsa_hash_algorithm"]

def ImmutableAnchor.names : List String := ["chain", "tx_hash", "block_number", "anchored_at"]

def Legal.names : List String := ["jurisdictions", "admissibility_standard", "compliance_flags"]

def ProofGraph.names : List String :=
  ["depends_on", "produced_by", "causal_depth", "graph_root_hash", "privacy_tier"]

def TrustContext.names : List String :=
  ["prover_id", "prover_version", "trust_score_at_issuance", "circuit_certification_tier",
    "anomaly_flags"]

/-- The members of a legal part, whose blocks may have new members themselves. -/
def Legal.schema : Schema :=
  [("timestamp_authority", Extends (fixed TimestampAuthority.names)),
    ("immutable_anchor", Extends (fixed ImmutableAnchor.names))] ++ fixed Legal.names

/-- The members of a bundle, whose parts may have new members themselves. -/
def ProofBundle.schema : Schema :=
  [("ai_identity", Extends (fixed AIIdentity.names)),
    ("computation", Extends (fixed Computation.required)),
    ("proof", Extends (fixed Proof.names)),
    ("data_commitments", EachExtends (Extends (fixed DataCommitment.names))),
    ("legal", Extends Legal.schema),
    ("proof_graph", Extends (fixed ProofGraph.names)),
    ("trust_context", Extends (fixed TrustContext.names))] ++
  fixed ["vrl_version", "bundle_id", "issued_at"]

/-! ### Records that are read member by member -/

section Records

variable {data data' : List (String × JsonValue)}

/-- The known members are there as before. -/
def AgreeOn (names : List String) (data data' : List (String × JsonValue)) : Prop :=
  ∀ key ∈ names, data'.lookup key = data.lookup key

theorem AgreeOn.requireKeys {names required : List String} (h : AgreeOn names data data')
    (hrequired : required ⊆ names) (what : String) :
    requireKeys what required data' = requireKeys what required data := by
  have hmissing : (required.filter fun key => (data'.lookup key).isNone) =
      required.filter fun key => (data.lookup key).isNone :=
    List.filter_congr fun key hkey => by rw [h key (hrequired hkey)]
  rw [Loaded.requireKeys, Loaded.requireKeys, hmissing]

theorem AgreeOn.getOrNull {names : List String} (h : AgreeOn names data data') :
    ∀ key ∈ names, getOrNull data' key = getOrNull data key := by
  intro key hkey
  rw [JsonValue.getOrNull, h key hkey, JsonValue.getOrNull]

theorem AIIdentity.fromDict_dependsOn : DependsOn names (fromDict fmt) := by
  intro data data' h
  have hkeys := AgreeOn.requireKeys h (show required ⊆ names by decide) "fields"
  have hget := AgreeOn.getOrNull h
  simp only [names, List.forall_mem_cons] at hget
  simp only [fromDict, asDict, Except.ok_bind, hkeys, ofMembers, hget]

theorem Computation.fromDict_dependsOn : DependsOn required fromDict := by
  intro data data' h
  have hkeys := AgreeOn.requireKeys h (List.Subset.refl required) "computation fields"
  have hget := AgreeOn.getOrNull h
  simp only [required, List.forall_mem_cons] at hget
  simp only [fromDict, asDict, Except.ok_bind, hkeys, ofMembers, hget]

theorem Proof.fromDict_dependsOn : DependsOn names (fromDict fmt) := by
  intro data data' h
  have hkeys := AgreeOn.requireKeys h (show required ⊆ names by decide) "proof fields"
  have hget := AgreeOn.getOrNull h
  simp only [names, List.forall_mem_cons] at hget
  simp only [fromDict, asDict, Except.ok_bind, hkeys, ofMembers, hget]

theorem DataCommitment.fromDict_dependsOn : DependsOn names fromDict := by
  intro data data' h
  have hkeys := AgreeOn.requireKeys h (show required ⊆ names by decide) "data commitment fields"
  have hget := AgreeOn.getOrNull h
  simp only [names, List.forall_mem_cons] at hget
  simp only [fromDict, asDict, Except.ok_bind, hkeys, ofMembers, hget]

theorem ProofGraph.fromDict_dependsOn : DependsOn names fromDict := by
  intro data data' h
  have hget := AgreeOn.getOrNull h
  simp only [names, List.forall_mem_cons] at hget
  simp only [fromDict, asDict, Except.ok_bind, ofMembers, hget]

theorem TrustContext.fromDict_dependsOn : DependsOn names fromDict := by
  intro data data' h
  have hget := AgreeOn.getOrNull h
  simp only [names, List.forall_mem_cons] at hget
  simp only [fromDict, asDict, Except.ok_bind, ofMembers, hget]

end Records

/-- The commitments of a list, each of which may have new members. -/
theorem dataCommitments_extends {value value' : JsonValue}
    (h : EachExtends (Extends (fixed DataCommitment.names)) value value') :
    value'.truthy = value.truthy ∧
      dataCommitmentsFromDict value' = dataCommitmentsFromDict value := by
  cases value with
  | arr items =>
      cases value' with
      | arr items' =>
          have hitems : List.Forall₂ (Extends (fixed DataCommitment.names)) items items' := h
          constructor
          · cases hitems with
            | nil => rfl
            | cons _ _ => rfl
          · rw [dataCommitmentsFromDict, dataCommitmentsFromDict, iterate, iterate, Except.ok_bind,
              Except.ok_bind]
            induction hitems with
            | nil => rfl
            | cons hitem hitems ih =>
                rw [List.mapM_cons, List.mapM_cons,
                  hitem.read_eq DataCommitment.fromDict_dependsOn, ih hitems]
      | _ => cases h
  | _ =>
      cases h
      exact ⟨rfl, rfl⟩

/-! ### Parts that may be absent -/

section Parts

variable {α : Type} {read : JsonValue → Except PyError α} {schema : Schema}
  {value value' : JsonValue} {part : Option α}

theorem optionalPart_extends (hext : Extends schema value value')
    (hempty : StaysEmpty value value') (hread : ∀ a, read value = .ok a → read value' = .ok a)
    (h : optionalPart value read = .ok part) : optionalPart value' read = .ok part := by
  rw [optionalPart_eq_ok_iff] at h ⊢
  rw [hext.truthy_eq hempty]
  obtain ⟨hfalsy, hpart⟩ | ⟨htruthy, a, ha, hpart⟩ := h
  · exact Or.inl ⟨hfalsy, hpart⟩
  · exact Or.inr ⟨htruthy, a, hread a ha, hpart⟩

/-- A part that is the same before and after was not an empty object that got members. -/
theorem staysEmpty_of_optionalPart (hext : Extends schema value value')
    (h : optionalPart value read = .ok part) (h' : optionalPart value' read = .ok part) :
    StaysEmpty value value' := by
  intro hvalue
  subst hvalue
  obtain ⟨data', rfl⟩ := hext.exists_obj
  cases h
  cases data' with
  | nil => rfl
  | cons m data' =>
      obtain ⟨hfalsy, _⟩ | ⟨_, a, _, hpart⟩ := optionalPart_eq_ok_iff.mp h'
      · cases hfalsy
      · cases hpart

/-! ### Blocks that are passed on as keywords -/

variable {cls : String} {parameters : List String}

theorem lookup_isSome_iff_mem {data : List (String × JsonValue)} {key : String} :
    (data.lookup key).isSome = true ↔ ∃ m ∈ data, m.1 = key := by
  rw [← not_iff_not, Bool.not_eq_true, Option.isSome_eq_false_iff, Option.isNone_iff_eq_none,
    List.lookup_eq_none_iff]
  constructor
  · intro hnone ⟨m, hm, hkey⟩
    have hne := hnone m hm
    simp [hkey] at hne
  · intro hnone m hm
    have hne : key ≠ m.1 := fun hkey => hnone ⟨m, hm, hkey.symm⟩
    simpa using hne

/-- Without new members, the keywords are what they were. -/
theorem keywords_extends {data : List (String × JsonValue)}
    (h : keywords cls parameters value = .ok data) (hext : Extends (fixed parameters) value value')
    (hadded : NothingAdded value value') :
    ∃ data', keywords cls parameters value' = .ok data' ∧ AgreeOn parameters data data' := by
  obtain ⟨rfl, hknown, hkeys⟩ := keywords_eq_ok_iff.mp h
  obtain ⟨data', rfl⟩ := hext.exists_obj
  have hagree : AgreeOn parameters data data' := fun key hkey => hext.lookup_eq (lookup_fixed hkey)
  refine ⟨data', keywords_eq_ok_iff.mpr ⟨rfl, ?_, ?_⟩, hagree⟩
  · intro m hm
    obtain ⟨m', hm', hkey⟩ :=
      lookup_isSome_iff_mem.mp (hadded m.1 (lookup_isSome_iff_mem.mpr ⟨m, hm, rfl⟩))
    rw [← hkey]
    exact hknown m' hm'
  · intro key hkey
    rw [hagree key hkey]
    exact hkeys key hkey

/-- Keywords that are accepted before and after have the same names. -/
theorem nothingAdded_of_keywords {data data' : List (String × JsonValue)}
    (h : keywords cls parameters value = .ok data)
    (h' : keywords cls parameters value' = .ok data') : NothingAdded value value' := by
  obtain ⟨rfl, -, hkeys⟩ := keywords_eq_ok_iff.mp h
  obtain ⟨rfl, hknown, -⟩ := keywords_eq_ok_iff.mp h'
  intro key hkey
  obtain ⟨m, hm, rfl⟩ := lookup_isSome_iff_mem.mp hkey
  exact hkeys m.1 (hknown m hm)

/-- A block is read from the keywords that it is passed on as. -/
structure ReadsKeywords (cls : String) (parameters : List String)
    (read : JsonValue → Except PyError α) (ofMembers : List (String × JsonValue) → α) : Prop where
  read_eq : ∀ value, read value = keywords cls parameters value >>= fun data => .ok (ofMembers data)
  ofMembers_eq : ∀ data data', AgreeOn parameters data data' → ofMembers data' = ofMembers data

variable {ofMembers : List (String × JsonValue) → α}

/-- Without new members, a block is read as before. -/
theorem ReadsKeywords.extends (hread : ReadsKeywords cls parameters read ofMembers)
    (hext : Extends (fixed parameters) value value') (hadded : NothingAdded value value') {a : α}
    (h : read value = .ok a) : read value' = .ok a := by
  rw [hread.read_eq] at h ⊢
  obtain ⟨data, hdata, hmembers⟩ := Except.bind_eq_ok_iff.mp h
  obtain ⟨data', hdata', hagree⟩ := keywords_extends hdata hext hadded
  rw [hdata', Except.ok_bind, hread.ofMembers_eq data data' hagree, hmembers]

/-- A block that is the same before and after has no new members. -/
theorem ReadsKeywords.nothingAdded (hread : ReadsKeywords cls parameters read ofMembers)
    (hext : Extends schema value value') (h : optionalPart value read = .ok part)
    (h' : optionalPart value' read = .ok part) : NothingAdded value value' := by
  obtain ⟨hfalsy, hpart⟩ | ⟨htruthy, a, ha, hpart⟩ := optionalPart_eq_ok_iff.mp h
  · -- a falsy object is empty, and stays so
    cases value with
    | obj data =>
        cases data with
        | nil =>
            rw [staysEmpty_of_optionalPart hext h h' rfl]
            exact fun key hkey => hkey
        | cons m data => cases hfalsy
    | _ => trivial
  · obtain ⟨_, hnone⟩ | ⟨_, a', ha', _⟩ := optionalPart_eq_ok_iff.mp h'
    · rw [hpart] at hnone
      cases hnone
    · rw [hread.read_eq] at ha ha'
      obtain ⟨data, hdata, _⟩ := Except.bind_eq_ok_iff.mp ha
      obtain ⟨data', hdata', _⟩ := Except.bind_eq_ok_iff.mp ha'
      exact nothingAdded_of_keywords hdata hdata'

end Parts

theorem TimestampAuthority.readsKeywords :
    ReadsKeywords "TimestampAuthority" names fromDict ofMembers where
  read_eq _ := rfl
  ofMembers_eq data data' h := by
    have hget := AgreeOn.getOrNull h
    simp only [names, List.forall_mem_cons] at hget
    simp only [ofMembers, hget]

theorem ImmutableAnchor.readsKeywords :
    ReadsKeywords "ImmutableAnchor" names fromDict ofMembers where
  read_eq _ := rfl
  ofMembers_eq data data' h := by
    have hget := AgreeOn.getOrNull h
    simp only [names, List.forall_mem_cons] at hget
    simp only [ofMembers, hget]

/-- The blocks of a legal part have no new members. -/
structure Legal.KeepsBlocks (value value' : JsonValue) : Prop where
  timestampAuthority :
    NothingAdded (member "timestamp_authority" value) (member "timestamp_authority" value')
  immutableAnchor : NothingAdded (member "immutable_anchor" value) (member "immutable_anchor" value')

/-- **A legal part is read as before exactly if its blocks have no new members.** -/
theorem Legal.fromDict_extends_iff {value value' : JsonValue} {legal : Legal}
    (h : fromDict value = .ok legal) (hext : Extends schema value value') :
    fromDict value' = .ok legal ↔ KeepsBlocks value value' := by
  obtain ⟨data, rfl, tsa, htsa, anchor, hanchor, hmembers⟩ := Legal.fromDict_eq_ok_iff.mp h
  obtain ⟨data', rfl⟩ := hext.exists_obj
  have htsaExt := hext.getOrNull_rel "timestamp_authority" rfl rfl
  have hanchorExt := hext.getOrNull_rel "immutable_anchor" rfl rfl
  rw [Legal.fromDict_eq_ok_iff]
  constructor
  · intro ⟨data'', hdata'', tsa', htsa', anchor', hanchor', hmembers'⟩
    cases hdata''
    rw [← hmembers] at hmembers'
    have htsaEq : tsa' = tsa := congrArg Legal.timestampAuthority hmembers'
    have hanchorEq : anchor' = anchor := congrArg Legal.immutableAnchor hmembers'
    subst htsaEq hanchorEq
    exact ⟨TimestampAuthority.readsKeywords.nothingAdded htsaExt htsa htsa',
      ImmutableAnchor.readsKeywords.nothingAdded hanchorExt hanchor hanchor'⟩
  · intro ⟨htsaAdded, hanchorAdded⟩
    refine ⟨data', rfl, tsa, ?_, anchor, ?_, ?_⟩
    · exact optionalPart_extends htsaExt (htsaExt.staysEmpty htsaAdded)
        (fun _ => TimestampAuthority.readsKeywords.extends htsaExt htsaAdded) htsa
    · exact optionalPart_extends hanchorExt (hanchorExt.staysEmpty hanchorAdded)
        (fun _ => ImmutableAnchor.readsKeywords.extends hanchorExt hanchorAdded) hanchor
    · rw [← hmembers]
      have hagree : AgreeOn names data data' := fun key hkey => hext.lookup_eq (by
        simp only [names, List.mem_cons, List.not_mem_nil, or_false] at hkey
        obtain rfl | rfl | rfl := hkey <;> rfl)
      have hget := AgreeOn.getOrNull hagree
      simp only [names, List.forall_mem_cons] at hget
      simp only [ofMembers, hget]

/-! ### Bundles -/

/-- No part without members gets one, and neither does a block of the legal part. -/
structure ProofBundle.KeepsParts (value value' : JsonValue) : Prop where
  legal : StaysEmpty (member "legal" value) (member "legal" value')
  blocks : Legal.KeepsBlocks (member "legal" value) (member "legal" value')
  proofGraph : StaysEmpty (member "proof_graph" value) (member "proof_graph" value')
  trustContext : StaysEmpty (member "trust_context" value) (member "trust_context" value')

theorem nothingAdded_refl (value : JsonValue) : NothingAdded value value := by
  cases value with
  | obj data => exact fun _ hkey => hkey
  | _ => trivial

/-- A legal part that is read as before keeps its blocks. -/
theorem Legal.keepsBlocks_of_optionalPart {value value' : JsonValue} {part : Option Legal}
    (hext : Extends schema value value') (h : optionalPart value fromDict = .ok part)
    (h' : optionalPart value' fromDict = .ok part) : KeepsBlocks value value' := by
  obtain ⟨hfalsy, hpart⟩ | ⟨htruthy, legal, hlegal, hpart⟩ := optionalPart_eq_ok_iff.mp h
  · -- what is falsy has not changed
    have hsame : value' = value := by
      cases value with
      | obj data =>
          cases data with
          | nil => exact staysEmpty_of_optionalPart hext h h' rfl
          | cons m data => cases hfalsy
      | _ => exact hext.eq_of_not_obj nofun
    rw [hsame]
    exact ⟨nothingAdded_refl _, nothingAdded_refl _⟩
  · obtain ⟨_, hnone⟩ | ⟨_, legal', hlegal', hpart'⟩ := optionalPart_eq_ok_iff.mp h'
    · rw [hpart] at hnone
      cases hnone
    · rw [hpart, Option.some.injEq] at hpart'
      rw [← hpart'] at hlegal'
      exact (Legal.fromDict_extends_iff hlegal hext).mp hlegal'

theorem fromDict_extended_iff {value value' : JsonValue} {bundle : ProofBundle}
    (h : ProofBundle.fromDict fmt value = .ok bundle)
    (hext : Extends ProofBundle.schema value value') :
    ProofBundle.fromDict fmt value' = .ok bundle ↔ ProofBundle.KeepsParts value value' := by
  obtain ⟨data, rfl, hreads⟩ := (ProofBundle.fromDict_eq_ok_iff fmt).mp h
  obtain ⟨data', rfl⟩ := hext.exists_obj
  have hlegal := hext.getOrNull_rel "legal" rfl rfl
  have hgraph := hext.getOrNull_rel "proof_graph" rfl rfl
  have htrust := hext.getOrNull_rel "trust_context" rfl rfl
  have hagree : AgreeOn ["vrl_version", "bundle_id", "issued_at"] data data' := fun key hkey =>
    hext.lookup_eq (by
      simp only [List.mem_cons, List.not_mem_nil, or_false] at hkey
      obtain rfl | rfl | rfl := hkey <;> rfl)
  have hget := AgreeOn.getOrNull hagree
  simp only [List.forall_mem_cons] at hget
  rw [ProofBundle.fromDict_eq_ok_iff]
  -- the required parts are read member by member and never differ; a part that may be absent
  -- differs where it was empty, and the legal part also where a block has new members
  constructor
  · intro ⟨data'', hdata'', hreads'⟩
    cases hdata''
    exact {
      legal := staysEmpty_of_optionalPart hlegal hreads.legal hreads'.legal
      blocks := Legal.keepsBlocks_of_optionalPart hlegal hreads.legal hreads'.legal
      proofGraph := staysEmpty_of_optionalPart hgraph hreads.proofGraph hreads'.proofGraph
      trustContext := staysEmpty_of_optionalPart htrust hreads.trustContext hreads'.trustContext }
  · intro hkeeps
    have hidentity := hext.getOrNull_rel "ai_identity" rfl rfl
    have hcomputation := hext.getOrNull_rel "computation" rfl rfl
    have hproof := hext.getOrNull_rel "proof" rfl rfl
    have hcommitments := dataCommitments_extends
      (hext.getOrNull_rel "data_commitments" rfl rfl)
    refine ⟨data', rfl, ?_⟩
    exact {
      required := fun key hkey => hext.lookup_isSome (hreads.required key hkey)
      version := by
        rw [hget.1]
        exact hreads.version
      aiIdentity := by
        rw [hidentity.read_eq (AIIdentity.fromDict_dependsOn fmt)]
        exact hreads.aiIdentity
      computation := by
        rw [hcomputation.read_eq Computation.fromDict_dependsOn]
        exact hreads.computation
      proof := by
        rw [hproof.read_eq (Proof.fromDict_dependsOn fmt)]
        exact hreads.proof
      dataCommitments := by
        rw [optionalPart, hcommitments.1, hcommitments.2]
        exact hreads.dataCommitments
      legal := optionalPart_extends hlegal hkeeps.legal
        (fun _ hread => (Legal.fromDict_extends_iff hread hlegal).mpr hkeeps.blocks) hreads.legal
      proofGraph := optionalPart_extends hgraph hkeeps.proofGraph
        (fun _ hread => (hgraph.read_eq ProofGraph.fromDict_dependsOn).trans hread)
        hreads.proofGraph
      trustContext := optionalPart_extends htrust hkeeps.trustContext
        (fun _ hread => (htrust.read_eq TrustContext.fromDict_dependsOn).trans hread)
        hreads.trustContext
      vrlVersion := hget.1.trans hreads.vrlVersion
      bundleId := hget.2.1.trans hreads.bundleId
      issuedAt := hget.2.2.1.trans hreads.issuedAt }

/-! ### A bundle's dictionary with a legal part -/

/-- The required members of a bundle's dictionary. -/
def sampleMembers : List (String × JsonValue) :=
  [("vrl_version", .str "1.0"),
    ("bundle_id", .str "6e6ca4ba-34e6-5d83-8b3a-d8ed7a4e8c5f"),
    ("issued_at", .str "2026-04-04T12:00:00.000Z"),
    ("ai_identity", .obj [
      ("ai_id", .str "0000000000000000000000000000000000000000000000000000000000000001"),
      ("model_name", .str "model"), ("model_version", .str "1"), ("provider_id", .str "provider"),
      ("execution_environment", .str "deterministic")]),
    ("computation", .obj [
      ("circuit_id", .str "trade/import-landed-cost"), ("circuit_version", .str "1.0.0"),
      ("circuit_hash", .str ""), ("input_hash", .str ""), ("output_hash", .str ""),
      ("trace_hash", .str ""), ("integrity_hash", .str "")]),
    ("proof", .obj [
      ("proof_system", .str "sha256-deterministic"), ("proof_bytes", .str ""),
      ("public_inputs", .arr []), ("verification_key_id", .str ""), ("proof_hash", .str "")])]

/-- The dictionary with a legal part. -/
def sampleDict (legal : JsonValue) : JsonValue := .obj (sampleMembers ++ [("legal", legal)])

/-- A legal part with a timestamp, and with more members in the timestamp's block. -/
def stamped (extra : List (String × JsonValue)) : JsonValue :=
  .obj [("timestamp_authority", .obj ([("tsa_token", .str "token"), ("tsa_provider", .str "tsa"),
    ("tsa_hash_algorithm", .str "sha256")] ++ extra))]

theorem Legal.schema_allowsSame : Legal.schema.AllowsSame := by
  intro entry hentry
  simp only [Legal.schema, List.mem_append, List.mem_cons, List.not_mem_nil, or_false] at hentry
  obtain (rfl | rfl) | hfixed := hentry
  · exact Extends.refl (allowsSame_fixed _)
  · exact Extends.refl (allowsSame_fixed _)
  · exact allowsSame_fixed _ entry hfixed

theorem ProofBundle.schema_allowsSame : ProofBundle.schema.AllowsSame := by
  intro entry hentry
  simp only [ProofBundle.schema, List.mem_append, List.mem_cons, List.not_mem_nil, or_false]
    at hentry
  obtain (rfl | rfl | rfl | rfl | rfl | rfl | rfl) | hfixed := hentry
  · exact Extends.refl (allowsSame_fixed _)
  · exact Extends.refl (allowsSame_fixed _)
  · exact Extends.refl (allowsSame_fixed _)
  · intro v
    cases v with
    | arr items => exact List.forall₂_same.mpr fun v _ => Extends.refl (allowsSame_fixed _) v
    | _ => rfl
  · exact Extends.refl Legal.schema_allowsSame
  · exact Extends.refl (allowsSame_fixed _)
  · exact Extends.refl (allowsSame_fixed _)
  · exact allowsSame_fixed _ entry hfixed

/-- A new member of the bundle itself is not seen. -/
theorem fromDict_extended_iff_sample :
    ∃ bundle, ProofBundle.fromDict typeFormatter (sampleDict (stamped [])) = .ok bundle ∧
      ProofBundle.fromDict typeFormatter
        (.obj (sampleMembers ++ [("legal", stamped [])] ++ [("x_note", .str "new")])) =
          .ok bundle := by
  refine ⟨_, rfl, (fromDict_extended_iff typeFormatter rfl
    (extends_append ProofBundle.schema_allowsSame _ ?_)).mpr ?_⟩
  · intro m hm
    rw [List.mem_singleton.mp hm]
    rfl
  · exact ⟨fun h => h, ⟨nothingAdded_refl (member "timestamp_authority" (stamped [])),
      nothingAdded_refl .null⟩, fun h => h, fun h => h⟩

/-- A new member of the timestamp's block is refused, and not with a `ValueError`. -/
theorem new_timestamp_member_is_refused :
    (∃ bundle, ProofBundle.fromDict typeFormatter (sampleDict (stamped [])) = .ok bundle) ∧
      Extends ProofBundle.schema (sampleDict (stamped []))
        (sampleDict (stamped [("tsa_policy", .str "1.2.3")])) ∧
      ProofBundle.fromDict typeFormatter (sampleDict (stamped [("tsa_policy", .str "1.2.3")])) =
        .error ⟨.typeError,
          "TimestampAuthority.__init__() got an unexpected keyword argument 'tsa_policy'"⟩ := by
  refine ⟨⟨_, rfl⟩, ?_, rfl⟩
  have hblock : Extends (fixed TimestampAuthority.names)
      (.obj [("tsa_token", .str "token"), ("tsa_provider", .str "tsa"),
        ("tsa_hash_algorithm", .str "sha256")])
      (.obj ([("tsa_token", .str "token"), ("tsa_provider", .str "tsa"),
        ("tsa_hash_algorithm", .str "sha256")] ++ [("tsa_policy", .str "1.2.3")])) := by
    refine extends_append (allowsSame_fixed _) _ ?_
    intro m hm
    rw [List.mem_singleton.mp hm]
    rfl
  have hlegal : Extends Legal.schema (stamped []) (stamped [("tsa_policy", .str "1.2.3")]) :=
    extends_member Legal.schema_allowsSame [] rfl hblock
  exact extends_member ProofBundle.schema_allowsSame sampleMembers rfl hlegal

end Vrl.Sdk.Python.Loaded

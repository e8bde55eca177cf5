import Vrl.Sdk.Python.Loaded

/-!
# Vrl.Sdk.Python.LoadedSpec

What `from_dict` accepts: for every record, the dictionaries it is read from. A bundle's
dictionary and the bundle that is read from it are related by `Reads`
(**`ProofBundle.fromDict_eq_ok_iff`**).
-/

open TextCodec JsonValue

namespace Vrl.Sdk.Python.Loaded

variable (fmt : Formatter)

/-! ### Guards -/

/-- All keys are there. -/
def HasKeys (keys : List String) (data : List (String × JsonValue)) : Prop :=
  ∀ key ∈ keys, (data.lookup key).isSome = true

theorem requireKeys_eq_ok_iff (what : String) {required : List String}
    {data : List (String × JsonValue)} :
    requireKeys what required data = .ok () ↔ HasKeys required data := by
  rw [requireKeys]
  by_cases h : (required.filter fun key => (data.lookup key).isNone).isEmpty = true
  · rw [if_pos h]
    refine iff_of_true rfl fun key hkey => ?_
    have hnone := List.filter_eq_nil_iff.mp (List.isEmpty_iff.mp h) key hkey
    simpa using hnone
  · rw [if_neg h]
    refine iff_of_false nofun fun hall => h ?_
    rw [List.isEmpty_iff, List.filter_eq_nil_iff]
    intro key hkey
    simpa using hall key hkey

section Guards

variable {α : Type} {a : α}

theorem asDict_bind_eq_ok_iff {name : String} {v : JsonValue}
    {f : List (String × JsonValue) → Except PyError α} :
    (v.asDict name >>= f) = .ok a ↔ ∃ data, v = .obj data ∧ f data = .ok a := by
  rw [Except.bind_eq_ok_iff]
  simp only [asDict_eq_ok_iff]

theorem requireKeys_bind_eq_ok_iff {what : String} {required : List String}
    {data : List (String × JsonValue)} {f : Unit → Except PyError α} :
    (requireKeys what required data >>= f) = .ok a ↔ HasKeys required data ∧ f () = .ok a := by
  rw [Except.bind_eq_ok_iff, ← requireKeys_eq_ok_iff what]
  constructor
  · intro ⟨(), hkeys, hf⟩
    exact ⟨hkeys, hf⟩
  · intro ⟨hkeys, hf⟩
    exact ⟨(), hkeys, hf⟩

/-- A check that raises unless it is met. -/
theorem guard_eq_ok_iff {p : Bool} {e : PyError} {x : Except PyError α} :
    (if !p then .error e else x) = .ok a ↔ p = true ∧ x = .ok a := by
  cases p <;> simp

theorem guard_bind_eq_ok_iff {x : Except PyError Bool} {e : PyError} {y : Except PyError α} :
    (x >>= fun p => if !p then .error e else y) = .ok a ↔ x = .ok true ∧ y = .ok a := by
  rw [Except.bind_eq_ok_iff]
  simp only [guard_eq_ok_iff]
  constructor
  · intro ⟨p, hx, hp, hy⟩
    rw [hp] at hx
    exact ⟨hx, hy⟩
  · intro ⟨hx, hy⟩
    exact ⟨true, hx, rfl, hy⟩

/-- An optional part is absent when the value is falsy, and read when it is not. -/
theorem optionalPart_eq_ok_iff {value : JsonValue} {read : JsonValue → Except PyError α}
    {part : Option α} :
    optionalPart value read = .ok part ↔
      (value.truthy = false ∧ part = none) ∨
        (value.truthy = true ∧ ∃ a, read value = .ok a ∧ part = some a) := by
  rw [optionalPart]
  cases value.truthy with
  | false => simp [eq_comm]
  | true =>
      rw [if_pos rfl]
      cases read value with
      | error e => simp [Except.map]
      | ok a => simp [Except.map, eq_comm]

end Guards

/-! ### The records -/

theorem AIIdentity.fromDict_eq_ok_iff {value : JsonValue} {identity : AIIdentity} :
    AIIdentity.fromDict fmt value = .ok identity ↔ ∃ data, value = .obj data ∧
      HasKeys required data ∧ isValidHexHash (getOrNull data "ai_id") = true ∧
      (getOrNull data "execution_environment").isIn validEnvs = .ok true ∧
      .ofMembers data = identity := by
  rw [AIIdentity.fromDict, asDict_bind_eq_ok_iff]
  simp only [requireKeys_bind_eq_ok_iff, guard_eq_ok_iff, guard_bind_eq_ok_iff, Except.ok.injEq]

theorem Computation.fromDict_eq_ok_iff {value : JsonValue} {computation : Computation} :
    Computation.fromDict value = .ok computation ↔ ∃ data, value = .obj data ∧
      HasKeys required data ∧ .ofMembers data = computation := by
  rw [Computation.fromDict, asDict_bind_eq_ok_iff]
  simp only [requireKeys_bind_eq_ok_iff, Except.ok.injEq]

theorem Proof.fromDict_eq_ok_iff {value : JsonValue} {proof : Proof} :
    Proof.fromDict fmt value = .ok proof ↔ ∃ data, value = .obj data ∧
      HasKeys required data ∧ (getOrNull data "proof_system").isIn validSystems = .ok true ∧
      .ofMembers data = proof := by
  rw [Proof.fromDict, asDict_bind_eq_ok_iff]
  simp only [requireKeys_bind_eq_ok_iff, guard_bind_eq_ok_iff, Except.ok.injEq]

theorem DataCommitment.fromDict_eq_ok_iff {value : JsonValue} {commitment : DataCommitment} :
    DataCommitment.fromDict value = .ok commitment ↔ ∃ data, value = .obj data ∧
      HasKeys required data ∧ .ofMembers data = commitment := by
  rw [DataCommitment.fromDict, asDict_bind_eq_ok_iff]
  simp only [requireKeys_bind_eq_ok_iff, Except.ok.injEq]

theorem keywords_eq_ok_iff {cls : String} {parameters : List String} {value : JsonValue}
    {data : List (String × JsonValue)} :
    keywords cls parameters value = .ok data ↔ value = .obj data ∧
      (∀ m ∈ data, m.1 ∈ parameters) ∧ HasKeys parameters data := by
  cases value with
  | obj members =>
      rw [keywords]
      -- an unknown keyword is refused before a missing one
      cases hextra : members.find? fun m => !parameters.contains m.1 with
      | some m =>
          refine iff_of_false nofun ?_
          intro ⟨hdata, hall, _⟩
          cases hdata
          have hm := List.find?_some hextra
          have hmem := hall m (List.mem_of_find?_eq_some hextra)
          simp [hmem] at hm
      | none =>
          have hknown : ∀ m ∈ members, m.1 ∈ parameters := by
            intro m hm
            simpa using List.find?_eq_none.mp hextra m hm
          cases hmissing : parameters.find? fun key => (members.lookup key).isNone with
          | some key =>
              refine iff_of_false nofun ?_
              intro ⟨hdata, _, hkeys⟩
              cases hdata
              have hkey := List.find?_some hmissing
              have hsome := hkeys key (List.mem_of_find?_eq_some hmissing)
              rw [Option.isSome_iff_exists] at hsome
              obtain ⟨v, hv⟩ := hsome
              simp [hv] at hkey
          | none =>
              have hkeys : HasKeys parameters members := by
                intro key hkey
                simpa using List.find?_eq_none.mp hmissing key hkey
              constructor
              · intro h
                cases h
                exact ⟨rfl, hknown, hkeys⟩
              · intro ⟨hdata, _⟩
                cases hdata
                rfl
  | _ => simp [keywords]

theorem TimestampAuthority.fromDict_eq_ok_iff {value : JsonValue} {tsa : TimestampAuthority} :
    TimestampAuthority.fromDict value = .ok tsa ↔ ∃ data, (value = .obj data ∧
      (∀ m ∈ data, m.1 ∈ ["tsa_token", "tsa_provider", "tsa_hash_algorithm"]) ∧
      HasKeys ["tsa_token", "tsa_provider", "tsa_hash_algorithm"] data) ∧
      .ofMembers data = tsa := by
  rw [TimestampAuthority.fromDict, Except.bind_eq_ok_iff]
  simp only [keywords_eq_ok_iff, Except.ok.injEq]

theorem ImmutableAnchor.fromDict_eq_ok_iff {value : JsonValue} {anchor : ImmutableAnchor} :
    ImmutableAnchor.fromDict value = .ok anchor ↔ ∃ data, (value = .obj data ∧
      (∀ m ∈ data, m.1 ∈ ["chain", "tx_hash", "block_number", "anchored_at"]) ∧
      HasKeys ["chain", "tx_hash", "block_number", "anchored_at"] data) ∧
      .ofMembers data = anchor := by
  rw [ImmutableAnchor.fromDict, Except.bind_eq_ok_iff]
  simp only [keywords_eq_ok_iff, Except.ok.injEq]

theorem Legal.fromDict_eq_ok_iff {value : JsonValue} {legal : Legal} :
    Legal.fromDict value = .ok legal ↔ ∃ data, value = .obj data ∧
      ∃ tsa, optionalPart (getOrNull data "timestamp_authority") TimestampAuthority.fromDict =
        .ok tsa ∧
      ∃ anchor, optionalPart (getOrNull data "immutable_anchor") ImmutableAnchor.fromDict =
        .ok anchor ∧
      .ofMembers data tsa anchor = legal := by
  simp only [Legal.fromDict, Except.bind_eq_ok_iff, asDict_eq_ok_iff, Except.ok.injEq]
  constructor
  · -- only a dictionary gets past the last step
    intro ⟨_, htsaIn, tsa, htsa, _, hanchorIn, anchor, hanchor, data, hdata, hlegal⟩
    subst hdata
    cases htsaIn
    cases hanchorIn
    exact ⟨data, rfl, tsa, htsa, anchor, hanchor, hlegal⟩
  · intro ⟨data, hdata, tsa, htsa, anchor, hanchor, hlegal⟩
    subst hdata
    exact ⟨_, rfl, tsa, htsa, _, rfl, anchor, hanchor, data, rfl, hlegal⟩

theorem ProofGraph.fromDict_eq_ok_iff {value : JsonValue} {graph : ProofGraph} :
    ProofGraph.fromDict value = .ok graph ↔ ∃ data, value = .obj data ∧ .ofMembers data = graph := by
  rw [ProofGraph.fromDict, asDict_bind_eq_ok_iff]
  simp only [Except.ok.injEq]

theorem TrustContext.fromDict_eq_ok_iff {value : JsonValue} {trust : TrustContext} :
    TrustContext.fromDict value = .ok trust ↔
      ∃ data, value = .obj data ∧ .ofMembers data = trust := by
  rw [TrustContext.fromDict, asDict_bind_eq_ok_iff]
  simp only [Except.ok.injEq]

/-! ### Bundles -/

/-- The bundle is the one that a dictionary's members give. -/
structure Reads (data : List (String × JsonValue)) (bundle : ProofBundle) : Prop where
  required : HasKeys ProofBundle.required data
  version : (getOrNull data "vrl_version").isText "1.0" = true
  aiIdentity : AIIdentity.fromDict fmt (getOrNull data "ai_identity") = .ok bundle.aiIdentity
  computation : Computation.fromDict (getOrNull data "computation") = .ok bundle.computation
  proof : Proof.fromDict fmt (getOrNull data "proof") = .ok bundle.proof
  dataCommitments : optionalPart (getOrNull data "data_commitments") dataCommitmentsFromDict =
    .ok bundle.dataCommitments
  legal : optionalPart (getOrNull data "legal") Legal.fromDict = .ok bundle.legal
  proofGraph : optionalPart (getOrNull data "proof_graph") ProofGraph.fromDict =
    .ok bundle.proofGraph
  trustContext : optionalPart (getOrNull data "trust_context") TrustContext.fromDict =
    .ok bundle.trustContext
  vrlVersion : getOrNull data "vrl_version" = bundle.vrlVersion
  bundleId : getOrNull data "bundle_id" = bundle.bundleId
  issuedAt : getOrNull data "issued_at" = bundle.issuedAt

/-- **`from_dict` succeeds exactly on the dictionaries that read as a bundle.** -/
theorem ProofBundle.fromDict_eq_ok_iff {value : JsonValue} {bundle : ProofBundle} :
    ProofBundle.fromDict fmt value = .ok bundle ↔
      ∃ data, value = .obj data ∧ Reads fmt data bundle := by
  rw [ProofBundle.fromDict, asDict_bind_eq_ok_iff]
  refine exists_congr fun data => and_congr_right fun _ => ?_
  rw [requireKeys_bind_eq_ok_iff]
  simp only [guard_eq_ok_iff, Except.bind_eq_ok_iff, Except.ok.injEq]
  constructor
  · intro ⟨hkeys, hversion, ai, hai, comp, hcomp, proof, hproof, dcs, hdcs, legal, hlegal, graph,
      hgraph, trust, htrust, hbundle⟩
    rw [← hbundle]
    exact ⟨hkeys, hversion, hai, hcomp, hproof, hdcs, hlegal, hgraph, htrust, rfl, rfl, rfl⟩
  · intro h
    refine ⟨h.required, h.version, _, h.aiIdentity, _, h.computation, _, h.proof, _,
      h.dataCommitments, _, h.legal, _, h.proofGraph, _, h.trustContext, ?_⟩
    rw [h.vrlVersion, h.bundleId, h.issuedAt]

end Vrl.Sdk.Python.Loaded

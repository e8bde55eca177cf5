import Vrl.Lib.JsonEquality
import Vrl.Zk.ProverVerifier

/-!
# Vrl.Zk.ProofSpelling

The verifier (`zk/verifiers/plonk_verifier.py`) sends the backend numbers. How the proof
spells the public inputs and the hash of the trace is lost on the way.

Two accepted proofs with one instance vector have the same public inputs up to the order of
the entries, entries that are replaced by later ones, and Unicode normalisation
(**`normalized_eq_of_hash_eq`**), and traces with the same limbs. They are written
alike when both are written plainly.
-/

open Pydantic TextCodec

namespace Vrl.Zk

variable (std : PyStd) (backend : Backend)

/-! ### Entries -/

/-- What stands before the first `=`. -/
def entryKey (entry : String) : String := String.ofList (entry.toList.takeWhile (· ≠ '='))

theorem parseEntry_inv {entry key value : String} (h : parseEntry entry = .ok (key, value)) :
    entry = key ++ "=" ++ value ∧ IsInputName key := by
  unfold parseEntry at h
  dsimp only at h
  split at h
  · cases h
  · next c rest hdrop =>
      have hsplit : entry.toList.takeWhile (· ≠ '=') ++ entry.toList.dropWhile (· ≠ '=') =
          entry.toList := List.takeWhile_append_dropWhile
      have hname : '=' ∉ entry.toList.takeWhile (· ≠ '=') := by
        intro hmem
        simpa using List.mem_takeWhile_imp hmem
      have hc : c = '=' := by
        have hhead := List.head?_dropWhile_not (· ≠ '=') entry.toList
        rw [hdrop] at hhead
        simpa using hhead
      rw [hdrop, hc] at hsplit
      by_cases hne : entry.toList.takeWhile (· ≠ '=') = []
      · rw [if_pos hne] at h
        cases h
      · rw [if_neg hne] at h
        cases h
        refine ⟨?_, ?_, ?_⟩
        · rw [← String.toList_inj, String.toList_append, String.toList_append,
            String.toList_ofList, List.append_assoc]
          show _ = _ ++ '=' :: (String.ofList rest).toList
          rw [String.toList_ofList]
          exact hsplit.symm
        · intro hnil
          rw [← String.toList_eq_nil_iff, String.toList_ofList] at hnil
          exact hne hnil
        · rw [String.toList_ofList]
          exact hname

theorem entryKey_serialized {key : String} (h : IsInputName key) (value : String) :
    entryKey (key ++ "=" ++ value) = key := by
  rw [entryKey, toList_serialized, (h.split value.toList).1, String.ofList_toList]

theorem entryKey_map_serialized {members : List (String × String)}
    (h : ∀ m ∈ members, IsInputName m.1) :
    (members.map fun m => m.1 ++ "=" ++ m.2).map entryKey = members.map (·.1) := by
  rw [List.map_map]
  exact List.map_congr_left fun m hm => entryKey_serialized (h m hm) m.2

/-- A dictionary of public inputs: no key occurs twice, and each can begin an entry. -/
structure IsDictionary (publicInputs : List (String × String)) : Prop where
  keys : (publicInputs.map (·.1)).Nodup
  names : ∀ m ∈ publicInputs, IsInputName m.1

theorem isDictionary_setItem {publicInputs : List (String × String)} {key value : String}
    (h : IsDictionary publicInputs) (hkey : IsInputName key) :
    IsDictionary (setItem publicInputs key value) := by
  constructor
  · exact setItem_keys_nodup h.keys
  · intro m hm
    rcases mem_setItem hm with rfl | hm
    · exact hkey
    · exact h.names m hm

/-- Entries that are read are entries of names, and what is read is a dictionary. -/
theorem parseEntries_inv {entries : List String} {old publicInputs : List (String × String)}
    (hold : IsDictionary old) (h : parseEntries old entries = .ok publicInputs) :
    IsDictionary publicInputs ∧ ∃ members : List (String × String),
      entries = members.map (fun m => m.1 ++ "=" ++ m.2) ∧ ∀ m ∈ members, IsInputName m.1 := by
  induction entries generalizing old with
  | nil =>
      cases h
      exact ⟨hold, [], rfl, fun m hm => absurd hm List.not_mem_nil⟩
  | cons entry entries ih =>
      rw [parseEntries] at h
      obtain ⟨⟨key, value⟩, hentry, hrest⟩ := Except.bind_eq_ok_iff.mp h
      obtain ⟨rfl, hkey⟩ := parseEntry_inv hentry
      obtain ⟨hdictionary, members, rfl, hmembers⟩ := ih (isDictionary_setItem hold hkey) hrest
      exact ⟨hdictionary, (key, value) :: members, rfl, List.forall_mem_cons.mpr ⟨hkey, hmembers⟩⟩

theorem parsePublicInputs_inv {entries : List String} {publicInputs : List (String × String)}
    (h : parsePublicInputs entries = .ok publicInputs) :
    IsDictionary publicInputs ∧ Json.sortMembers publicInputs = publicInputs ∧
      ∃ members : List (String × String), entries = members.map (fun m => m.1 ++ "=" ++ m.2) ∧
        ∀ m ∈ members, IsInputName m.1 := by
  obtain ⟨read, hread, h⟩ := Except.bind_eq_ok_iff.mp h
  cases h
  have hempty : IsDictionary [] := ⟨List.nodup_nil, fun m hm => absurd hm List.not_mem_nil⟩
  obtain ⟨hdictionary, hentries⟩ := parseEntries_inv hempty hread
  refine ⟨⟨sortMembers_keys_nodup hdictionary.keys, ?_⟩, Json.sortMembers_sortMembers _, hentries⟩
  intro m hm
  exact hdictionary.names m (Json.mem_sortMembers.mp hm)

/-- The keys of a sorted dictionary ascend. -/
theorem sortMembers_keys_ascend {α : Type} {members : List (String × α)}
    (h : (members.map (·.1)).Nodup) :
    ((Json.sortMembers members).map (·.1)).Pairwise (· < ·) := by
  have hsorted : (Json.sortMembers members).Pairwise fun m n => m.1 ≤ n.1 :=
    List.pairwise_insertionSort (fun m n : String × α => m.1 ≤ n.1) members
  have hne := List.pairwise_map.mp (sortMembers_keys_nodup h)
  rw [List.pairwise_map]
  refine (hsorted.and hne).imp ?_
  intro m n hmn
  by_contra hnot
  exact hmn.2 (String.le_antisymm hmn.1 (String.not_lt.mp hnot))

/-- **Entries are the serialisation of what is read from them exactly if their keys ascend.** -/
theorem serialize_parse_iff {entries : List String} {publicInputs : List (String × String)}
    (h : parsePublicInputs entries = .ok publicInputs) :
    entries = serializePublicInputs publicInputs ↔
      (entries.map entryKey).Pairwise (· < ·) := by
  obtain ⟨hdictionary, hsorted, members, rfl, hnames⟩ := parsePublicInputs_inv h
  constructor
  · intro heq
    have hascend := sortMembers_keys_ascend hdictionary.keys
    rw [hsorted, ← entryKey_map_serialized hdictionary.names] at hascend
    rw [heq, serializePublicInputs, hsorted]
    exact hascend
  · intro hascend
    rw [entryKey_map_serialized hnames] at hascend
    have hkeys : (members.map (·.1)).Nodup := by
      refine hascend.imp ?_
      rintro k _ hlt rfl
      exact String.lt_irrefl k hlt
    have hmembers : Json.sortMembers members = members := by
      rw [List.pairwise_map] at hascend
      exact List.Pairwise.insertionSort_eq
        (hascend.imp fun hlt => String.not_lt.mp (String.lt_asymm hlt))
    -- read from ascending entries, the dictionary is the list of the entries itself
    have hread := parsePublicInputs_serialize hkeys hnames
    rw [serializePublicInputs, hmembers, h, Except.ok.injEq] at hread
    rw [hread, serializePublicInputs, hmembers]

/-! ### Limbs -/

/-- A limb of lower-case digits is known from its number. -/
theorem eq_of_limbAt_eq {cs ds : List Char} {index : Nat} {limb : Int}
    (hcs : ∀ c ∈ cs, isLowerHex c = true) (hds : ∀ c ∈ ds, isLowerHex c = true)
    (hlength : cs.length = ds.length) (hindex : index < cs.length)
    (h : limbAt cs index = .ok limb) (h' : limbAt ds index = .ok limb) :
    (cs.drop index).take 16 = (ds.drop index).take 16 := by
  have hmem : ∀ {l : List Char} {c : Char}, c ∈ (l.drop index).take 16 → c ∈ l :=
    fun hc => List.mem_of_mem_drop (List.mem_of_mem_take hc)
  have hread : ∀ {l : List Char}, limbAt l index = .ok limb →
      PyInt.readBase16 ((l.drop index).take 16) = some limb := by
    intro l hl
    unfold limbAt at hl
    split at hl
    · next heq =>
        cases hl
        exact heq
    · cases hl
  refine PyInt.eq_of_readBase16_eq (fun c hc => hcs c (hmem hc)) (fun c hc => hds c (hmem hc))
    ?_ ?_ ((hread h).trans (hread h').symm)
  · rw [List.length_take, List.length_take, List.length_drop, List.length_drop, hlength]
  · intro hnil
    have hzero := congrArg List.length hnil
    rw [List.length_take, List.length_drop, List.length_nil] at hzero
    omega

theorem eq_append_limbs {cs : List Char} (h : cs.length = 64) :
    cs = (cs.drop 0).take 16 ++ ((cs.drop 16).take 16 ++
      ((cs.drop 32).take 16 ++ (cs.drop 48).take 16)) := by
  have hstep : ∀ i, (cs.drop i).take 16 ++ cs.drop (i + 16) = cs.drop i := by
    intro i
    rw [← List.drop_drop, List.take_append_drop]
  have hlast : (cs.drop 48).take 16 = cs.drop 48 :=
    List.take_of_length_le (by rw [List.length_drop]; omega)
  rw [hlast, hstep 32, hstep 16, hstep 0, List.drop_zero]

theorem hashHexToLimbs_inv {hash : String} {limbs : List Int}
    (h : hashHexToLimbs hash = .ok limbs) : hash.toList.length = 64 ∧
      ∃ l0 l1 l2 l3, limbAt hash.toList 0 = .ok l0 ∧ limbAt hash.toList 16 = .ok l1 ∧
        limbAt hash.toList 32 = .ok l2 ∧ limbAt hash.toList 48 = .ok l3 ∧
        limbs = [l0, l1, l2, l3] := by
  by_cases hlength : hash.toList.length = 64
  · rw [hashHexToLimbs, if_pos hlength] at h
    simp only [List.mapM_cons, List.mapM_nil, Except.bind_eq_ok_iff] at h
    obtain ⟨l0, h0, _, ⟨l1, h1, _, ⟨l2, h2, _, ⟨l3, h3, _, hnil, hl3⟩, hl2⟩, hl1⟩, hl0⟩ := h
    cases hnil
    cases hl3
    cases hl2
    cases hl1
    cases hl0
    exact ⟨hlength, l0, l1, l2, l3, h0, h1, h2, h3, rfl⟩
  · rw [hashHexToLimbs, if_neg hlength] at h
    cases h

/-- Lower-case digits are known from the limbs. -/
theorem eq_of_hashHexToLimbs_eq {hash hash' : String} {limbs : List Int}
    (hlower : ∀ c ∈ hash.toList, isLowerHex c = true)
    (hlower' : ∀ c ∈ hash'.toList, isLowerHex c = true)
    (h : hashHexToLimbs hash = .ok limbs) (h' : hashHexToLimbs hash' = .ok limbs) :
    hash = hash' := by
  obtain ⟨hlength, l0, l1, l2, l3, h0, h1, h2, h3, rfl⟩ := hashHexToLimbs_inv h
  obtain ⟨hlength', _, _, _, _, h0', h1', h2', h3', heq⟩ := hashHexToLimbs_inv h'
  cases heq
  have hlimb : ∀ {index limb}, index < 64 → limbAt hash.toList index = .ok limb →
      limbAt hash'.toList index = .ok limb →
        (hash.toList.drop index).take 16 = (hash'.toList.drop index).take 16 :=
    fun hindex hl hl' => eq_of_limbAt_eq hlower hlower' (hlength.trans hlength'.symm)
      (hlength ▸ hindex) hl hl'
  rw [← String.toList_inj, eq_append_limbs hlength, hlimb (by omega) h0 h0',
    hlimb (by omega) h1 h1', hlimb (by omega) h2 h2', hlimb (by omega) h3 h3',
    ← eq_append_limbs hlength']

/-- Instance values are built part by part. -/
theorem buildInstanceValues_inv {landedCostFp : Int}
    {traceHash circuitHash publicInputsHash : String} {values : List Int}
    (h : buildInstanceValues landedCostFp traceHash circuitHash publicInputsHash = .ok values) :
    ∃ traceLimbs circuitLimbs inputsLimbs, hashHexToLimbs traceHash = .ok traceLimbs ∧
      hashHexToLimbs circuitHash = .ok circuitLimbs ∧
      hashHexToLimbs publicInputsHash = .ok inputsLimbs ∧
      values = landedCostFp :: (traceLimbs ++ circuitLimbs ++ inputsLimbs) := by
  obtain ⟨traceLimbs, htrace, h⟩ := Except.bind_eq_ok_iff.mp h
  obtain ⟨circuitLimbs, hcircuit, h⟩ := Except.bind_eq_ok_iff.mp h
  obtain ⟨inputsLimbs, hinputs, h⟩ := Except.bind_eq_ok_iff.mp h
  cases h
  exact ⟨traceLimbs, circuitLimbs, inputsLimbs, htrace, hcircuit, hinputs, rfl⟩

/-- Equal instance values come from hashes with equal limbs. -/
theorem limbs_eq_of_instanceValues_eq {landedCostFp landedCostFp' : Int}
    {traceHash traceHash' circuitHash circuitHash' inputsHash inputsHash' : String}
    {values : List Int}
    (h : buildInstanceValues landedCostFp traceHash circuitHash inputsHash = .ok values)
    (h' : buildInstanceValues landedCostFp' traceHash' circuitHash' inputsHash' = .ok values) :
    (∃ limbs, hashHexToLimbs traceHash = .ok limbs ∧ hashHexToLimbs traceHash' = .ok limbs) ∧
      ∃ limbs, hashHexToLimbs inputsHash = .ok limbs ∧ hashHexToLimbs inputsHash' = .ok limbs := by
  obtain ⟨trace, circuit, inputs, htrace, hcircuit, hinputs, hvalues⟩ := buildInstanceValues_inv h
  obtain ⟨trace', circuit', inputs', htrace', hcircuit', hinputs', hvalues'⟩ :=
    buildInstanceValues_inv h'
  rw [hvalues, List.cons.injEq] at hvalues'
  -- each hash has four limbs
  have hlength := hashHexToLimbs_length htrace
  have hlength' := hashHexToLimbs_length htrace'
  obtain ⟨hfirst, rfl⟩ := List.append_inj hvalues'.2 (by
    rw [List.length_append, List.length_append, hlength, hlength',
      hashHexToLimbs_length hcircuit, hashHexToLimbs_length hcircuit'])
  obtain ⟨rfl, -⟩ := List.append_inj hfirst (hlength.trans hlength'.symm)
  exact ⟨⟨trace, htrace, htrace'⟩, inputs, hinputs, hinputs'⟩

/-! ### The hash of the public inputs -/

/-- The public inputs as they are hashed. -/
def normalized (publicInputs : List (String × String)) : List (String × String) :=
  publicInputs.map fun m => (m.1, std.nfc m.2)

theorem canonicalize_ofStringDict (members : List (String × String)) :
    canonicalize std (ofStringDict members) =
      .ok (.obj ((normalized std (Json.sortMembers members)).map fun m => (m.1, .str m.2))) := by
  have hmembers : canonicalizeMembers std (members.map fun m => (m.1, .str m.2)) =
      members.map fun m => (m.1, .ok (.str (std.nfc m.2))) := by
    rw [canonicalizeMembers_eq_map, List.map_map]
    rfl
  have hsort := JsonValue.sortMembers_map
    (fun v : String => (.ok (.str (std.nfc v)) : Except PyError Json)) members
  have hmap : ((Json.sortMembers members).map fun m =>
        (m.1, (.ok (.str (std.nfc m.2)) : Except PyError Json))) =
      ((normalized std (Json.sortMembers members)).map fun m => (m.1, Json.str m.2)).map
        fun m => (m.1, .ok m.2) := by
    rw [normalized, List.map_map, List.map_map]
    rfl
  rw [ofStringDict, canonicalize, hmembers, hsort, hmap, sequenceMembers_map_ok]
  rfl

variable {std backend}

/-- **Public inputs with one hash are the same once they are normalised.** -/
theorem normalized_eq_of_hash_eq (hinj : Function.Injective std.hexdigest)
    {publicInputs publicInputs' : List (String × String)} {hash : String}
    (hsorted : Json.sortMembers publicInputs = publicInputs)
    (hsorted' : Json.sortMembers publicInputs' = publicInputs')
    (h : canonicalPublicInputsHash std publicInputs = .ok hash)
    (h' : canonicalPublicInputsHash std publicInputs' = .ok hash) :
    normalized std publicInputs = normalized std publicInputs' := by
  have hhash : ∀ {inputs : List (String × String)}, Json.sortMembers inputs = inputs →
      canonicalPublicInputsHash std inputs = .ok (std.hexdigest (dumpsCanonical
        (.obj ((normalized std inputs).map fun m => (m.1, .str m.2))))) := by
    intro inputs hinputs
    rw [canonicalPublicInputsHash, hinputs, canonicalHash, canonicalJson,
      canonicalize_ofStringDict, hinputs]
    rfl
  rw [hhash hsorted, Except.ok.injEq] at h
  rw [hhash hsorted', Except.ok.injEq] at h'
  have hobj := sortKeys_eq_of_dumpsCanonical_eq (hinj (h.trans h'.symm))
  have hkeys : ∀ inputs : List (String × String), Json.sortKeys
      (.obj ((normalized std inputs).map fun m => (m.1, .str m.2))) =
        .obj (Json.sortMembers ((normalized std inputs).map fun m => (m.1, .str m.2))) := by
    intro inputs
    rw [Json.sortKeys, Json.sortKeysMembers_eq_map, List.map_map]
    rfl
  have hsort : ∀ {inputs : List (String × String)}, Json.sortMembers inputs = inputs →
      Json.sortMembers ((normalized std inputs).map fun m => (m.1, Json.str m.2)) =
        (normalized std inputs).map fun m => (m.1, .str m.2) := by
    intro inputs hinputs
    rw [JsonValue.sortMembers_map, normalized, JsonValue.sortMembers_map, hinputs]
  rw [hkeys, hkeys, hsort hsorted, hsort hsorted', Json.obj.injEq] at hobj
  have hinjective : Function.Injective fun m : String × String => (m.1, Json.str m.2) := by
    rintro ⟨k, v⟩ ⟨k', v'⟩ heq
    cases heq
    rfl
  exact hinjective.list_map hobj

/-! ### How a proof is written -/

/-- The proof is written as the prover writes it: sorted public inputs with each key once, and
the hash of the trace in lower case. -/
structure Proof.IsCanonical (proof : Proof std) : Prop where
  publicInputs : ∃ publicInputs, parsePublicInputs proof.publicInputs = .ok publicInputs ∧
    proof.publicInputs = serializePublicInputs publicInputs
  traceHash : ∃ n < 16 ^ 64, proof.traceHash = String.ofList (hexFixed 64 n)

/-- The keys of the entries ascend, and the hash of the trace consists of `0` to `9` and `a`
to `f`. -/
structure Proof.IsPlain (proof : Proof std) : Prop where
  ascending : (proof.publicInputs.map entryKey).Pairwise (· < ·)
  digits : ∀ c ∈ proof.traceHash.toList, isLowerHex c = true

/-- No key has values in the two proofs that differ and normalise to the same. -/
def Proof.NormalizesApart (p q : Proof std) : Prop :=
  ∀ inputs inputs', parsePublicInputs p.publicInputs = .ok inputs →
    parsePublicInputs q.publicInputs = .ok inputs' →
      ∀ key value value', inputs.lookup key = some value → inputs'.lookup key = some value' →
        std.nfc value = std.nfc value' → value = value'

theorem hexFixed_of_digits {text : String} (hlength : text.toList.length = 64)
    (hdigits : ∀ c ∈ text.toList, isLowerHex c = true) :
    ∃ n < 16 ^ 64, text = String.ofList (hexFixed 64 n) := by
  obtain ⟨htext, hlt⟩ := PyInt.hexFixed_foldl hdigits
  rw [hlength] at hlt htext
  refine ⟨_, hlt, ?_⟩
  rw [htext, String.ofList_toList]

/-- An accepted proof is canonical exactly if it is plain. -/
theorem isCanonical_iff_isPlain {proof : Proof std} {values : ProofValues}
    (h : VerifierUses std backend proof values) : proof.IsCanonical ↔ proof.IsPlain := by
  obtain ⟨hparse, -, -, -, -, -, -, -, hinstance⟩ := h
  obtain ⟨traceLimbs, -, -, htrace, -⟩ := buildInstanceValues_inv hinstance
  constructor
  · rintro ⟨⟨inputs, hinputs, hserialized⟩, n, -, htext⟩
    refine ⟨(serialize_parse_iff hinputs).mp hserialized, ?_⟩
    rw [htext, String.toList_ofList]
    exact hexFixed_isLowerHex 64 n
  · rintro ⟨hascending, hdigits⟩
    exact ⟨⟨_, hparse, (serialize_parse_iff hparse).mpr hascending⟩,
      hexFixed_of_digits (hashHexToLimbs_inv htrace).1 hdigits⟩

/-- Values that normalise to the same, where only equal values do, are equal. -/
theorem eq_of_normalized_eq {inputs inputs' : List (String × String)}
    (hkeys : (inputs.map (·.1)).Nodup) (hkeys' : (inputs'.map (·.1)).Nodup)
    (h : normalized std inputs = normalized std inputs')
    (hapart : ∀ key value value', inputs.lookup key = some value →
      inputs'.lookup key = some value' → std.nfc value = std.nfc value' → value = value') :
    inputs = inputs' := by
  have hlength : inputs.length = inputs'.length := by
    rw [← List.length_map (fun m : String × String => (m.1, std.nfc m.2)), ← normalized, h,
      normalized, List.length_map]
  refine List.ext_getElem hlength ?_
  intro i hi hi'
  have hmember : (inputs[i].1, std.nfc inputs[i].2) = (inputs'[i].1, std.nfc inputs'[i].2) := by
    have hget : (normalized std inputs)[i]? = (normalized std inputs')[i]? := by rw [h]
    simpa [normalized, hi, hi'] using hget
  rw [Prod.mk.injEq] at hmember
  have hlookup : inputs.lookup inputs[i].1 = some inputs[i].2 :=
    (lookup_eq_some_iff_mem hkeys).mpr (List.getElem_mem hi)
  have hlookup' : inputs'.lookup inputs[i].1 = some inputs'[i].2 := by
    rw [hmember.1]
    exact (lookup_eq_some_iff_mem hkeys').mpr (List.getElem_mem hi')
  exact Prod.ext hmember.1 (hapart _ _ _ hlookup hlookup' hmember.2)

/-! ### Malleability -/

theorem circuitHash_of_verify {proof : Proof std} {producedBy : String} {cycle : Int}
    {result : VerificationResult}
    (h : verifyPlonkProof std backend proof producedBy cycle = .ok result)
    (hvalid : result.status = .valid) :
    ∃ circuit, compileCircuit std = .ok circuit ∧ proof.circuitHash = circuit.circuitHash := by
  obtain ⟨result', hresult, hstatus⟩ := verifyPlonkProof_status std backend proof producedBy cycle
  rw [h] at hresult
  cases hresult
  obtain ⟨-, response, hpasses⟩ := hstatus.mp hvalid
  obtain ⟨-, -, hcircuit, hcircuitHash, -⟩ := hpasses
  exact ⟨_, hcircuit, hcircuitHash⟩

/-- **Accepted proofs with one instance vector are written the same, as the prover writes them,
exactly if both are plain and no values normalise to the same.** -/
theorem accepted_proofs_same_iff (hinj : Function.Injective std.hexdigest) {p q : Proof std}
    {producedBy producedBy' : String} {cycle cycle' : Int} {result result' : VerificationResult}
    (hp : verifyPlonkProof std backend p producedBy cycle = .ok result)
    (hpValid : result.status = .valid)
    (hq : verifyPlonkProof std backend q producedBy' cycle' = .ok result')
    (hqValid : result'.status = .valid) {values values' : ProofValues}
    (hpUses : VerifierUses std backend p values) (hqUses : VerifierUses std backend q values')
    (hcall : (values.instanceValues, p.proofBlobHex) = (values'.instanceValues, q.proofBlobHex)) :
    (p.traceHash = q.traceHash ∧ p.circuitHash = q.circuitHash ∧
        p.publicInputs = q.publicInputs ∧ p.IsCanonical ∧ q.IsCanonical) ↔
      p.IsPlain ∧ q.IsPlain ∧ p.NormalizesApart q := by
  rw [isCanonical_iff_isPlain hpUses, isCanonical_iff_isPlain hqUses]
  constructor
  -- the same entries are read as the same dictionary
  · rintro ⟨-, -, hinputs, hpPlain, hqPlain⟩
    refine ⟨hpPlain, hqPlain, ?_⟩
    intro inputs inputs' hparse hparse' key value value' hlookup hlookup' _
    rw [hinputs, hparse'] at hparse
    cases hparse
    exact Option.some.inj (hlookup.symm.trans hlookup')
  · rintro ⟨hpPlain, hqPlain, hapart⟩
    -- there is one compiled circuit; the limbs of the instance vector give both hashes back
    have hcircuitHash : p.circuitHash = q.circuitHash := by
      obtain ⟨circuit, hcircuit, hpHash⟩ := circuitHash_of_verify hp hpValid
      obtain ⟨circuit', hcircuit', hqHash⟩ := circuitHash_of_verify hq hqValid
      rw [hcircuit] at hcircuit'
      cases hcircuit'
      rw [hpHash, hqHash]
    obtain ⟨hparse, -, hcircuit, hhash, -, -, -, -, hinstance⟩ := hpUses
    obtain ⟨hparse', -, hcircuit', hhash', -, -, -, -, hinstance'⟩ := hqUses
    obtain ⟨hdictionary, hsorted, -⟩ := parsePublicInputs_inv hparse
    obtain ⟨hdictionary', hsorted', -⟩ := parsePublicInputs_inv hparse'
    rw [Prod.mk.injEq] at hcall
    rw [← hcall.1] at hinstance'
    obtain ⟨⟨traceLimbs, htrace, htrace'⟩, inputsLimbs, hlimbs, hlimbs'⟩ :=
      limbs_eq_of_instanceValues_eq hinstance hinstance'
    have htraceHash : p.traceHash = q.traceHash :=
      eq_of_hashHexToLimbs_eq hpPlain.digits hqPlain.digits htrace htrace'
    have hinputsHash : values.publicInputsHash = values'.publicInputsHash := by
      obtain ⟨text, htext⟩ := exists_of_canonicalHash std hhash
      obtain ⟨text', htext'⟩ := exists_of_canonicalHash std hhash'
      rw [htext] at hlimbs ⊢
      rw [htext'] at hlimbs' ⊢
      exact eq_of_hashHexToLimbs_eq (std.isLowerHex_hexdigest text)
        (std.isLowerHex_hexdigest text') hlimbs hlimbs'
    rw [← hinputsHash] at hhash'
    have hinputs := eq_of_normalized_eq hdictionary.keys hdictionary'.keys
      (normalized_eq_of_hash_eq hinj hsorted hsorted' hhash hhash') (hapart _ _ hparse hparse')
    refine ⟨htraceHash, hcircuitHash, ?_, hpPlain, hqPlain⟩
    rw [(serialize_parse_iff hparse).mpr hpPlain.ascending, hinputs,
      ← (serialize_parse_iff hparse').mpr hqPlain.ascending]

/-! ### Proofs that say nothing but their public inputs -/

/-- A proof for any public inputs that have an instance vector. -/
theorem exists_accepted_proof {entries : List String} {inputs : List (String × String)}
    {landedCost traceHash inputsHash : String} {landedCostFp : Int} {circuit : PlonkCircuit}
    {instanceValues : List Int} (hparse : parsePublicInputs entries = .ok inputs)
    (hcost : inputs.lookup "landed_cost" = some landedCost)
    (hfp : toFixedPoint landedCost = .ok landedCostFp)
    (hcircuit : compileCircuit std = .ok circuit)
    (hhash : canonicalPublicInputsHash std inputs = .ok inputsHash)
    (hinstance : buildInstanceValues landedCostFp traceHash circuit.circuitHash inputsHash =
      .ok instanceValues) (producedBy : String) :
    ∃ (proof : Proof std) (values : ProofValues) (result : VerificationResult),
      proof.publicInputs = entries ∧ proof.traceHash = traceHash ∧
        proof.proofBlobHex = instanceTranscript instanceValues ∧
        VerifierUses std transcriptBackend proof values ∧
        values.instanceValues = instanceValues ∧
        verifyPlonkProof std transcriptBackend proof producedBy 1 = .ok result ∧
        result.status = .valid := by
  obtain ⟨finalProof, hfinal⟩ : ∃ finalProof, finalProofHash std (instanceTranscript instanceValues)
      [] entries circuit.circuitHash traceHash inputsHash = .ok finalProof := by
    refine canonicalHash_ok std ?_
    simp [floatFree, floatFreeMembers]
  obtain ⟨proof, hproof⟩ : ∃ proof : Proof std, buildProofArtifact std {
      proofSystem
      circuitArtifactId := "circuit"
      witnessArtifactId := "witness"
      commitments := []
      publicInputs := entries
      metadata := [("circuit_hash", circuit.circuitHash), ("public_inputs_hash", inputsHash)]
      proofBlobHex := instanceTranscript instanceValues
      inputHash := "input"
      outputHash := "output"
      traceHash
      finalProof } producedBy 1 = .ok proof := buildProofArtifact_ok ..
  have hdata := buildProofArtifact_toProofData hproof
  have hentries : proof.publicInputs = entries := by rw [hdata]
  have htrace : proof.traceHash = traceHash := by rw [hdata]
  have hblob : proof.proofBlobHex = instanceTranscript instanceValues := by rw [hdata]
  have hcommitments : proof.commitments = [] := by rw [hdata]
  have hkey : ∃ key, transcriptBackend.compile circuit = .ok key := ⟨_, rfl⟩
  obtain ⟨key, hkey⟩ := hkey
  rw [← hentries] at hparse
  rw [← htrace] at hinstance
  rw [← hblob, ← hcommitments, ← hentries, ← htrace] at hfinal
  -- every check compares what the proof carries with what was put into it
  have hpasses : proof.IsValid std transcriptBackend := by
    refine ⟨by rw [hdata], _, .intro hparse hcost hcircuit ?_ ?_ hhash ?_ hfinal ?_ hkey (.inl ?_)
      hfp hinstance rfl ?_⟩
    · rw [Proof.getMetadata, hdata]
      rfl
    · rw [hdata]
      rfl
    · rw [Proof.getMetadata, hdata]
      exact constantTimeEqual_of_canonicalHash std hhash
    · have hcarried : proof.finalProof = finalProof := by rw [hdata]
      rw [hcarried]
      exact constantTimeEqual_of_canonicalHash std hfinal
    · rw [Proof.getMetadata, hdata]
      rfl
    · rw [hblob]
      exact beq_self_eq_true _
  obtain ⟨result, hresult, hstatus⟩ :=
    verifyPlonkProof_status std transcriptBackend proof producedBy 1
  exact ⟨proof, ⟨inputsHash, finalProof, key.verificationKeyId, instanceValues⟩, result, hentries,
    htrace, hblob,
    .intro hparse hcost hcircuit hhash hfinal (by rw [deriveVerificationKey_self, hkey]) rfl hfp
      hinstance, rfl, hresult, hstatus.mpr hpasses⟩

/-! ### One text, two spellings -/

/-- The text that a value is hashed over, where no string changes when it is normalised. -/
def hashedTextOf (value : PyVal) : String := ((canonicalJson lengthStd value).toOption).getD ""

/-- The public inputs that the samples stand for. -/
def spelledInputs : List (String × String) := [("landed_cost", "0.00")]

/-- The digests of the circuit and of the public inputs. -/
def spellingDigests : DigestTable where
  entries :=
    [(hashedTextOf (circuitPayload gates), String.ofList (hexFixed 64 1)),
      (hashedTextOf (ofStringDict spelledInputs), String.ofList (hexFixed 64 2))]
  isDigest := by decide +kernel
  distinct := by decide +kernel

/-- The library with these digests. -/
def spellingStd : PyStd := { lengthStd with toSha256 := spellingDigests.sha }

theorem spellingStd_injective : Function.Injective spellingStd.hexdigest := by
  rw [spellingStd]
  exact DigestTable.sha_injective _

theorem spellingStd_hexdigest (text : String) :
    spellingStd.hexdigest text = spellingDigests.digest text := by
  simp only [spellingStd, DigestTable.sha]

theorem spellingStd_nfc : spellingStd.nfc = lengthStd.nfc := by
  rw [spellingStd]

/-- A value of the table has a hash of full length. -/
theorem canonicalHash_tabulated {value : PyVal} (hfree : floatFree value = true)
    (hmem : hashedTextOf value ∈ spellingDigests.entries.map (·.1)) :
    ∃ text, canonicalHash spellingStd value = .ok (spellingStd.hexdigest text) ∧
      (spellingStd.hexdigest text).toList.length = 64 := by
  obtain ⟨json, hjson⟩ := canonicalize_ok lengthStd hfree
  have hcanonical : canonicalJson lengthStd value = .ok (dumpsCanonical json) := by
    rw [canonicalJson, hjson]
    rfl
  have htext : hashedTextOf value = dumpsCanonical json := by
    rw [hashedTextOf, hcanonical, Except.toOption, Option.getD_some]
  have hcanonical' : canonicalize spellingStd value = .ok json := by
    rw [canonicalize_congr spellingStd_nfc, hjson]
  refine ⟨dumpsCanonical json, canonicalHash_of_canonicalize spellingStd hcanonical', ?_⟩
  · rw [htext] at hmem
    rw [spellingStd_hexdigest]
    exact DigestTable.digest_length _ hmem

/-- Any spelling of the public inputs and of a trace hash with limbs is accepted, with an
instance vector that depends on no spelling. -/
theorem exists_spelled_proof (traceLimbs : List Int) : ∃ instanceValues,
    ∀ (entries : List String) (traceHash : String),
      parsePublicInputs entries = .ok spelledInputs → hashHexToLimbs traceHash = .ok traceLimbs →
        ∀ producedBy, ∃ (proof : Proof spellingStd) (values : ProofValues)
          (result : VerificationResult), proof.publicInputs = entries ∧
            proof.traceHash = traceHash ∧
            proof.proofBlobHex = instanceTranscript instanceValues ∧
            VerifierUses spellingStd transcriptBackend proof values ∧
            values.instanceValues = instanceValues ∧
            verifyPlonkProof spellingStd transcriptBackend proof producedBy 1 = .ok result ∧
            result.status = .valid := by
  have hcost : spelledInputs.lookup "landed_cost" = some "0.00" := rfl
  obtain ⟨landedCostFp, hfp⟩ : ∃ landedCostFp, toFixedPoint "0.00" = .ok landedCostFp := by
    have htext : String.ofList (PyDecimal.text (.finite false 0 (-2))) = "0.00" := by decide +kernel
    rw [← htext]
    exact toFixedPoint_of_isMoney ⟨false, 0, rfl, by decide⟩
  obtain ⟨circuitText, hcircuitHash, hcircuitLength⟩ :=
    @canonicalHash_tabulated (circuitPayload gates) (by decide)
      (by rw [spellingDigests]; exact List.mem_cons_self ..)
  obtain ⟨inputsText, hinputsHash, hinputsLength⟩ :=
    @canonicalHash_tabulated (ofStringDict spelledInputs) (floatFree_ofStringDict _)
      (by rw [spellingDigests]; exact List.mem_cons_of_mem _ (List.mem_cons_self ..))
  obtain ⟨circuit, hcircuit, hcircuitEq⟩ := compileCircuit_of_hash spellingStd hcircuitHash
  have hhash : canonicalPublicInputsHash spellingStd spelledInputs =
      .ok (spellingStd.hexdigest inputsText) := by
    have hsorted : Json.sortMembers spelledInputs = spelledInputs := rfl
    rw [canonicalPublicInputsHash, hsorted, hinputsHash]
  obtain ⟨circuitLimbs, hcircuitLimbs⟩ := hashHexToLimbs_of_digits hcircuitLength
    (spellingStd.isLowerHex_hexdigest circuitText)
  obtain ⟨inputsLimbs, hinputsLimbs⟩ := hashHexToLimbs_of_digits hinputsLength
    (spellingStd.isLowerHex_hexdigest inputsText)
  refine ⟨landedCostFp :: (traceLimbs ++ circuitLimbs ++ inputsLimbs), ?_⟩
  intro entries traceHash hparse htrace producedBy
  refine exists_accepted_proof hparse hcost hfp hcircuit hhash ?_ producedBy
  rw [buildInstanceValues, htrace, hcircuitEq, hcircuitLimbs, hinputsLimbs]
  rfl

/-- The hash of a trace in lower case. -/
def lowerTraceHash : String := String.ofList (hexFixed 64 0xab)

/-- The same number with capital letters. -/
def upperTraceHash : String := String.ofList (lowerTraceHash.toList.map Char.toUpper)

/-- A replaced entry and capital letters: another proof for the same instance vector. -/
theorem respelled_proof_accepted :
    ∃ (std : PyStd) (backend : Backend) (p q : Proof std) (values values' : ProofValues)
      (result result' : VerificationResult), Function.Injective std.hexdigest ∧
        verifyPlonkProof std backend p "verifier" 1 = .ok result ∧ result.status = .valid ∧
        verifyPlonkProof std backend q "verifier" 1 = .ok result' ∧ result'.status = .valid ∧
        VerifierUses std backend p values ∧ VerifierUses std backend q values' ∧
        (values.instanceValues, p.proofBlobHex) = (values'.instanceValues, q.proofBlobHex) ∧
        p.publicInputs = ["landed_cost=0.00"] ∧
        q.publicInputs = ["landed_cost=9.99", "landed_cost=0.00"] ∧
        p.traceHash = lowerTraceHash ∧ q.traceHash = upperTraceHash ∧
        p.traceHash ≠ q.traceHash ∧ p.publicInputs ≠ q.publicInputs := by
  have hlower : hashHexToLimbs lowerTraceHash = .ok [0, 0, 0, 0xab] := by decide +kernel
  have hupper : hashHexToLimbs upperTraceHash = .ok [0, 0, 0, 0xab] := by decide +kernel
  have hparse : parsePublicInputs ["landed_cost=0.00"] = .ok spelledInputs := by decide +kernel
  have hparse' : parsePublicInputs ["landed_cost=9.99", "landed_cost=0.00"] =
      .ok spelledInputs := by decide +kernel
  have hne : lowerTraceHash ≠ upperTraceHash := by decide +kernel
  obtain ⟨instanceValues, hspelled⟩ := exists_spelled_proof [0, 0, 0, 0xab]
  obtain ⟨p, values, result, hinputs, htrace, hblob, huses, hvalues, hresult, hvalid⟩ :=
    hspelled _ _ hparse hlower "verifier"
  obtain ⟨q, values', result', hinputs', htrace', hblob', huses', hvalues', hresult', hvalid'⟩ :=
    hspelled _ _ hparse' hupper "verifier"
  refine ⟨spellingStd, transcriptBackend, p, q, values, values', result, result',
    spellingStd_injective, hresult, hvalid, hresult', hvalid', huses, huses', ?_, hinputs, hinputs',
    htrace, htrace', ?_, ?_⟩
  · rw [hvalues, hvalues', hblob, hblob']
  · rw [htrace, htrace']
    exact hne
  · rw [hinputs, hinputs']
    decide

/-- Two plain proofs of one trace. -/
theorem accepted_proofs_same_plain :
    ∃ (p q : Proof spellingStd), p.IsPlain ∧ q.IsPlain ∧
      ((p.traceHash = q.traceHash ∧ p.circuitHash = q.circuitHash ∧
          p.publicInputs = q.publicInputs ∧ p.IsCanonical ∧ q.IsCanonical) ↔
        p.IsPlain ∧ q.IsPlain ∧ p.NormalizesApart q) := by
  have hlower : hashHexToLimbs lowerTraceHash = .ok [0, 0, 0, 0xab] := by decide +kernel
  have hparse : parsePublicInputs ["landed_cost=0.00"] = .ok spelledInputs := by decide +kernel
  have hplain : ∀ {proof : Proof spellingStd}, proof.publicInputs = ["landed_cost=0.00"] →
      proof.traceHash = lowerTraceHash → proof.IsPlain := by
    intro proof hinputs htrace
    constructor
    · rw [hinputs]
      exact List.pairwise_singleton ..
    · rw [htrace, lowerTraceHash, String.toList_ofList]
      exact hexFixed_isLowerHex 64 0xab
  obtain ⟨instanceValues, hspelled⟩ := exists_spelled_proof [0, 0, 0, 0xab]
  obtain ⟨p, values, result, hinputs, htrace, hblob, huses, hvalues, hresult, hvalid⟩ :=
    hspelled _ _ hparse hlower "verifier"
  obtain ⟨q, values', result', hinputs', htrace', hblob', huses', hvalues', hresult', hvalid'⟩ :=
    hspelled _ _ hparse hlower "other verifier"
  have hcall : (values.instanceValues, p.proofBlobHex) =
      (values'.instanceValues, q.proofBlobHex) := by
    rw [hvalues, hvalues', hblob, hblob']
  exact ⟨p, q, hplain hinputs htrace, hplain hinputs' htrace',
    accepted_proofs_same_iff spellingStd_injective hresult hvalid hresult' hvalid' huses huses'
      hcall⟩

end Vrl.Zk

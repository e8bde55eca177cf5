import Vrl.Lib.JsonEquality
import Vrl.Lib.JsonLoads

/-!
# Vrl.Lib.JsonMembers

Objects whose members were filtered and sorted before they were written.

Where no key occurs twice, a member is found under its key as it was before
(**`JsonValue.getOrNull_sorted`**), and what was well formed still is
(**`JsonValue.wellFormed_sortKeys`**).
-/

open TextCodec

namespace JsonValue

/-! ### Members that are there -/

/-- The members whose value is not `None`. -/
def present (members : List (String × JsonValue)) : List (String × JsonValue) :=
  members.filter fun m => !m.2.isNull

theorem isNull_iff {v : JsonValue} : v.isNull = true ↔ v = .null := by
  cases v <;> simp [isNull]

theorem present_keys_nodup {members : List (String × JsonValue)}
    (h : (members.map (·.1)).Nodup) : ((present members).map (·.1)).Nodup :=
  h.sublist (List.filter_sublist.map _)

/-- Leaving out what is `None` changes nothing for a reader that takes what is absent for
`None`. -/
theorem getOrNull_present {members : List (String × JsonValue)} (h : (members.map (·.1)).Nodup)
    (key : String) : getOrNull (present members) key = getOrNull members key := by
  cases hlookup : members.lookup key with
  | none =>
      have habsent : (present members).lookup key = none := by
        rw [List.lookup_eq_none_iff] at hlookup ⊢
        intro m hm
        exact hlookup m (List.mem_of_mem_filter hm)
      rw [getOrNull, getOrNull, hlookup, habsent]
  | some v =>
      have hmem := (lookup_eq_some_iff_mem h).mp hlookup
      cases hnull : v.isNull with
      | false =>
          have hpresent : (present members).lookup key = some v := by
            rw [lookup_eq_some_iff_mem (present_keys_nodup h)]
            exact List.mem_filter.mpr ⟨hmem, by simp [hnull]⟩
          rw [getOrNull, getOrNull, hlookup, hpresent]
      | true =>
          have habsent : (present members).lookup key = none := by
            by_contra hsome
            obtain ⟨w, hw⟩ := Option.ne_none_iff_exists'.mp hsome
            obtain ⟨hw, hnotNull⟩ :=
              List.mem_filter.mp ((lookup_eq_some_iff_mem (present_keys_nodup h)).mp hw)
            have hwv : some w = some v :=
              ((lookup_eq_some_iff_mem h).mpr hw).symm.trans hlookup
            rw [Option.some.inj hwv, hnull] at hnotNull
            cases hnotNull
          rw [getOrNull, getOrNull, hlookup, habsent, isNull_iff.mp hnull]
          rfl

/-! ### Sorted members -/

theorem sortKeysMembers_eq_map (members : List (String × JsonValue)) :
    sortKeysMembers members = members.map fun m => (m.1, sortKeys m.2) := by
  induction members with
  | nil => rfl
  | cons m members ih => rw [sortKeysMembers, ih, List.map_cons]

theorem sortKeysItems_eq_map (items : List JsonValue) :
    sortKeysItems items = items.map sortKeys := by
  induction items with
  | nil => rfl
  | cons v items ih => rw [sortKeysItems, ih, List.map_cons]

/-- The members of a sorted object. -/
def sorted (members : List (String × JsonValue)) : List (String × JsonValue) :=
  Json.sortMembers (sortKeysMembers members)

theorem sortKeys_str (s : String) : sortKeys (.str s) = .str s := by rw [sortKeys]

theorem sortKeys_obj (members : List (String × JsonValue)) :
    sortKeys (.obj members) = .obj (sorted members) := by
  rw [sortKeys, sorted]

theorem mem_sorted {members : List (String × JsonValue)} {m : String × JsonValue} :
    m ∈ sorted members ↔ ∃ m' ∈ members, (m'.1, sortKeys m'.2) = m := by
  rw [sorted, Json.mem_sortMembers, sortKeysMembers_eq_map, List.mem_map]

theorem sorted_keys_nodup {members : List (String × JsonValue)}
    (h : (members.map (·.1)).Nodup) : ((sorted members).map (·.1)).Nodup := by
  have hperm : (sorted members).Perm (sortKeysMembers members) := List.perm_insertionSort _ _
  rw [(hperm.map (·.1)).nodup_iff, sortKeysMembers_eq_map, List.map_map]
  exact h

theorem sorted_isEmpty (members : List (String × JsonValue)) :
    (sorted members).isEmpty = members.isEmpty := by
  have hlength : (sorted members).length = members.length := by
    rw [sorted, Json.sortMembers, List.length_insertionSort, sortKeysMembers_eq_map,
      List.length_map]
  rw [Bool.eq_iff_iff, List.isEmpty_iff_length_eq_zero, List.isEmpty_iff_length_eq_zero, hlength]

theorem lookup_sorted {members : List (String × JsonValue)} (h : (members.map (·.1)).Nodup)
    (key : String) : (sorted members).lookup key = (members.lookup key).map sortKeys := by
  cases hlookup : members.lookup key with
  | some v =>
      rw [Option.map_some, lookup_eq_some_iff_mem (sorted_keys_nodup h), mem_sorted]
      exact ⟨_, (lookup_eq_some_iff_mem h).mp hlookup, rfl⟩
  | none =>
      rw [Option.map_none]
      rw [List.lookup_eq_none_iff] at hlookup ⊢
      intro m hm
      obtain ⟨m', hm', rfl⟩ := mem_sorted.mp hm
      exact hlookup m' hm'

/-- **A member is found as it was before the sorting**, itself sorted. -/
theorem getOrNull_sorted {members : List (String × JsonValue)} (h : (members.map (·.1)).Nodup)
    (key : String) : getOrNull (sorted members) key = sortKeys (getOrNull members key) := by
  rw [getOrNull, getOrNull, lookup_sorted h]
  cases members.lookup key with
  | some v => rfl
  | none =>
      show JsonValue.null = sortKeys .null
      rw [sortKeys]

theorem lookup_sorted_isSome {members : List (String × JsonValue)} {key : String}
    (h : getOrNull members key ≠ .null) : (members.lookup key).isSome = true := by
  cases hlookup : members.lookup key with
  | some v => rfl
  | none =>
      rw [getOrNull, hlookup] at h
      exact absurd rfl h

/-! ### Well-formed values -/

variable {floats : FloatText}

theorem wellFormedMembers_iff {members : List (String × JsonValue)} :
    WellFormedMembers floats members ↔ ∀ m ∈ members, WellFormed floats m.2 := by
  induction members with
  | nil => simp [WellFormedMembers]
  | cons m members ih => rw [WellFormedMembers, ih, List.forall_mem_cons]

theorem wellFormedItems_iff {items : List JsonValue} :
    WellFormedItems floats items ↔ ∀ v ∈ items, WellFormed floats v := by
  induction items with
  | nil => simp [WellFormedItems]
  | cons v items ih => rw [WellFormedItems, ih, List.forall_mem_cons]

theorem wellFormed_obj {members : List (String × JsonValue)} (hkeys : (members.map (·.1)).Nodup)
    (h : ∀ m ∈ members, WellFormed floats m.2) : WellFormed floats (.obj members) := by
  rw [WellFormed, wellFormedMembers_iff]
  exact ⟨hkeys, h⟩

mutual
/-- A value without floats is well formed when its objects are dictionaries. -/
theorem wellFormed_ofJson : ∀ {v : Json}, Json.KeysDistinct v → WellFormed floats (ofJson v)
  | .null, _ => by rw [ofJson, WellFormed]; trivial
  | .bool _, _ => by rw [ofJson, WellFormed]; trivial
  | .int _, _ => by rw [ofJson, WellFormed]; trivial
  | .str _, _ => by rw [ofJson, WellFormed]; trivial
  | .arr vs, h => by
      rw [Json.KeysDistinct] at h
      rw [ofJson, WellFormed]
      exact wellFormedItems_ofJson h
  | .obj ms, h => by
      rw [Json.KeysDistinct] at h
      rw [ofJson, WellFormed, ofJsonMembers_eq_map, List.map_map, ← ofJsonMembers_eq_map]
      exact ⟨h.1, wellFormedMembers_ofJson h.2⟩

theorem wellFormedItems_ofJson : ∀ {vs : List Json}, Json.KeysDistinctItems vs →
    WellFormedItems floats (ofJsonItems vs)
  | [], _ => trivial
  | v :: vs, h => by
      rw [Json.KeysDistinctItems] at h
      rw [ofJsonItems, WellFormedItems]
      exact ⟨wellFormed_ofJson h.1, wellFormedItems_ofJson h.2⟩

theorem wellFormedMembers_ofJson : ∀ {ms : List (String × Json)}, Json.KeysDistinctMembers ms →
    WellFormedMembers floats (ofJsonMembers ms)
  | [], _ => trivial
  | (k, v) :: ms, h => by
      rw [Json.KeysDistinctMembers] at h
      rw [ofJsonMembers, WellFormedMembers]
      exact ⟨wellFormed_ofJson h.1, wellFormedMembers_ofJson h.2⟩
end

mutual
/-- **Sorting keeps a value well formed.** -/
theorem wellFormed_sortKeys : ∀ {v : JsonValue}, WellFormed floats v →
    WellFormed floats (sortKeys v)
  | .null, h => by rwa [sortKeys]
  | .bool _, h => by rwa [sortKeys]
  | .int _, h => by rwa [sortKeys]
  | .float _, h => by rwa [sortKeys]
  | .str _, h => by rwa [sortKeys]
  | .arr items, h => by
      rw [WellFormed] at h
      rw [sortKeys, WellFormed, sortKeysItems_eq_map, wellFormedItems_iff]
      intro v hv
      obtain ⟨w, hw, rfl⟩ := List.mem_map.mp hv
      exact wellFormed_sortKeysItems h w hw
  | .obj members, h => by
      rw [WellFormed] at h
      rw [sortKeys_obj]
      refine wellFormed_obj (sorted_keys_nodup h.1) fun m hm => ?_
      obtain ⟨m', hm', rfl⟩ := mem_sorted.mp hm
      exact wellFormed_sortKeysMembers h.2 m' hm'

theorem wellFormed_sortKeysItems : ∀ {items : List JsonValue}, WellFormedItems floats items →
    ∀ v ∈ items, WellFormed floats (sortKeys v)
  | [], _ => by simp
  | v :: items, h => by
      rw [WellFormedItems] at h
      rw [List.forall_mem_cons]
      exact ⟨wellFormed_sortKeys h.1, wellFormed_sortKeysItems h.2⟩

theorem wellFormed_sortKeysMembers : ∀ {members : List (String × JsonValue)},
    WellFormedMembers floats members → ∀ m ∈ members, WellFormed floats (sortKeys m.2)
  | [], _ => by simp
  | (k, v) :: members, h => by
      rw [WellFormedMembers] at h
      rw [List.forall_mem_cons]
      exact ⟨wellFormed_sortKeys h.1, wellFormed_sortKeysMembers h.2⟩
end

end JsonValue

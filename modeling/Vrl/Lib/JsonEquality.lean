import Vrl.Lib.Json
import Vrl.Lib.JsonValue
import Vrl.Lib.PyStd

/-!
# Vrl.Lib.JsonEquality

Equality of JSON values whose objects are dictionaries: the order in which members were
inserted does not count, everything else does.

`Json.Same` is that equality, `Json.sortKeys` picks one value of each class, and
**`Json.sortKeys_eq_iff`** says so. With the text of a value determining the value, the
sorted text is the same exactly for equal values (**`Json.sortedText_eq_iff`**).
-/

namespace Json

/-! ### Dictionaries -/

mutual
/-- No object has a key twice. -/
def KeysDistinct : Json → Prop
  | .null | .bool _ | .int _ | .str _ => True
  | .arr items => KeysDistinctItems items
  | .obj members => (members.map (·.1)).Nodup ∧ KeysDistinctMembers members

def KeysDistinctItems : List Json → Prop
  | [] => True
  | v :: vs => KeysDistinct v ∧ KeysDistinctItems vs

def KeysDistinctMembers : List (String × Json) → Prop
  | [] => True
  | (_, v) :: ms => KeysDistinct v ∧ KeysDistinctMembers ms
end

/-- A value whose objects are dictionaries. -/
abbrev OfDicts := {v : Json // KeysDistinct v}

theorem keysDistinct_of_mem {ms : List (String × Json)} (h : KeysDistinctMembers ms)
    {m : String × Json} (hm : m ∈ ms) : KeysDistinct m.2 := by
  induction ms with
  | nil => cases hm
  | cons n ms ih =>
      rw [KeysDistinctMembers] at h
      rcases List.mem_cons.mp hm with rfl | hm
      · exact h.1
      · exact ih h.2 hm

theorem keysDistinctItems_of_forall {vs : List Json} (h : ∀ v ∈ vs, KeysDistinct v) :
    KeysDistinctItems vs := by
  induction vs with
  | nil => trivial
  | cons v vs ih =>
      rw [List.forall_mem_cons] at h
      exact ⟨h.1, ih h.2⟩

theorem keysDistinct_obj {ms : List (String × Json)} (hkeys : (ms.map (·.1)).Nodup)
    (h : ∀ m ∈ ms, KeysDistinct m.2) : KeysDistinct (.obj ms) := by
  rw [KeysDistinct]
  refine ⟨hkeys, ?_⟩
  clear hkeys
  induction ms with
  | nil => trivial
  | cons m ms ih =>
      rw [List.forall_mem_cons] at h
      exact ⟨h.1, ih h.2⟩

/-! ### Equality -/

mutual
/-- Equality of values built from lists and dictionaries. -/
def Same : Json → Json → Prop
  | .null, .null => True
  | .bool a, .bool b => a = b
  | .int i, .int j => i = j
  | .str s, .str t => s = t
  | .arr vs, .arr ws => SameItems vs ws
  | .obj ms, .obj ns => ms.length = ns.length ∧ SameMembers ms ns
  | _, _ => False

def SameItems : List Json → List Json → Prop
  | [], [] => True
  | v :: vs, w :: ws => Same v w ∧ SameItems vs ws
  | _, _ => False

/-- Every key of the first dictionary has an equal value in the second. -/
def SameMembers : List (String × Json) → List (String × Json) → Prop
  | [], _ => True
  | (k, v) :: ms, ns => (∃ w, ns.lookup k = some w ∧ Same v w) ∧ SameMembers ms ns
end

/-! ### The sorted representative -/

theorem sortKeysMembers_eq_map (ms : List (String × Json)) :
    sortKeysMembers ms = ms.map fun m => (m.1, sortKeys m.2) := by
  induction ms with
  | nil => rfl
  | cons m ms ih => rw [sortKeysMembers, ih, List.map_cons]

theorem sortKeysMembers_keys (ms : List (String × Json)) :
    (sortKeysMembers ms).map (·.1) = ms.map (·.1) := by
  rw [sortKeysMembers_eq_map, List.map_map]
  rfl

/-- Members sort to the same list when they are the same up to order. -/
theorem sortMembers_eq_iff_perm {α : Type} {ms ns : List (String × α)}
    (h : (ms.map (·.1)).Nodup) : sortMembers ms = sortMembers ns ↔ ms.Perm ns := by
  have hms : (sortMembers ms).Perm ms := List.perm_insertionSort _ _
  have hns : (sortMembers ns).Perm ns := List.perm_insertionSort _ _
  constructor
  · intro heq
    rw [heq] at hms
    exact hms.symm.trans hns
  · intro hperm
    have hsorted := fun l : List (String × α) =>
      List.pairwise_insertionSort (fun m n : String × α => m.1 ≤ n.1) l
    refine List.Perm.eq_of_pairwise ?_ (hsorted ms) (hsorted ns) (hms.trans (hperm.trans hns.symm))
    -- keys below each other are equal, and a key determines its member
    intro m n hm hn hmn hnm
    exact List.inj_on_of_nodup_map h (mem_sortMembers.mp hm)
      (hperm.mem_iff.mpr (mem_sortMembers.mp hn)) (String.le_antisymm hmn hnm)

theorem sortMembers_sortMembers {α : Type} (ms : List (String × α)) :
    sortMembers (sortMembers ms) = sortMembers ms :=
  (List.pairwise_insertionSort (fun m n : String × α => m.1 ≤ n.1) ms).insertionSort_eq

mutual
/-- The representative of a representative is itself. -/
theorem sortKeys_sortKeys : ∀ v : Json, sortKeys (sortKeys v) = sortKeys v
  | .null | .bool _ | .int _ | .str _ => by simp only [sortKeys]
  | .arr vs => by rw [sortKeys, sortKeys, sortKeysItems_sortKeysItems vs]
  | .obj ms => by
      have hmembers := sortKeysMembers_sortKeysMembers ms
      rw [sortKeysMembers_eq_map (sortKeysMembers ms)] at hmembers
      rw [sortKeys, sortKeys, sortKeysMembers_eq_map (sortMembers _),
        ← JsonValue.sortMembers_map sortKeys, hmembers, sortMembers_sortMembers]

theorem sortKeysItems_sortKeysItems : ∀ vs : List Json,
    sortKeysItems (sortKeysItems vs) = sortKeysItems vs
  | [] => by rw [sortKeysItems, sortKeysItems]
  | v :: vs => by
      rw [sortKeysItems, sortKeysItems, sortKeys_sortKeys v, sortKeysItems_sortKeysItems vs]

theorem sortKeysMembers_sortKeysMembers : ∀ ms : List (String × Json),
    sortKeysMembers (sortKeysMembers ms) = sortKeysMembers ms
  | [] => by rw [sortKeysMembers, sortKeysMembers]
  | (k, v) :: ms => by
      rw [sortKeysMembers, sortKeysMembers, sortKeys_sortKeys v,
        sortKeysMembers_sortKeysMembers ms]
end

theorem sortedText_sortKeys (code : StringCode) (v : Json) :
    sortedText code (sortKeys v) = sortedText code v := by
  rw [sortedText, sortKeys_sortKeys, sortedText]

/-- Dictionaries of one size are the same when one is contained in the other. -/
theorem perm_iff_subset {α : Type} {ms ns : List (String × α)} (h : (ms.map (·.1)).Nodup) :
    ms.Perm ns ↔ ms.length = ns.length ∧ ms ⊆ ns := by
  constructor
  · intro hperm
    exact ⟨hperm.length_eq, hperm.subset⟩
  · rintro ⟨hlength, hsubset⟩
    have hsub : ms.Subperm ns := List.Nodup.subperm h.of_map hsubset
    exact hsub.perm_of_length_le hlength.ge

mutual
/-- **Sorting the members everywhere gives equal results exactly for equal values.** -/
theorem sortKeys_eq_iff : ∀ {v w : Json}, KeysDistinct v → KeysDistinct w →
    (sortKeys v = sortKeys w ↔ Same v w)
  | .null, w, _, _ => by cases w <;> simp [sortKeys, Same]
  | .bool _, w, _, _ => by cases w <;> simp [sortKeys, Same]
  | .int _, w, _, _ => by cases w <;> simp [sortKeys, Same]
  | .str _, w, _, _ => by cases w <;> simp [sortKeys, Same]
  | .arr vs, w, hv, hw => by
      cases w with
      | arr ws =>
          rw [KeysDistinct] at hv hw
          rw [sortKeys, sortKeys, Json.arr.injEq, Same]
          exact sortKeysItems_eq_iff hv hw
      | _ => simp [sortKeys, Same]
  | .obj ms, w, hv, hw => by
      cases w with
      | obj ns =>
          rw [KeysDistinct] at hv hw
          have hkeys : ((sortKeysMembers ms).map (·.1)).Nodup := by
            rw [sortKeysMembers_keys]
            exact hv.1
          have hlength : ∀ l, (sortKeysMembers l).length = l.length := fun l => by
            rw [sortKeysMembers_eq_map, List.length_map]
          rw [sortKeys, sortKeys, Json.obj.injEq, Same, sortMembers_eq_iff_perm hkeys,
            perm_iff_subset hkeys, hlength, hlength, sortKeysMembers_subset_iff hv.2 hw.1 hw.2]
      | _ => simp [sortKeys, Same]

theorem sortKeysItems_eq_iff : ∀ {vs ws : List Json}, KeysDistinctItems vs →
    KeysDistinctItems ws → (sortKeysItems vs = sortKeysItems ws ↔ SameItems vs ws)
  | [], ws, _, _ => by cases ws <;> simp [sortKeysItems, SameItems]
  | v :: vs, ws, hv, hw => by
      cases ws with
      | nil => simp [sortKeysItems, SameItems]
      | cons w ws =>
          rw [KeysDistinctItems] at hv hw
          rw [sortKeysItems, sortKeysItems, List.cons.injEq, SameItems,
            sortKeys_eq_iff hv.1 hw.1, sortKeysItems_eq_iff hv.2 hw.2]

theorem sortKeysMembers_subset_iff : ∀ {ms ns : List (String × Json)}, KeysDistinctMembers ms →
    (ns.map (·.1)).Nodup → KeysDistinctMembers ns →
    (sortKeysMembers ms ⊆ sortKeysMembers ns ↔ SameMembers ms ns)
  | [], ns, _, _, _ => by simp [sortKeysMembers, SameMembers]
  | (k, v) :: ms, ns, hm, hkeys, hn => by
      rw [KeysDistinctMembers] at hm
      rw [sortKeysMembers, SameMembers, List.cons_subset,
        sortKeysMembers_subset_iff hm.2 hkeys hn]
      refine and_congr_left fun _ => ?_
      rw [sortKeysMembers_eq_map, List.mem_map]
      constructor
      · rintro ⟨⟨k', w⟩, hmem, heq⟩
        rw [Prod.mk.injEq] at heq
        obtain ⟨rfl, hvalue⟩ := heq
        have hw := keysDistinct_of_mem hn hmem
        exact ⟨w, (lookup_eq_some_iff_mem hkeys).mpr hmem,
          (sortKeys_eq_iff hm.1 hw).mp hvalue.symm⟩
      · rintro ⟨w, hlookup, hsame⟩
        have hmem := (lookup_eq_some_iff_mem hkeys).mp hlookup
        have hw := keysDistinct_of_mem hn hmem
        exact ⟨(k, w), hmem, by rw [(sortKeys_eq_iff hm.1 hw).mpr hsame]⟩
end

/-- Equality is an equivalence, since it is equality of the sorted representatives. -/
theorem same_equivalence : Equivalence fun v w : OfDicts => Same v.1 w.1 where
  refl v := (sortKeys_eq_iff v.2 v.2).mp rfl
  symm := by
    intro v w h
    exact (sortKeys_eq_iff w.2 v.2).mp ((sortKeys_eq_iff v.2 w.2).mpr h).symm
  trans := by
    intro u v w huv hvw
    have hu := (sortKeys_eq_iff u.2 v.2).mpr huv
    have hv := (sortKeys_eq_iff v.2 w.2).mpr hvw
    exact (sortKeys_eq_iff u.2 w.2).mp (hu.trans hv)

/-- **The sorted text of two values is the same exactly when they are equal.** -/
theorem sortedText_eq_iff (code : StringCode) {v w : Json} (hv : KeysDistinct v)
    (hw : KeysDistinct w) : sortedText code v = sortedText code w ↔ Same v w := by
  rw [← sortKeys_eq_iff hv hw]
  constructor
  · exact sortKeys_eq_of_sortedText_eq code
  · intro h
    rw [sortedText, sortedText, h]

/-! ### String values -/

section Strings

variable (f : String → String)

mutual
/-- The value with every string value changed. Keys stay. -/
def mapStrings : Json → Json
  | .null => .null
  | .bool b => .bool b
  | .int i => .int i
  | .str s => .str (f s)
  | .arr items => .arr (mapStringsItems items)
  | .obj members => .obj (mapStringsMembers members)

def mapStringsItems : List Json → List Json
  | [] => []
  | v :: vs => mapStrings v :: mapStringsItems vs

def mapStringsMembers : List (String × Json) → List (String × Json)
  | [] => []
  | (k, v) :: ms => (k, mapStrings v) :: mapStringsMembers ms
end

mutual
/-- The string values of a value, in order. Keys are not among them. -/
def stringValues : Json → List String
  | .null | .bool _ | .int _ => []
  | .str s => [s]
  | .arr items => stringValuesItems items
  | .obj members => stringValuesMembers members

def stringValuesItems : List Json → List String
  | [] => []
  | v :: vs => stringValues v ++ stringValuesItems vs

def stringValuesMembers : List (String × Json) → List String
  | [] => []
  | (_, v) :: ms => stringValues v ++ stringValuesMembers ms
end

theorem mapStringsItems_eq_map (vs : List Json) :
    mapStringsItems f vs = vs.map (mapStrings f) := by
  induction vs with
  | nil => rfl
  | cons v vs ih => rw [mapStringsItems, ih, List.map_cons]

theorem mapStringsMembers_eq_map (ms : List (String × Json)) :
    mapStringsMembers f ms = ms.map fun m => (m.1, mapStrings f m.2) := by
  induction ms with
  | nil => rfl
  | cons m ms ih => rw [mapStringsMembers, ih, List.map_cons]

mutual
/-- A value stays when each of its string values does. -/
theorem mapStrings_eq_self_iff : ∀ v : Json,
    mapStrings f v = v ↔ ∀ s ∈ stringValues v, f s = s
  | .null | .bool _ | .int _ => by simp [mapStrings, stringValues]
  | .str s => by simp [mapStrings, stringValues]
  | .arr vs => by
      rw [mapStrings, stringValues, Json.arr.injEq]
      exact mapStringsItems_eq_self_iff vs
  | .obj ms => by
      rw [mapStrings, stringValues, Json.obj.injEq]
      exact mapStringsMembers_eq_self_iff ms

theorem mapStringsItems_eq_self_iff : ∀ vs : List Json,
    mapStringsItems f vs = vs ↔ ∀ s ∈ stringValuesItems vs, f s = s
  | [] => by simp [mapStringsItems, stringValuesItems]
  | v :: vs => by
      rw [mapStringsItems, stringValuesItems, List.cons.injEq, List.forall_mem_append,
        mapStrings_eq_self_iff v, mapStringsItems_eq_self_iff vs]

theorem mapStringsMembers_eq_self_iff : ∀ ms : List (String × Json),
    mapStringsMembers f ms = ms ↔ ∀ s ∈ stringValuesMembers ms, f s = s
  | [] => by simp [mapStringsMembers, stringValuesMembers]
  | (k, v) :: ms => by
      rw [mapStringsMembers, stringValuesMembers, List.cons.injEq, Prod.mk.injEq,
        List.forall_mem_append, mapStrings_eq_self_iff v, mapStringsMembers_eq_self_iff ms]
      exact and_congr_left fun _ => and_iff_right rfl
end

mutual
/-- A change that is made twice is made once. -/
theorem mapStrings_mapStrings {f : String → String} (hf : ∀ s, f (f s) = f s) : ∀ v : Json,
    mapStrings f (mapStrings f v) = mapStrings f v
  | .null | .bool _ | .int _ => by simp only [mapStrings]
  | .str s => by rw [mapStrings, mapStrings, hf]
  | .arr vs => by rw [mapStrings, mapStrings, mapStringsItems_mapStrings hf vs]
  | .obj ms => by rw [mapStrings, mapStrings, mapStringsMembers_mapStrings hf ms]

theorem mapStringsItems_mapStrings {f : String → String} (hf : ∀ s, f (f s) = f s) :
    ∀ vs : List Json, mapStringsItems f (mapStringsItems f vs) = mapStringsItems f vs
  | [] => rfl
  | v :: vs => by
      rw [mapStringsItems, mapStringsItems, mapStrings_mapStrings hf v,
        mapStringsItems_mapStrings hf vs]

theorem mapStringsMembers_mapStrings {f : String → String} (hf : ∀ s, f (f s) = f s) :
    ∀ ms : List (String × Json),
      mapStringsMembers f (mapStringsMembers f ms) = mapStringsMembers f ms
  | [] => rfl
  | (k, v) :: ms => by
      rw [mapStringsMembers, mapStringsMembers, mapStrings_mapStrings hf v,
        mapStringsMembers_mapStrings hf ms]
end

mutual
/-- A change of the string values leaves the keys as they are. -/
theorem keysDistinct_mapStrings (f : String → String) : ∀ {v : Json}, KeysDistinct v →
    KeysDistinct (mapStrings f v)
  | .null, h | .bool _, h | .int _, h | .str _, h => by rwa [mapStrings]
  | .arr vs, h => by
      rw [KeysDistinct] at h
      rw [mapStrings, KeysDistinct]
      exact keysDistinctItems_mapStrings f h
  | .obj ms, h => by
      rw [KeysDistinct] at h
      rw [mapStrings, KeysDistinct, mapStringsMembers_eq_map, List.map_map]
      refine ⟨h.1, ?_⟩
      rw [← mapStringsMembers_eq_map]
      exact keysDistinctMembers_mapStrings f h.2

theorem keysDistinctItems_mapStrings (f : String → String) : ∀ {vs : List Json},
    KeysDistinctItems vs → KeysDistinctItems (mapStringsItems f vs)
  | [], _ => trivial
  | v :: vs, h => by
      rw [KeysDistinctItems] at h
      rw [mapStringsItems, KeysDistinctItems]
      exact ⟨keysDistinct_mapStrings f h.1, keysDistinctItems_mapStrings f h.2⟩

theorem keysDistinctMembers_mapStrings (f : String → String) : ∀ {ms : List (String × Json)},
    KeysDistinctMembers ms → KeysDistinctMembers (mapStringsMembers f ms)
  | [], _ => trivial
  | (k, v) :: ms, h => by
      rw [KeysDistinctMembers] at h
      rw [mapStringsMembers, KeysDistinctMembers]
      exact ⟨keysDistinct_mapStrings f h.1, keysDistinctMembers_mapStrings f h.2⟩
end

mutual
/-- Sorting the members commutes with a change of the string values. -/
theorem sortKeys_mapStrings : ∀ v : Json,
    sortKeys (mapStrings f v) = mapStrings f (sortKeys v)
  | .null | .bool _ | .int _ | .str _ => by simp only [mapStrings, sortKeys]
  | .arr vs => by
      rw [mapStrings, sortKeys, sortKeys, mapStrings, sortKeysItems_mapStrings vs]
  | .obj ms => by
      rw [mapStrings, sortKeys, sortKeys, mapStrings, sortKeysMembers_mapStrings ms,
        mapStringsMembers_eq_map, mapStringsMembers_eq_map, JsonValue.sortMembers_map]

theorem sortKeysItems_mapStrings : ∀ vs : List Json,
    sortKeysItems (mapStringsItems f vs) = mapStringsItems f (sortKeysItems vs)
  | [] => by rw [mapStringsItems, sortKeysItems, mapStringsItems]
  | v :: vs => by
      rw [mapStringsItems, sortKeysItems, sortKeysItems, mapStringsItems,
        sortKeys_mapStrings v, sortKeysItems_mapStrings vs]

theorem sortKeysMembers_mapStrings : ∀ ms : List (String × Json),
    sortKeysMembers (mapStringsMembers f ms) = mapStringsMembers f (sortKeysMembers ms)
  | [] => by rw [mapStringsMembers, sortKeysMembers, mapStringsMembers]
  | (k, v) :: ms => by
      rw [mapStringsMembers, sortKeysMembers, sortKeysMembers, mapStringsMembers,
        sortKeys_mapStrings v, sortKeysMembers_mapStrings ms]
end

theorem stringValuesMembers_eq_flatMap (ms : List (String × Json)) :
    stringValuesMembers ms = ms.flatMap fun m => stringValues m.2 := by
  induction ms with
  | nil => rfl
  | cons m ms ih => rw [stringValuesMembers, ih, List.flatMap_cons]

mutual
/-- Sorting the members keeps the string values, in another order. -/
theorem stringValues_sortKeys : ∀ v : Json, (stringValues (sortKeys v)).Perm (stringValues v)
  | .null | .bool _ | .int _ | .str _ => by simp only [sortKeys, List.Perm.refl]
  | .arr vs => by
      rw [sortKeys, stringValues, stringValues]
      exact stringValuesItems_sortKeys vs
  | .obj ms => by
      have hperm : (sortMembers (sortKeysMembers ms)).Perm (sortKeysMembers ms) :=
        List.perm_insertionSort _ _
      rw [sortKeys, stringValues, stringValues, stringValuesMembers_eq_flatMap]
      refine (hperm.flatMap_right _).trans ?_
      rw [← stringValuesMembers_eq_flatMap]
      exact stringValuesMembers_sortKeys ms

theorem stringValuesItems_sortKeys : ∀ vs : List Json,
    (stringValuesItems (sortKeysItems vs)).Perm (stringValuesItems vs)
  | [] => by rw [sortKeysItems]
  | v :: vs => by
      rw [sortKeysItems, stringValuesItems, stringValuesItems]
      exact (stringValues_sortKeys v).append (stringValuesItems_sortKeys vs)

theorem stringValuesMembers_sortKeys : ∀ ms : List (String × Json),
    (stringValuesMembers (sortKeysMembers ms)).Perm (stringValuesMembers ms)
  | [] => by rw [sortKeysMembers]
  | (_, v) :: ms => by
      rw [sortKeysMembers, stringValuesMembers, stringValuesMembers]
      exact (stringValues_sortKeys v).append (stringValuesMembers_sortKeys ms)
end

end Strings

/-! ### Records -/

/-- An object may be sorted before. -/
theorem sortKeys_obj_sortMembers (ms : List (String × Json)) :
    sortKeys (.obj (sortMembers ms)) = sortKeys (.obj ms) := by
  rw [sortKeys, sortKeys, sortKeysMembers_eq_map, ← JsonValue.sortMembers_map sortKeys,
    ← sortKeysMembers_eq_map, sortMembers_sortMembers]

/-- Members with the same keys in the same order are equal if they are the same up to order. -/
theorem eq_of_perm_of_keys {α : Type} {ms ns : List (String × α)}
    (hkeys : ms.map (·.1) = ns.map (·.1)) (hnodup : (ms.map (·.1)).Nodup) (h : ms.Perm ns) :
    ms = ns := by
  induction ms generalizing ns with
  | nil => exact (List.nil_perm.mp h).symm
  | cons m ms ih =>
      cases ns with
      | nil => cases hkeys
      | cons n ns =>
          rw [List.map_cons, List.map_cons, List.cons.injEq] at hkeys
          have hmem : m ∈ n :: ns := h.mem_iff.mp (List.mem_cons_self ..)
          -- the key of the first member is that of no other
          obtain rfl : m = n := by
            rcases List.mem_cons.mp hmem with hm | hm
            · exact hm
            · rw [List.map_cons, List.nodup_cons, hkeys.2] at hnodup
              exact absurd (List.mem_map.mpr ⟨m, hm, rfl⟩) hnodup.1
          rw [List.map_cons, List.nodup_cons] at hnodup
          rw [ih hkeys.2 hnodup.2 h.cons_inv]

/-- **Objects with the same keys in the same order are equal as dictionaries exactly if their values
are.** -/
theorem sortKeys_record_iff {ms ns : List (String × Json)} (hkeys : ms.map (·.1) = ns.map (·.1))
    (hnodup : (ms.map (·.1)).Nodup) :
    sortKeys (.obj ms) = sortKeys (.obj ns) ↔ sortKeysMembers ms = sortKeysMembers ns := by
  rw [← sortKeysMembers_keys ms] at hnodup
  rw [← sortKeysMembers_keys ms, ← sortKeysMembers_keys ns] at hkeys
  rw [sortKeys, sortKeys, obj.injEq, sortMembers_eq_iff_perm hnodup]
  constructor
  · intro hperm
    exact eq_of_perm_of_keys hkeys hnodup hperm
  · intro heq
    rw [heq]

end Json

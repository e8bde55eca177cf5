import Vrl.Lib.JsonEquality

/-!
# Vrl.Lib.JsonNumbers

JSON values under a change of their integers, as a reader or writer makes it whose numbers
are of another kind.

The change is made in one value of each class as in another (**`Json.same_mapInts`**), so
values that are equal stay so; values that differ may become equal.
-/

namespace Json

/-! ### Sorted dictionaries -/

mutual
/-- Sorting its members keeps an object a dictionary. -/
theorem keysDistinct_sortKeys : ∀ {v : Json}, KeysDistinct v → KeysDistinct (sortKeys v)
  | .null, h | .bool _, h | .int _, h | .str _, h => by rwa [sortKeys]
  | .arr vs, h => by
      rw [KeysDistinct] at h
      rw [sortKeys, KeysDistinct]
      exact keysDistinctItems_sortKeys h
  | .obj ms, h => by
      rw [KeysDistinct] at h
      have hperm : (sortMembers (sortKeysMembers ms)).Perm (sortKeysMembers ms) :=
        List.perm_insertionSort _ _
      rw [sortKeys]
      refine keysDistinct_obj ?_ fun m hm => ?_
      · rw [(hperm.map (·.1)).nodup_iff, sortKeysMembers_keys]
        exact h.1
      · exact keysDistinct_of_mem (keysDistinctMembers_sortKeys h.2) (mem_sortMembers.mp hm)

theorem keysDistinctItems_sortKeys : ∀ {vs : List Json}, KeysDistinctItems vs →
    KeysDistinctItems (sortKeysItems vs)
  | [], h => by rwa [sortKeysItems]
  | v :: vs, h => by
      rw [KeysDistinctItems] at h
      rw [sortKeysItems, KeysDistinctItems]
      exact ⟨keysDistinct_sortKeys h.1, keysDistinctItems_sortKeys h.2⟩

theorem keysDistinctMembers_sortKeys : ∀ {ms : List (String × Json)}, KeysDistinctMembers ms →
    KeysDistinctMembers (sortKeysMembers ms)
  | [], h => by rwa [sortKeysMembers]
  | (k, v) :: ms, h => by
      rw [KeysDistinctMembers] at h
      rw [sortKeysMembers, KeysDistinctMembers]
      exact ⟨keysDistinct_sortKeys h.1, keysDistinctMembers_sortKeys h.2⟩
end

/-! ### Integers -/

section Ints

variable (f : Int → Int)

mutual
/-- The value with every integer changed. -/
def mapInts : Json → Json
  | .null => .null
  | .bool b => .bool b
  | .int i => .int (f i)
  | .str s => .str s
  | .arr items => .arr (mapIntsItems items)
  | .obj members => .obj (mapIntsMembers members)

def mapIntsItems : List Json → List Json
  | [] => []
  | v :: vs => mapInts v :: mapIntsItems vs

def mapIntsMembers : List (String × Json) → List (String × Json)
  | [] => []
  | (k, v) :: ms => (k, mapInts v) :: mapIntsMembers ms
end

mutual
/-- The integers of a value. -/
def ints : Json → List Int
  | .null | .bool _ | .str _ => []
  | .int i => [i]
  | .arr items => intsItems items
  | .obj members => intsMembers members

def intsItems : List Json → List Int
  | [] => []
  | v :: vs => ints v ++ intsItems vs

def intsMembers : List (String × Json) → List Int
  | [] => []
  | (_, v) :: ms => ints v ++ intsMembers ms
end

theorem mapIntsMembers_eq_map (ms : List (String × Json)) :
    mapIntsMembers f ms = ms.map fun m => (m.1, mapInts f m.2) := by
  induction ms with
  | nil => rfl
  | cons m ms ih => rw [mapIntsMembers, ih, List.map_cons]

mutual
/-- A value stays when each of its integers does. -/
theorem mapInts_eq_self : ∀ {v : Json}, (∀ i ∈ ints v, f i = i) → mapInts f v = v
  | .null, _ | .bool _, _ | .str _, _ => by rw [mapInts]
  | .int i, h => by rw [mapInts, h i (by simp [ints])]
  | .arr vs, h => by
      rw [ints] at h
      rw [mapInts, mapIntsItems_eq_self h]
  | .obj ms, h => by
      rw [ints] at h
      rw [mapInts, mapIntsMembers_eq_self h]

theorem mapIntsItems_eq_self : ∀ {vs : List Json}, (∀ i ∈ intsItems vs, f i = i) →
    mapIntsItems f vs = vs
  | [], _ => by rw [mapIntsItems]
  | v :: vs, h => by
      rw [intsItems, List.forall_mem_append] at h
      rw [mapIntsItems, mapInts_eq_self h.1, mapIntsItems_eq_self h.2]

theorem mapIntsMembers_eq_self : ∀ {ms : List (String × Json)},
    (∀ i ∈ intsMembers ms, f i = i) → mapIntsMembers f ms = ms
  | [], _ => by rw [mapIntsMembers]
  | (k, v) :: ms, h => by
      rw [intsMembers, List.forall_mem_append] at h
      rw [mapIntsMembers, mapInts_eq_self h.1, mapIntsMembers_eq_self h.2]
end

mutual
/-- Two changes are one. -/
theorem mapInts_mapInts (g : Int → Int) : ∀ v : Json,
    mapInts f (mapInts g v) = mapInts (f ∘ g) v
  | .null | .bool _ | .str _ => by simp only [mapInts]
  | .int i => by rw [mapInts, mapInts, mapInts, Function.comp_apply]
  | .arr vs => by rw [mapInts, mapInts, mapInts, mapIntsItems_mapInts g vs]
  | .obj ms => by rw [mapInts, mapInts, mapInts, mapIntsMembers_mapInts g ms]

theorem mapIntsItems_mapInts (g : Int → Int) : ∀ vs : List Json,
    mapIntsItems f (mapIntsItems g vs) = mapIntsItems (f ∘ g) vs
  | [] => by simp only [mapIntsItems]
  | v :: vs => by
      rw [mapIntsItems, mapIntsItems, mapIntsItems, mapInts_mapInts g v,
        mapIntsItems_mapInts g vs]

theorem mapIntsMembers_mapInts (g : Int → Int) : ∀ ms : List (String × Json),
    mapIntsMembers f (mapIntsMembers g ms) = mapIntsMembers (f ∘ g) ms
  | [] => by simp only [mapIntsMembers]
  | (k, v) :: ms => by
      rw [mapIntsMembers, mapIntsMembers, mapIntsMembers, mapInts_mapInts g v,
        mapIntsMembers_mapInts g ms]
end

mutual
/-- A change of the integers leaves the keys as they are. -/
theorem keysDistinct_mapInts : ∀ {v : Json}, KeysDistinct v → KeysDistinct (mapInts f v)
  | .null, h | .bool _, h | .int _, h | .str _, h => by rwa [mapInts]
  | .arr vs, h => by
      rw [KeysDistinct] at h
      rw [mapInts, KeysDistinct]
      exact keysDistinctItems_mapInts h
  | .obj ms, h => by
      rw [KeysDistinct] at h
      rw [mapInts, KeysDistinct, mapIntsMembers_eq_map, List.map_map]
      refine ⟨h.1, ?_⟩
      rw [← mapIntsMembers_eq_map]
      exact keysDistinctMembers_mapInts h.2

theorem keysDistinctItems_mapInts : ∀ {vs : List Json}, KeysDistinctItems vs →
    KeysDistinctItems (mapIntsItems f vs)
  | [], _ => trivial
  | v :: vs, h => by
      rw [KeysDistinctItems] at h
      rw [mapIntsItems, KeysDistinctItems]
      exact ⟨keysDistinct_mapInts h.1, keysDistinctItems_mapInts h.2⟩

theorem keysDistinctMembers_mapInts : ∀ {ms : List (String × Json)}, KeysDistinctMembers ms →
    KeysDistinctMembers (mapIntsMembers f ms)
  | [], _ => trivial
  | (k, v) :: ms, h => by
      rw [KeysDistinctMembers] at h
      rw [mapIntsMembers, KeysDistinctMembers]
      exact ⟨keysDistinct_mapInts h.1, keysDistinctMembers_mapInts h.2⟩
end

mutual
/-- Sorting the members commutes with a change of the integers. -/
theorem sortKeys_mapInts : ∀ v : Json, sortKeys (mapInts f v) = mapInts f (sortKeys v)
  | .null | .bool _ | .int _ | .str _ => by simp only [mapInts, sortKeys]
  | .arr vs => by rw [mapInts, sortKeys, sortKeys, mapInts, sortKeysItems_mapInts vs]
  | .obj ms => by
      rw [mapInts, sortKeys, sortKeys, mapInts, sortKeysMembers_mapInts ms,
        mapIntsMembers_eq_map, mapIntsMembers_eq_map, JsonValue.sortMembers_map]

theorem sortKeysItems_mapInts : ∀ vs : List Json,
    sortKeysItems (mapIntsItems f vs) = mapIntsItems f (sortKeysItems vs)
  | [] => by rw [mapIntsItems, sortKeysItems, mapIntsItems]
  | v :: vs => by
      rw [mapIntsItems, sortKeysItems, sortKeysItems, mapIntsItems, sortKeys_mapInts v,
        sortKeysItems_mapInts vs]

theorem sortKeysMembers_mapInts : ∀ ms : List (String × Json),
    sortKeysMembers (mapIntsMembers f ms) = mapIntsMembers f (sortKeysMembers ms)
  | [] => by rw [mapIntsMembers, sortKeysMembers, mapIntsMembers]
  | (k, v) :: ms => by
      rw [mapIntsMembers, sortKeysMembers, sortKeysMembers, mapIntsMembers, sortKeys_mapInts v,
        sortKeysMembers_mapInts ms]
end

/-- Equal values stay equal under a change of their integers. -/
theorem same_mapInts {v w : Json} (hv : KeysDistinct v) (hw : KeysDistinct w) (h : Same v w) :
    Same (mapInts f v) (mapInts f w) := by
  have hsorted := (sortKeys_eq_iff hv hw).mpr h
  refine (sortKeys_eq_iff (keysDistinct_mapInts f hv) (keysDistinct_mapInts f hw)).mp ?_
  rw [sortKeys_mapInts, sortKeys_mapInts, hsorted]

end Ints

/-- Changes that can be told from each other's results make the same values equal. -/
theorem same_mapInts_iff {f g : Int → Int} (hfg : ∃ h, f = h ∘ g) (hgf : ∃ h, g = h ∘ f)
    {v w : Json} (hv : KeysDistinct v) (hw : KeysDistinct w) :
    Same (mapInts f v) (mapInts f w) ↔ Same (mapInts g v) (mapInts g w) := by
  obtain ⟨h, hf⟩ := hfg
  obtain ⟨h', hg⟩ := hgf
  constructor
  · intro hsame
    rw [hg, ← mapInts_mapInts, ← mapInts_mapInts]
    exact same_mapInts h' (keysDistinct_mapInts f hv) (keysDistinct_mapInts f hw) hsame
  · intro hsame
    rw [hf, ← mapInts_mapInts, ← mapInts_mapInts]
    exact same_mapInts h (keysDistinct_mapInts g hv) (keysDistinct_mapInts g hw) hsame

end Json

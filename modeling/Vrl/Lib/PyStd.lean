import Vrl.Lib.Decimal
import Vrl.Lib.Hash

/-!
# Vrl.Lib.PyStd

The values that Python code passes around, and the libraries that it takes them to.

Hashing, Unicode data, name-based UUIDs and pydantic's lax reading of integers are
left abstract. What is known of them whatever their inputs (that ASCII is already
normalised, that an integer is read as itself) is carried by the structures
themselves.
-/

open TextCodec

/-! ### Values -/

/-- The Python values that make up payloads. A float is known by its `repr` only,
since none is ever accepted. -/
inductive PyVal where
  | none
  | bool (b : Bool)
  | int (i : Int)
  | float (repr : String)
  | decimal (d : PyDecimal)
  | uuid (u : Uuid)
  | str (s : String)
  | list (items : List PyVal)
  | dict (members : List (String × PyVal))

namespace PyVal

/-- `type(value).__name__`. -/
def typeName : PyVal → String
  | .none => "NoneType"
  | .bool _ => "bool"
  | .int _ => "int"
  | .float _ => "float"
  | .decimal _ => "Decimal"
  | .uuid _ => "UUID"
  | .str _ => "str"
  | .list _ => "list"
  | .dict _ => "dict"

/-- `str(value)` of a value that is not a collection. The text of a collection begins
with a bracket. -/
def scalarText : PyVal → Option String
  | .none => some "None"
  | .bool b => some (if b then "True" else "False")
  | .int i => some (String.ofList (intText i))
  | .float repr => some repr
  | .decimal d => some (String.ofList d.text)
  | .uuid u => some (String.ofList u.text)
  | .str s => some s
  | .list _ => Option.none
  | .dict _ => Option.none

end PyVal

/-- `d[key]`. -/
def getItem {α : Type} (members : List (String × α)) (key : String) : Except PyError α :=
  match members.lookup key with
  | some value => .ok value
  | none => .error ⟨.keyError, "'" ++ key ++ "'"⟩

theorem getItem_eq_ok {α : Type} {members : List (String × α)} {key : String} {value : α} :
    getItem members key = .ok value ↔ members.lookup key = some value := by
  unfold getItem
  cases members.lookup key with
  | none => simp
  | some w => simp

/-- `d[key] = value`: an old key keeps its place. -/
def setItem {α : Type} : List (String × α) → String → α → List (String × α)
  | [], key, value => [(key, value)]
  | (k, v) :: members, key, value =>
      if k = key then (k, value) :: members else (k, v) :: setItem members key value

section Items

variable {α : Type} {members : List (String × α)} {key : String} {value : α}

@[simp] theorem lookup_setItem_self : (setItem members key value).lookup key = some value := by
  induction members with
  | nil => simp [setItem]
  | cons m members ih =>
      obtain ⟨k, v⟩ := m
      rw [setItem]
      by_cases hk : k = key
      · simp [hk]
      · have hne : (key == k) = false := by simpa using Ne.symm hk
        rw [if_neg hk, List.lookup_cons, hne]
        exact ih

theorem lookup_setItem_of_ne {key' : String} (h : key' ≠ key) :
    (setItem members key value).lookup key' = members.lookup key' := by
  have hne : (key' == key) = false := by simpa using h
  induction members with
  | nil => simp [setItem, List.lookup_cons, hne]
  | cons m members ih =>
      obtain ⟨k, v⟩ := m
      rw [setItem]
      by_cases hk : k = key
      · subst hk
        rw [if_pos rfl, List.lookup_cons, List.lookup_cons, hne]
      · rw [if_neg hk, List.lookup_cons, List.lookup_cons, ih]

/-- A new key is put at the end. -/
theorem setItem_of_not_mem (h : key ∉ members.map (·.1)) :
    setItem members key value = members ++ [(key, value)] := by
  induction members with
  | nil => rfl
  | cons m members ih =>
      rw [List.map_cons, List.mem_cons, not_or] at h
      rw [setItem, if_neg (Ne.symm h.1), ih h.2]
      rfl

theorem mem_setItem {m : String × α} (h : m ∈ setItem members key value) :
    m = (key, value) ∨ m ∈ members := by
  induction members with
  | nil => exact .inl (List.mem_singleton.mp h)
  | cons n members ih =>
      obtain ⟨k, v⟩ := n
      rw [setItem] at h
      by_cases hk : k = key
      · subst hk
        rw [if_pos rfl] at h
        exact (List.mem_cons.mp h).imp_right (List.mem_cons_of_mem _)
      · rw [if_neg hk] at h
        rcases List.mem_cons.mp h with rfl | h
        · exact .inr (List.mem_cons_self ..)
        · exact (ih h).imp_right (List.mem_cons_of_mem _)

/-- Setting an item brings no key in twice. -/
theorem setItem_keys_nodup (h : (members.map (·.1)).Nodup) :
    ((setItem members key value).map (·.1)).Nodup := by
  induction members with
  | nil => exact List.nodup_singleton key
  | cons m members ih =>
      obtain ⟨k, v⟩ := m
      rw [setItem]
      by_cases hk : k = key
      · rw [if_pos hk]
        exact h
      · rw [List.map_cons, List.nodup_cons] at h
        rw [if_neg hk, List.map_cons, List.nodup_cons]
        refine ⟨?_, ih h.2⟩
        intro hmem
        obtain ⟨n, hn, hkey⟩ := List.mem_map.mp hmem
        rcases mem_setItem hn with rfl | hn
        · exact hk hkey.symm
        · exact h.1 (List.mem_map.mpr ⟨n, hn, hkey⟩)

/-- Where no key occurs twice, looking a key up is finding its member. -/
theorem lookup_eq_some_iff_mem (h : (members.map (·.1)).Nodup) :
    members.lookup key = some value ↔ (key, value) ∈ members := by
  induction members with
  | nil => simp
  | cons m members ih =>
      obtain ⟨k, v⟩ := m
      rw [List.map_cons, List.nodup_cons] at h
      rw [List.mem_cons, List.lookup_cons]
      by_cases hk : key = k
      · subst hk
        have hnot : (key, value) ∉ members := by
          intro hmem
          exact h.1 (List.mem_map.mpr ⟨_, hmem, rfl⟩)
        simp [hnot, eq_comm]
      · have hne : (key == k) = false := by simpa using hk
        rw [hne, ih h.2]
        simp [hk]

end Items

/-! ### Dictionaries -/

section Dictionaries

variable {α β : Type}

/-- `dict(pairs)`: of several members with one key the last counts. -/
def dictOf (pairs : List (String × α)) : List (String × α) :=
  pairs.foldl (fun members m => setItem members m.1 m.2) []

theorem dictOf_of_nodup {ms : List (String × α)} (h : (ms.map (·.1)).Nodup) :
    dictOf ms = ms := by
  have hfold : ∀ (ns ms : List (String × α)), ((ns ++ ms).map (·.1)).Nodup →
      ms.foldl (fun members m => setItem members m.1 m.2) ns = ns ++ ms := by
    intro ns ms hnodup
    induction ms generalizing ns with
    | nil => rw [List.foldl_nil, List.append_nil]
    | cons m ms ih =>
        have hfresh : m.1 ∉ ns.map (·.1) := by
          rw [List.map_append, List.map_cons] at hnodup
          intro hmem
          exact (List.nodup_append.mp hnodup).2.2 _ hmem _ (List.mem_cons_self ..) rfl
        rw [List.foldl_cons, setItem_of_not_mem hfresh, ih]
        · rw [List.append_assoc]
          rfl
        · rwa [List.append_assoc]
  exact hfold [] ms h

/-- Values are changed before or after the entries become a dictionary. -/
theorem setItem_map (g : α → β) (members : List (String × α)) (key : String) (value : α) :
    setItem (members.map fun m => (m.1, g m.2)) key (g value) =
      (setItem members key value).map fun m => (m.1, g m.2) := by
  induction members with
  | nil => rfl
  | cons m members ih =>
      obtain ⟨k, v⟩ := m
      rw [List.map_cons, setItem, setItem, ih]
      split <;> rw [List.map_cons]

theorem dictOf_map (g : α → β) (entries : List (String × α)) :
    dictOf (entries.map fun m => (m.1, g m.2)) = (dictOf entries).map fun m => (m.1, g m.2) := by
  have hfold : ∀ members : List (String × α),
      (entries.map fun m => (m.1, g m.2)).foldl (fun members m => setItem members m.1 m.2)
          (members.map fun m => (m.1, g m.2)) =
        (entries.foldl (fun members m => setItem members m.1 m.2) members).map
          fun m => (m.1, g m.2) := by
    induction entries with
    | nil => exact fun _ => rfl
    | cons m entries ih =>
        intro members
        rw [List.map_cons, List.foldl_cons, List.foldl_cons, setItem_map, ih]
  exact hfold []

/-- A dictionary has each key once, and its values are among those of the entries. -/
theorem dictOf_spec (entries : List (String × α)) :
    ((dictOf entries).map (·.1)).Nodup ∧ ∀ m ∈ dictOf entries, m ∈ entries := by
  have hfold : ∀ members : List (String × α), (members.map (·.1)).Nodup →
      ((entries.foldl (fun members m => setItem members m.1 m.2) members).map (·.1)).Nodup ∧
        ∀ m ∈ entries.foldl (fun members m => setItem members m.1 m.2) members,
          m ∈ members ∨ m ∈ entries := by
    induction entries with
    | nil => exact fun members h => ⟨h, fun m hm => .inl hm⟩
    | cons n entries ih =>
        intro members h
        obtain ⟨hnodup, hmem⟩ := ih _ (@setItem_keys_nodup _ members n.1 n.2 h)
        refine ⟨hnodup, fun m hm => ?_⟩
        rcases hmem m hm with hm | hm
        · rcases mem_setItem hm with rfl | hm
          · exact .inr (List.mem_cons_self ..)
          · exact .inl hm
        · exact .inr (List.mem_cons_of_mem _ hm)
  obtain ⟨hnodup, hmem⟩ := hfold [] List.nodup_nil
  exact ⟨hnodup, fun m hm => (hmem m hm).resolve_left List.not_mem_nil⟩

end Dictionaries

/-! ### Texts -/

/-- White space in the sense of `str.isspace`. -/
def isStrSpace (c : Char) : Bool :=
  c = ' ' || (9 ≤ c.toNat && c.toNat ≤ 13) || (28 ≤ c.toNat && c.toNat ≤ 31) ||
    PyInt.isUnicodeSpace c

/-- `text.strip()`. -/
def strip (cs : List Char) : List Char :=
  ((cs.dropWhile isStrSpace).reverse.dropWhile isStrSpace).reverse

/-- The decimal digits of any script, which are what `\d` stands for in a pattern. -/
def isDecimalDigit (c : Char) : Bool :=
  isDecimal c || PyInt.digitZeros.any fun z => z ≤ c.toNat && c.toNat ≤ z + 9

/-- Unicode normalisation form C, changes of case, and the letters and digits of all
scripts. -/
structure UnicodeData where
  nfc : String → String
  upper : String → String
  lower : String → String
  isAlnum : Char → Bool
  nfc_ascii : ∀ s, IsAscii s.toList → nfc s = s
  upper_ascii : ∀ s, IsAscii s.toList → upper s = String.ofList (s.toList.map Char.toUpper)
  lower_ascii : ∀ s, IsAscii s.toList → lower s = String.ofList (s.toList.map Char.toLower)
  isAlnum_ascii : ∀ c, isAsciiChar c = true → isAlnum c = c.isAlphanum

/-! ### Libraries -/

/-- `uuid.uuid5`: the UUID of a name in a name space. -/
structure NameUuid where
  uuid5 : Uuid → String → Uuid

/-- The values that pydantic takes for a field of type `int`: integers, and whatever
else it reads as one. -/
structure LaxInt where
  parseInt : PyVal → Option Int
  parseInt_int : ∀ i, parseInt (.int i) = some i

/-- What the modelled code uses of libraries. -/
structure PyStd extends Sha256, UnicodeData, NameUuid, LaxInt

/-- Stand-ins that compute: the UUID of a text is its length in bytes, as its digest
is, only ASCII has letters, and booleans are integers. -/
def lengthStd : PyStd where
  toSha256 := lengthSha
  nfc s := s
  upper s := String.ofList (s.toList.map Char.toUpper)
  lower s := String.ofList (s.toList.map Char.toLower)
  isAlnum := Char.isAlphanum
  nfc_ascii _ _ := rfl
  upper_ascii _ _ := rfl
  lower_ascii _ _ := rfl
  isAlnum_ascii _ _ := rfl
  uuid5 _ name := ⟨Fin.ofNat _ name.utf8ByteSize⟩
  parseInt
    | .int i => some i
    | .bool b => some b.toInt
    | _ => none
  parseInt_int _ := rfl

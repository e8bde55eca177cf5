import Vrl.Lib.JsonValue
import Vrl.Lib.PyStd

/-!
# Vrl.Utils.Canonical

The canonical text that every hash of the server is taken over
(`utils/canonical.py`), together with the hashing and time helpers next to it
(`utils/hashing.py`, `utils/time.py`).

`canonicalize` turns a Python value into a JSON value: strings are normalised,
decimals become text, floats are refused, and members are visited in the order
of their keys. `canonicalJson` is the compact text of the result.
-/

open TextCodec

/-! ### Integers that are not written -/

namespace Json

/-- Python writes no integer with more digits than `sys.get_int_max_str_digits()` says. -/
def isLongInt (i : Int) : Bool := decide (10 ^ 4300 ≤ i.natAbs)

theorem isLongInt_eq_false {i : Int} {k : Nat} (h : i.natAbs < 10 ^ k) (hk : k ≤ 4300) :
    isLongInt i = false := by
  rw [isLongInt, decide_eq_false_iff_not, Nat.not_le]
  generalize 4300 = limit at hk ⊢
  exact h.trans_le (Nat.pow_le_pow_right (by decide) hk)

mutual
/-- An integer of the value is too long to be written. -/
def hasLongInt : Json → Bool
  | .int i => isLongInt i
  | .arr items => hasLongIntItems items
  | .obj members => hasLongIntMembers members
  | _ => false

def hasLongIntItems : List Json → Bool
  | [] => false
  | v :: vs => hasLongInt v || hasLongIntItems vs

def hasLongIntMembers : List (String × Json) → Bool
  | [] => false
  | (_, v) :: ms => hasLongInt v || hasLongIntMembers ms
end

theorem hasLongIntMembers_eq_any (ms : List (String × Json)) :
    hasLongIntMembers ms = ms.any fun m => m.2.hasLongInt := by
  induction ms with
  | nil => rfl
  | cons m ms ih => rw [hasLongIntMembers, ih, List.any_cons]

/-- The order of the members does not matter. -/
@[simp] theorem hasLongInt_sortMembers (ms : List (String × Json)) :
    (obj (sortMembers ms)).hasLongInt = hasLongIntMembers ms := by
  rw [hasLongInt, hasLongIntMembers_eq_any, hasLongIntMembers_eq_any]
  exact (List.perm_insertionSort _ ms).any_eq

end Json

namespace Vrl

/-! ### The canonical form -/

/-- The first failure among the members, in their order, or all of their values. -/
def sequenceMembers {ε α : Type} : List (String × Except ε α) → Except ε (List (String × α))
  | [] => .ok []
  | (k, v) :: ms => do
      let w ← v
      let rest ← sequenceMembers ms
      return (k, w) :: rest

variable (std : PyStd)

mutual
/-- `canonicalize`. Members are canonicalised in the order of their sorted keys,
so the first float met in that order is the one reported. -/
def canonicalize : PyVal → Except PyError Json
  | .none => .ok .null
  | .bool b => .ok (.bool b)
  | .int i => .ok (.int i)
  | .float repr =>
      .error ⟨.typeError, "Float values are not allowed in canonical payloads: " ++ repr⟩
  | .decimal d => .ok (.str (String.ofList d.plainText))
  | .uuid u => .ok (.str (String.ofList u.text))
  | .str s => .ok (.str (std.nfc s))
  | .list items => do return .arr (← canonicalizeItems items)
  | .dict members => do
      return .obj (← sequenceMembers (Json.sortMembers (canonicalizeMembers members)))

def canonicalizeItems : List PyVal → Except PyError (List Json)
  | [] => .ok []
  | v :: vs => do
      let w ← canonicalize v
      let rest ← canonicalizeItems vs
      return w :: rest

def canonicalizeMembers : List (String × PyVal) → List (String × Except PyError Json)
  | [] => []
  | (k, v) :: ms => (k, canonicalize v) :: canonicalizeMembers ms
end

/-- The `ValueError` of an integer that is too long. -/
def longIntError : PyError :=
  ⟨.valueError, "Exceeds the limit (4300 digits) for integer string conversion; " ++
    "use sys.set_int_max_str_digits() to increase the limit"⟩

/-- `canonical_json` of a value that is already canonical. -/
def dumpsCanonical (v : Json) : String := String.ofList (Json.sortedText asciiCode v)

/-- `canonical_json`. -/
def canonicalJson (value : PyVal) : Except PyError String := do
  return dumpsCanonical (← canonicalize std value)

theorem sequenceMembers_ok {ε α : Type} {ms : List (String × Except ε α)}
    (h : ∀ m ∈ ms, ∃ a, m.2 = .ok a) : ∃ l, sequenceMembers ms = .ok l := by
  induction ms with
  | nil => exact ⟨[], rfl⟩
  | cons m ms ih =>
      obtain ⟨a, ha⟩ := h m (List.mem_cons_self ..)
      obtain ⟨l, hl⟩ := ih fun m' hm' => h m' (List.mem_cons_of_mem _ hm')
      refine ⟨(m.1, a) :: l, ?_⟩
      rw [sequenceMembers, ha, hl]
      rfl

/-- Where all succeed, each does. -/
theorem forall_of_sequenceMembers {ε α : Type} {ms : List (String × Except ε α)}
    {l : List (String × α)} (h : sequenceMembers ms = .ok l) : ∀ m ∈ ms, ∃ a, m.2 = .ok a := by
  induction ms generalizing l with
  | nil => exact nofun
  | cons m ms ih =>
      rw [sequenceMembers] at h
      obtain ⟨a, ha, h⟩ := Except.bind_eq_ok_iff.mp h
      obtain ⟨rest, hrest, -⟩ := Except.bind_eq_ok_iff.mp h
      exact List.forall_mem_cons.mpr ⟨⟨a, ha⟩, ih hrest⟩

/-- Some value of all has a property if one of them has. -/
theorem any_of_sequenceMembers {ε α : Type} {p : α → Bool} {ms : List (String × Except ε α)}
    {l : List (String × α)} (h : sequenceMembers ms = .ok l) :
    (l.any fun m => p m.2) = ms.any fun m => m.2.toOption.any p := by
  induction ms generalizing l with
  | nil =>
      cases h
      rfl
  | cons m ms ih =>
      rw [sequenceMembers] at h
      obtain ⟨a, ha, h⟩ := Except.bind_eq_ok_iff.mp h
      obtain ⟨rest, hrest, h⟩ := Except.bind_eq_ok_iff.mp h
      cases h
      rw [List.any_cons, List.any_cons, ih hrest, ha]
      rfl

/-- The failure of all is the failure of one. -/
theorem exists_of_sequenceMembers_error {ε α : Type} {ms : List (String × Except ε α)} {e : ε}
    (h : sequenceMembers ms = .error e) : ∃ m ∈ ms, m.2 = .error e := by
  induction ms with
  | nil => cases h
  | cons m ms ih =>
      rw [sequenceMembers] at h
      rcases Except.bind_eq_error_iff.mp h with hm | ⟨a, -, h⟩
      · exact ⟨m, List.mem_cons_self .., hm⟩
      · rcases Except.bind_eq_error_iff.mp h with hrest | ⟨rest, -, h⟩
        · obtain ⟨m', hm', he⟩ := ih hrest
          exact ⟨m', List.mem_cons_of_mem _ hm', he⟩
        · cases h

theorem sequenceMembers_map_ok {ε α : Type} (ms : List (String × α)) :
    sequenceMembers (ms.map fun m => (m.1, (.ok m.2 : Except ε α))) = .ok ms := by
  induction ms with
  | nil => rfl
  | cons m ms ih =>
      rw [List.map_cons, sequenceMembers, ih]
      rfl

theorem canonicalizeMembers_eq_map (ms : List (String × PyVal)) :
    canonicalizeMembers std ms = ms.map fun m => (m.1, canonicalize std m.2) := by
  induction ms with
  | nil => rfl
  | cons m ms ih => rw [canonicalizeMembers, ih, List.map_cons]

section Forms

variable {std}

/-- A dictionary whose values have a canonical form. -/
theorem canonicalize_dict_of_members {members : List (String × PyVal)} {texts : List (String × Json)}
    (h : canonicalizeMembers std members = texts.map fun m => (m.1, .ok m.2)) :
    canonicalize std (.dict members) = .ok (.obj (Json.sortMembers texts)) := by
  rw [canonicalize, h, JsonValue.sortMembers_map (Except.ok (ε := PyError)),
    sequenceMembers_map_ok]
  rfl

/-- So has a list whose elements have one. -/
theorem canonicalizeItems_map {α : Type} {f : α → PyVal} {g : α → Json} (items : List α)
    (h : ∀ a, canonicalize std (f a) = .ok (g a)) :
    canonicalizeItems std (items.map f) = .ok (items.map g) := by
  induction items with
  | nil => rfl
  | cons a items ih =>
      rw [List.map_cons, canonicalizeItems, h, ih]
      rfl

end Forms

theorem mem_canonicalizeMembers {ms : List (String × PyVal)} {k : String}
    {v : Except PyError Json} (h : (k, v) ∈ canonicalizeMembers std ms) :
    ∃ w, (k, w) ∈ ms ∧ v = canonicalize std w := by
  induction ms with
  | nil => cases h
  | cons m ms ih =>
      obtain ⟨k', w⟩ := m
      rcases List.mem_cons.mp h with heq | h
      · cases heq
        exact ⟨w, List.mem_cons_self .., rfl⟩
      · obtain ⟨w, hw, hv⟩ := ih h
        exact ⟨w, List.mem_cons_of_mem _ hw, hv⟩

/-- A dictionary has a canonical form when each of its values has one. -/
theorem canonicalize_dict_ok {ms : List (String × PyVal)}
    (h : ∀ k v, (k, v) ∈ ms → ∃ j, canonicalize std v = .ok j) :
    ∃ j, canonicalize std (.dict ms) = .ok j := by
  have hall : ∀ m ∈ Json.sortMembers (canonicalizeMembers std ms), ∃ j, m.2 = .ok j := by
    intro m hm
    obtain ⟨w, hw, hv⟩ := mem_canonicalizeMembers std (Json.mem_sortMembers.mp hm)
    obtain ⟨j, hj⟩ := h _ _ hw
    exact ⟨j, hv.trans hj⟩
  obtain ⟨l, hl⟩ := sequenceMembers_ok hall
  refine ⟨.obj l, ?_⟩
  rw [canonicalize, hl]
  rfl

theorem canonicalJson_dict_ok {ms : List (String × PyVal)}
    (h : ∀ k v, (k, v) ∈ ms → ∃ j, canonicalize std v = .ok j) :
    ∃ s, canonicalJson std (.dict ms) = .ok s := by
  obtain ⟨j, hj⟩ := canonicalize_dict_ok std h
  refine ⟨dumpsCanonical j, ?_⟩
  rw [canonicalJson, hj]
  rfl

/-! ### Values without floats -/

mutual
/-- No float occurs in the value. -/
def floatFree : PyVal → Bool
  | .float _ => false
  | .list items => floatFreeItems items
  | .dict members => floatFreeMembers members
  | _ => true

def floatFreeItems : List PyVal → Bool
  | [] => true
  | v :: vs => floatFree v && floatFreeItems vs

def floatFreeMembers : List (String × PyVal) → Bool
  | [] => true
  | (_, v) :: ms => floatFree v && floatFreeMembers ms
end

theorem floatFreeItems_iff {items : List PyVal} :
    floatFreeItems items = true ↔ ∀ v ∈ items, floatFree v = true := by
  induction items with
  | nil => simp [floatFreeItems]
  | cons v vs ih => simp [floatFreeItems, ih]

theorem floatFreeMembers_iff {members : List (String × PyVal)} :
    floatFreeMembers members = true ↔ ∀ m ∈ members, floatFree m.2 = true := by
  induction members with
  | nil => simp [floatFreeMembers]
  | cons m ms ih => simp [floatFreeMembers, ih]

theorem floatFreeMembers_append (ms ns : List (String × PyVal)) :
    floatFreeMembers (ms ++ ns) = (floatFreeMembers ms && floatFreeMembers ns) := by
  induction ms with
  | nil => rfl
  | cons m ms ih => rw [List.cons_append, floatFreeMembers, floatFreeMembers, ih, Bool.and_assoc]

mutual
/-- Floats are all that the canonical form refuses. -/
theorem canonicalize_ok : ∀ {v : PyVal}, floatFree v = true → ∃ j, canonicalize std v = .ok j
  | .none, _ | .bool _, _ | .int _, _ | .decimal _, _ | .uuid _, _ | .str _, _ => ⟨_, rfl⟩
  | .float _, h => by cases h
  | .list items, h => by
      have hitems : floatFreeItems items = true := h
      obtain ⟨js, hjs⟩ := canonicalizeItems_ok hitems
      exact ⟨.arr js, by rw [canonicalize, hjs]; rfl⟩
  | .dict members, h => by
      have hmembers : floatFreeMembers members = true := h
      exact canonicalize_dict_ok std (canonicalizeMembers_ok hmembers)

theorem canonicalizeItems_ok : ∀ {items : List PyVal}, floatFreeItems items = true →
    ∃ js, canonicalizeItems std items = .ok js
  | [], _ => ⟨[], rfl⟩
  | v :: vs, h => by
      rw [floatFreeItems, Bool.and_eq_true] at h
      obtain ⟨j, hj⟩ := canonicalize_ok h.1
      obtain ⟨js, hjs⟩ := canonicalizeItems_ok h.2
      exact ⟨j :: js, by rw [canonicalizeItems, hj, hjs]; rfl⟩

theorem canonicalizeMembers_ok : ∀ {members : List (String × PyVal)},
    floatFreeMembers members = true → ∀ k v, (k, v) ∈ members → ∃ j, canonicalize std v = .ok j
  | [], _, _, _, hkv => by cases hkv
  | (k', w) :: ms, h, k, v, hkv => by
      rw [floatFreeMembers, Bool.and_eq_true] at h
      rcases List.mem_cons.mp hkv with heq | hkv
      · cases heq
        exact canonicalize_ok h.1
      · exact canonicalizeMembers_ok h.2 k v hkv
end

mutual
/-- A value that has a canonical form has no float. -/
theorem floatFree_of_canonicalize : ∀ {v : PyVal} {j : Json}, canonicalize std v = .ok j →
    floatFree v = true
  | .none, _, _ | .bool _, _, _ | .int _, _, _ | .decimal _, _, _ | .uuid _, _, _ | .str _, _, _ =>
      rfl
  | .float _, _, h => by cases h
  | .list items, _, h => by
      obtain ⟨js, hjs, -⟩ := Except.bind_eq_ok_iff.mp h
      exact floatFreeItems_of_canonicalize hjs
  | .dict members, _, h => by
      obtain ⟨l, hl, -⟩ := Except.bind_eq_ok_iff.mp h
      have hall := forall_of_sequenceMembers hl
      exact floatFreeMembers_of_canonicalize fun m hm => hall m (Json.mem_sortMembers.mpr hm)

theorem floatFreeItems_of_canonicalize : ∀ {items : List PyVal} {js : List Json},
    canonicalizeItems std items = .ok js → floatFreeItems items = true
  | [], _, _ => rfl
  | v :: vs, _, h => by
      rw [canonicalizeItems] at h
      obtain ⟨j, hj, h⟩ := Except.bind_eq_ok_iff.mp h
      obtain ⟨js, hjs, -⟩ := Except.bind_eq_ok_iff.mp h
      rw [floatFreeItems, floatFree_of_canonicalize hj, floatFreeItems_of_canonicalize hjs]
      rfl

theorem floatFreeMembers_of_canonicalize : ∀ {members : List (String × PyVal)},
    (∀ m ∈ canonicalizeMembers std members, ∃ j, m.2 = .ok j) → floatFreeMembers members = true
  | [], _ => rfl
  | (k, v) :: ms, h => by
      rw [canonicalizeMembers, List.forall_mem_cons] at h
      have hv : ∃ j, canonicalize std v = .ok j := h.1
      obtain ⟨j, hj⟩ := hv
      rw [floatFreeMembers, floatFree_of_canonicalize hj, floatFreeMembers_of_canonicalize h.2]
      rfl
end

mutual
/-- All that is raised for a value without a canonical form is a `TypeError`. -/
theorem kind_of_canonicalize : ∀ {v : PyVal} {e : PyError}, canonicalize std v = .error e →
    e.kind = .typeError
  | .none, _, h | .bool _, _, h | .int _, _, h | .decimal _, _, h | .uuid _, _, h | .str _, _, h => by
      cases h
  | .float _, _, h => by
      cases h
      rfl
  | .list items, e, h => by
      rw [canonicalize] at h
      rcases Except.bind_eq_error_iff.mp h with hitems | ⟨js, -, h⟩
      · exact kind_of_canonicalizeItems hitems
      · cases h
  | .dict members, e, h => by
      rw [canonicalize] at h
      rcases Except.bind_eq_error_iff.mp h with hmembers | ⟨l, -, h⟩
      · obtain ⟨m, hm, he⟩ := exists_of_sequenceMembers_error hmembers
        exact kind_of_canonicalizeMembers m (Json.mem_sortMembers.mp hm) _ he
      · cases h

theorem kind_of_canonicalizeItems : ∀ {items : List PyVal} {e : PyError},
    canonicalizeItems std items = .error e → e.kind = .typeError
  | [], _, h => by cases h
  | v :: vs, e, h => by
      rw [canonicalizeItems] at h
      rcases Except.bind_eq_error_iff.mp h with hv | ⟨j, -, h⟩
      · exact kind_of_canonicalize hv
      · rcases Except.bind_eq_error_iff.mp h with hvs | ⟨js, -, h⟩
        · exact kind_of_canonicalizeItems hvs
        · cases h

theorem kind_of_canonicalizeMembers : ∀ {members : List (String × PyVal)},
    ∀ m ∈ canonicalizeMembers std members, ∀ e, m.2 = .error e → e.kind = .typeError
  | [], m, hm, _, _ => by cases hm
  | (k, v) :: ms, m, hm, e, he => by
      rw [canonicalizeMembers] at hm
      rcases List.mem_cons.mp hm with rfl | hm
      · exact kind_of_canonicalize he
      · exact kind_of_canonicalizeMembers m hm e he
end

/-! ### Values without long integers -/

mutual
/-- An integer of the value is too long to be written. -/
def hasLongInt : PyVal → Bool
  | .int i => Json.isLongInt i
  | .list items => hasLongIntItems items
  | .dict members => hasLongIntMembers members
  | _ => false

def hasLongIntItems : List PyVal → Bool
  | [] => false
  | v :: vs => hasLongInt v || hasLongIntItems vs

def hasLongIntMembers : List (String × PyVal) → Bool
  | [] => false
  | (_, v) :: ms => hasLongInt v || hasLongIntMembers ms
end

theorem hasLongIntItems_eq_any (items : List PyVal) :
    hasLongIntItems items = items.any hasLongInt := by
  induction items with
  | nil => rfl
  | cons v vs ih => rw [hasLongIntItems, ih, List.any_cons]

theorem hasLongIntMembers_eq_any (ms : List (String × PyVal)) :
    hasLongIntMembers ms = ms.any fun m => hasLongInt m.2 := by
  induction ms with
  | nil => rfl
  | cons m ms ih => rw [hasLongIntMembers, ih, List.any_cons]

mutual
/-- The canonical form has the integers of the value. -/
theorem hasLongInt_canonicalize : ∀ {v : PyVal} {j : Json}, canonicalize std v = .ok j →
    j.hasLongInt = hasLongInt v
  | .none, _, h | .bool _, _, h | .int _, _, h | .decimal _, _, h | .uuid _, _, h | .str _, _, h => by
      cases h
      rfl
  | .float _, _, h => by cases h
  | .list items, _, h => by
      obtain ⟨js, hjs, h⟩ := Except.bind_eq_ok_iff.mp h
      cases h
      exact hasLongIntItems_canonicalize hjs
  | .dict members, _, h => by
      obtain ⟨l, hl, h⟩ := Except.bind_eq_ok_iff.mp h
      cases h
      have hall := forall_of_sequenceMembers hl
      have hsorted : (Json.sortMembers (canonicalizeMembers std members)).Perm
          (canonicalizeMembers std members) := List.perm_insertionSort _ _
      show Json.hasLongIntMembers l = hasLongIntMembers members
      rw [Json.hasLongIntMembers_eq_any, any_of_sequenceMembers hl, hsorted.any_eq]
      exact hasLongIntMembers_canonicalize fun m hm => hall m (hsorted.mem_iff.mpr hm)

theorem hasLongIntItems_canonicalize : ∀ {items : List PyVal} {js : List Json},
    canonicalizeItems std items = .ok js → Json.hasLongIntItems js = hasLongIntItems items
  | [], _, h => by
      cases h
      rfl
  | v :: vs, _, h => by
      rw [canonicalizeItems] at h
      obtain ⟨j, hj, h⟩ := Except.bind_eq_ok_iff.mp h
      obtain ⟨js, hjs, h⟩ := Except.bind_eq_ok_iff.mp h
      cases h
      rw [hasLongIntItems, ← hasLongInt_canonicalize hj, ← hasLongIntItems_canonicalize hjs]
      rfl

theorem hasLongIntMembers_canonicalize : ∀ {members : List (String × PyVal)},
    (∀ m ∈ canonicalizeMembers std members, ∃ j, m.2 = .ok j) →
      ((canonicalizeMembers std members).any fun m => m.2.toOption.any Json.hasLongInt) =
        hasLongIntMembers members
  | [], _ => rfl
  | (k, v) :: ms, h => by
      rw [canonicalizeMembers, List.forall_mem_cons] at h
      have hv : ∃ j, canonicalize std v = .ok j := h.1
      obtain ⟨j, hj⟩ := hv
      rw [canonicalizeMembers, List.any_cons, hasLongIntMembers_canonicalize h.2,
        hasLongIntMembers, ← hasLongInt_canonicalize hj, hj]
      rfl
end

theorem dumpsCanonical_toList (v : Json) :
    (dumpsCanonical v).toList = Json.sortedText asciiCode v := by
  rw [dumpsCanonical, String.toList_ofList]

theorem dumpsCanonical_isAscii (v : Json) : IsAscii (dumpsCanonical v).toList := by
  rw [dumpsCanonical_toList]
  exact Json.text_isAscii _

/-- Equal canonical texts come from values equal up to the order of members. -/
theorem sortKeys_eq_of_dumpsCanonical_eq {v w : Json} (h : dumpsCanonical v = dumpsCanonical w) :
    Json.sortKeys v = Json.sortKeys w := by
  refine Json.sortKeys_eq_of_sortedText_eq asciiCode ?_
  rw [← dumpsCanonical_toList, h, dumpsCanonical_toList]

/-- Canonical texts are equal exactly if the values are, up to the order of members. -/
theorem dumpsCanonical_eq_iff {v w : Json} :
    dumpsCanonical v = dumpsCanonical w ↔ Json.sortKeys v = Json.sortKeys w := by
  constructor
  · exact sortKeys_eq_of_dumpsCanonical_eq
  · intro h
    rw [dumpsCanonical, dumpsCanonical, Json.sortedText, Json.sortedText, h]

mutual
/-- All that the canonical form needs to know is how strings are normalised. -/
theorem canonicalize_congr {std std' : PyStd} (h : std.nfc = std'.nfc) :
    ∀ v : PyVal, canonicalize std v = canonicalize std' v
  | .none | .bool _ | .int _ | .float _ | .decimal _ | .uuid _ => by simp only [canonicalize]
  | .str s => by rw [canonicalize, canonicalize, h]
  | .list items => by rw [canonicalize, canonicalize, canonicalizeItems_congr h items]
  | .dict members => by rw [canonicalize, canonicalize, canonicalizeMembers_congr h members]

theorem canonicalizeItems_congr {std std' : PyStd} (h : std.nfc = std'.nfc) :
    ∀ items : List PyVal, canonicalizeItems std items = canonicalizeItems std' items
  | [] => rfl
  | v :: vs => by
      rw [canonicalizeItems, canonicalizeItems, canonicalize_congr h v, canonicalizeItems_congr h vs]

theorem canonicalizeMembers_congr {std std' : PyStd} (h : std.nfc = std'.nfc) :
    ∀ members : List (String × PyVal),
      canonicalizeMembers std members = canonicalizeMembers std' members
  | [] => rfl
  | (k, v) :: ms => by
      rw [canonicalizeMembers, canonicalizeMembers, canonicalize_congr h v,
        canonicalizeMembers_congr h ms]
end

/-! ### Hashing and time -/

/-- `sha256_hex` of a text. -/
def sha256Hex (value : String) : String := std.hexdigest value

/-- `sha256_hex(canonical_json(value))`. -/
def canonicalHash (value : PyVal) : Except PyError String := do
  return sha256Hex std (← canonicalJson std value)

/-- The hash of a value is the digest of a text. -/
theorem exists_of_canonicalHash {value : PyVal} {hash : String}
    (h : canonicalHash std value = .ok hash) : ∃ text, hash = std.hexdigest text := by
  obtain ⟨text, -, h⟩ := Except.bind_eq_ok_iff.mp h
  cases h
  exact ⟨text, rfl⟩

theorem isAscii_of_canonicalHash {value : PyVal} {hash : String}
    (h : canonicalHash std value = .ok hash) : IsAscii hash.toList := by
  obtain ⟨text, rfl⟩ := exists_of_canonicalHash std h
  exact std.isAscii_hexdigest text

theorem canonicalHash_of_canonicalize {value : PyVal} {j : Json}
    (h : canonicalize std value = .ok j) :
    canonicalHash std value = .ok (std.hexdigest (dumpsCanonical j)) := by
  rw [canonicalHash, canonicalJson, h]
  rfl

theorem canonicalHash_ok {value : PyVal} (h : floatFree value = true) :
    ∃ hash, canonicalHash std value = .ok hash := by
  obtain ⟨j, hj⟩ := canonicalize_ok std h
  exact ⟨_, canonicalHash_of_canonicalize std hj⟩

/-- `canonical_json`, which raises at an integer that is too long. -/
def checkedCanonicalJson (value : PyVal) : Except PyError String := do
  let json ← canonicalize std value
  if json.hasLongInt then .error longIntError else return dumpsCanonical json

theorem checkedCanonicalJson_eq_ok_iff {value : PyVal} {text : String} :
    checkedCanonicalJson std value = .ok text ↔
      canonicalJson std value = .ok text ∧ hasLongInt value = false := by
  rw [checkedCanonicalJson, canonicalJson]
  cases hjson : canonicalize std value with
  | error e => exact iff_of_false nofun nofun
  | ok json =>
      simp only [Except.ok_bind, ← hasLongInt_canonicalize std hjson]
      cases json.hasLongInt with
      | true => exact iff_of_false nofun nofun
      | false => exact (and_iff_left rfl).symm

/-- What can be written are the values without floats and without long integers. -/
theorem checkedCanonicalJson_ok_iff {value : PyVal} :
    (∃ text, checkedCanonicalJson std value = .ok text) ↔
      floatFree value = true ∧ hasLongInt value = false := by
  simp only [checkedCanonicalJson_eq_ok_iff, exists_and_right]
  refine and_congr_left fun _ => ⟨?_, ?_⟩
  · intro ⟨text, htext⟩
    obtain ⟨json, hjson, -⟩ := Except.bind_eq_ok_iff.mp htext
    exact floatFree_of_canonicalize std hjson
  · intro hfree
    obtain ⟨json, hjson⟩ := canonicalize_ok std hfree
    exact ⟨dumpsCanonical json, by rw [canonicalJson, hjson]; rfl⟩

/-- `constant_time_equal`. -/
def constantTimeEqual (left right : String) : Except PyError Bool := compareDigest left right

theorem constantTimeEqual_of_canonicalHash {value : PyVal} {hash : String}
    (h : canonicalHash std value = .ok hash) : constantTimeEqual hash hash = .ok true :=
  compareDigest_self (isAscii_of_canonicalHash std h)

/-- `utc_isoformat`: the instant in UTC, to the second. -/
def utcIsoformat (value : DateTime) : Except PyError String := do
  return String.ofList (isoSeconds (← value.toUtc))

theorem utcIsoformat_isAscii {t : DateTime} {s : String} (h : utcIsoformat t = .ok s) :
    IsAscii s.toList := by
  obtain ⟨utc, -, hs⟩ := Except.bind_eq_ok_iff.mp h
  cases hs
  rw [String.toList_ofList]
  exact isoSeconds_isAscii utc

end Vrl

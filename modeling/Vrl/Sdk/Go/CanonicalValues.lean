import Vrl.Lib.Binary64
import Vrl.Lib.GoJsonReader
import Vrl.Lib.JsonNumbers
import Vrl.Sdk.Go.Bundle

/-!
# Vrl.Sdk.Go.CanonicalValues

`CanonicalJSON` of the Go SDK (`sdk/go/vrl/hashing.go`) for values with numbers.

A value is marshalled, unmarshalled into a generic one and marshalled again. The generic
value has a `float64` for every number, so integers beyond `2 ^ 53` are rounded on the
way, and the reader refuses what is nested more than 10000 deep. Otherwise the text
determines the value (**`canonicalJson_faithful_iff`**).
-/

open TextCodec Binary64

namespace Vrl.Sdk.Go

/-! ### Values -/

/-- A `float64` that is an integer. -/
structure IntegralFloat where
  value : Int
  inFormat : nearest value = value

/-- A value of type `interface{}`. A nil slice or map is marshalled as `nil` is, which
stands for them. -/
inductive GoValue where
  | nil
  | bool (b : Bool)
  | string (s : String)
  | int64 (i : Int64)
  | float64 (x : IntegralFloat)
  | slice (items : List GoValue)
  | map (members : List (String × GoValue))

namespace GoValue

mutual
/-- The JSON value that `json.Marshal` writes. A `float64` below `10 ^ 21` is written without
an exponent, as the shortest decimal that is read back as it. -/
def toJson : GoValue → Json
  | .nil => .null
  | .bool b => .bool b
  | .string s => .str s
  | .int64 i => .int i.toInt
  | .float64 x => .int (shortest x.value)
  | .slice items => .arr (toJsonItems items)
  | .map members => .obj (toJsonMembers members)

def toJsonItems : List GoValue → List Json
  | [] => []
  | v :: vs => toJson v :: toJsonItems vs

def toJsonMembers : List (String × GoValue) → List (String × Json)
  | [] => []
  | (k, v) :: ms => (k, toJson v) :: toJsonMembers ms
end

mutual
/-- The generic value that `json.Unmarshal` makes of a JSON value. -/
def ofJson : Json → GoValue
  | .null => .nil
  | .bool b => .bool b
  | .int i => .float64 ⟨nearest i, nearest_nearest i⟩
  | .str s => .string s
  | .arr items => .slice (ofJsonItems items)
  | .obj members => .map (ofJsonMembers members)

def ofJsonItems : List Json → List GoValue
  | [] => []
  | v :: vs => ofJson v :: ofJsonItems vs

def ofJsonMembers : List (String × Json) → List (String × GoValue)
  | [] => []
  | (k, v) :: ms => (k, ofJson v) :: ofJsonMembers ms
end

mutual
/-- No number of a value is a `float64`. -/
def FloatFree : GoValue → Prop
  | .nil | .bool _ | .string _ | .int64 _ => True
  | .float64 _ => False
  | .slice items => FloatFreeItems items
  | .map members => FloatFreeMembers members

def FloatFreeItems : List GoValue → Prop
  | [] => True
  | v :: vs => FloatFree v ∧ FloatFreeItems vs

def FloatFreeMembers : List (String × GoValue) → Prop
  | [] => True
  | (_, v) :: ms => FloatFree v ∧ FloatFreeMembers ms
end

end GoValue

/-- A value built from nil, booleans, strings, integers, slices and maps. No map has a key
twice. -/
structure GoData where
  value : GoValue
  floatFree : value.FloatFree
  keysDistinct : value.toJson.KeysDistinct

/-- The JSON value of a Go value. -/
def GoData.json (x : GoData) : Json := x.value.toJson

/-! ### `CanonicalJSON` -/

/-- `json.Marshal`, which sorts the keys of maps. -/
def marshal (v : GoValue) : List Char := Json.sortedText htmlSafeCode v.toJson

/-- `maxNestingDepth` of `encoding/json`. -/
def maxNestingDepth : Nat := 10000

/-- `json.Unmarshal` into an `interface{}`, of what `json.Marshal` wrote. -/
def unmarshal (b : List Char) : Option GoValue :=
  (GoJson.read htmlSafeCode maxNestingDepth b).map GoValue.ofJson

/-- Texts with commas between them. -/
def commaJoin : List (List Char) → List Char
  | [] => []
  | [s] => s
  | s :: t :: ts => s ++ ',' :: commaJoin (t :: ts)

mutual
/-- `marshalCanonical`. The last case is for values that are not generic. -/
def marshalCanonical : GoValue → List Char
  | .map members =>
      '{' :: (commaJoin ((Json.sortMembers (marshalMembers members)).map fun (k, s) =>
        htmlSafeCode.quoted k ++ ':' :: s) ++ ['}'])
  | .slice items => '[' :: (commaJoin (marshalItems items) ++ [']'])
  | .nil => ['n', 'u', 'l', 'l']
  | .bool true => ['t', 'r', 'u', 'e']
  | .bool false => ['f', 'a', 'l', 's', 'e']
  | .string s => marshal (.string s)
  | .float64 x => marshal (.float64 x)
  | .int64 i => marshal (.int64 i)

def marshalItems : List GoValue → List (List Char)
  | [] => []
  | v :: vs => marshalCanonical v :: marshalItems vs

def marshalMembers : List (String × GoValue) → List (String × List Char)
  | [] => []
  | (k, v) :: ms => (k, marshalCanonical v) :: marshalMembers ms
end

/-- `CanonicalJSON`, unless it returns an error. -/
def GoValue.canonicalJson (v : GoValue) : Option String := do
  let obj ← unmarshal (marshal v)
  return String.ofList (marshalCanonical obj)

/-! ### The recursion of `marshalCanonical` -/

theorem commaJoin_cons_cons (s t : List Char) (ts : List (List Char)) :
    commaJoin (s :: t :: ts) = s ++ ',' :: commaJoin (t :: ts) := rfl

theorem itemsText_eq_commaJoin (code : StringCode) (vs : List Json) :
    Json.itemsText code vs = commaJoin (vs.map (Json.text code)) ++ [']'] := by
  induction vs with
  | nil => rfl
  | cons v vs ih =>
      cases vs with
      | nil => rw [Json.itemsText, List.map_cons, List.map_nil, commaJoin]
      | cons w vs =>
          rw [Json.itemsText, ih]
          simp only [List.map_cons, commaJoin_cons_cons, List.append_assoc, List.cons_append]

theorem membersText_eq_commaJoin (code : StringCode) (ms : List (String × Json)) :
    Json.membersText code ms =
      commaJoin (ms.map fun m => code.quoted m.1 ++ ':' :: Json.text code m.2) ++ ['}'] := by
  induction ms with
  | nil => rfl
  | cons m ms ih =>
      obtain ⟨k, v⟩ := m
      cases ms with
      | nil =>
          rw [Json.membersText, List.map_cons, List.map_nil, commaJoin, List.append_assoc,
            List.cons_append]
      | cons n ms =>
          rw [Json.membersText, ih]
          simp only [List.map_cons, commaJoin_cons_cons, List.append_assoc, List.cons_append]

mutual
/-- `marshalCanonical` writes what `json.Marshal` does. -/
theorem marshalCanonical_eq_marshal : ∀ v : GoValue, marshalCanonical v = marshal v
  | .nil => rfl
  | .bool true => rfl
  | .bool false => rfl
  | .string _ | .int64 _ | .float64 _ => by rw [marshalCanonical]
  | .slice vs => by
      rw [marshalCanonical, marshalItems_eq_map vs, marshal, Json.sortedText, GoValue.toJson,
        Json.sortKeys, Json.text, itemsText_eq_commaJoin]
  | .map ms => by
      rw [marshalCanonical, marshalMembers_eq_map ms, JsonValue.sortMembers_map, List.map_map,
        marshal, Json.sortedText, GoValue.toJson, Json.sortKeys, Json.text,
        membersText_eq_commaJoin]
      rfl

theorem marshalItems_eq_map : ∀ vs : List GoValue, marshalItems vs =
    (Json.sortKeysItems (GoValue.toJsonItems vs)).map (Json.text htmlSafeCode)
  | [] => rfl
  | v :: vs => by
      rw [marshalItems, marshalCanonical_eq_marshal v, marshalItems_eq_map vs,
        GoValue.toJsonItems, Json.sortKeysItems, List.map_cons, marshal, Json.sortedText]

theorem marshalMembers_eq_map : ∀ ms : List (String × GoValue), marshalMembers ms =
    (Json.sortKeysMembers (GoValue.toJsonMembers ms)).map fun m =>
      (m.1, Json.text htmlSafeCode m.2)
  | [] => rfl
  | (k, v) :: ms => by
      rw [marshalMembers, marshalCanonical_eq_marshal v, marshalMembers_eq_map ms,
        GoValue.toJsonMembers, Json.sortKeysMembers, List.map_cons, marshal, Json.sortedText]
end

/-! ### What is written in the end -/

/-- An integer after its way through a `float64`. -/
def reencode (i : Int) : Int := shortest (nearest i)

mutual
/-- Unmarshalling keeps all of a value but its numbers. -/
theorem toJson_ofJson : ∀ v : Json, (GoValue.ofJson v).toJson = Json.mapInts reencode v
  | .null | .bool _ | .str _ => by rw [GoValue.ofJson, GoValue.toJson, Json.mapInts]
  | .int i => by
      rw [GoValue.ofJson, GoValue.toJson, Json.mapInts]
      rfl
  | .arr vs => by rw [GoValue.ofJson, GoValue.toJson, Json.mapInts, toJsonItems_ofJsonItems vs]
  | .obj ms => by
      rw [GoValue.ofJson, GoValue.toJson, Json.mapInts, toJsonMembers_ofJsonMembers ms]

theorem toJsonItems_ofJsonItems : ∀ vs : List Json,
    GoValue.toJsonItems (GoValue.ofJsonItems vs) = Json.mapIntsItems reencode vs
  | [] => rfl
  | v :: vs => by
      rw [GoValue.ofJsonItems, GoValue.toJsonItems, Json.mapIntsItems, toJson_ofJson v,
        toJsonItems_ofJsonItems vs]

theorem toJsonMembers_ofJsonMembers : ∀ ms : List (String × Json),
    GoValue.toJsonMembers (GoValue.ofJsonMembers ms) = Json.mapIntsMembers reencode ms
  | [] => rfl
  | (k, v) :: ms => by
      rw [GoValue.ofJsonMembers, GoValue.toJsonMembers, Json.mapIntsMembers, toJson_ofJson v,
        toJsonMembers_ofJsonMembers ms]
end

/-- The text is that of the value with its integers rounded. A value that is nested too
deeply is written, but not read again. -/
theorem canonicalJson_eq {v : GoValue} (hv : v.toJson.KeysDistinct) :
    v.canonicalJson =
      if v.toJson.depth ≤ maxNestingDepth then
        some (String.ofList (Json.sortedText htmlSafeCode (Json.mapInts reencode v.toJson)))
      else none := by
  rw [GoValue.canonicalJson, unmarshal, marshal, Json.sortedText,
    GoJson.read_text (Json.keysDistinct_sortKeys hv), Json.depth_sortKeys]
  split_ifs
  · rw [Option.map_some]
    show some (String.ofList (marshalCanonical _)) = _
    rw [marshalCanonical_eq_marshal, marshal, toJson_ofJson, Json.sortedText, Json.sortedText,
      Json.sortKeys_mapInts, Json.sortKeys_mapInts, Json.sortKeys_sortKeys]
  · rfl

/-- Without numbers nothing is lost. -/
theorem canonicalJson_of_intFree {v : GoValue} (hv : v.toJson.KeysDistinct)
    (hdepth : v.toJson.depth ≤ maxNestingDepth) (hints : v.toJson.ints = []) :
    v.canonicalJson = some (canonicalJson v.toJson) := by
  have hself : Json.mapInts reencode v.toJson = v.toJson := by
    refine Json.mapInts_eq_self reencode ?_
    rw [hints]
    exact List.forall_mem_nil _
  rw [canonicalJson_eq hv, if_pos hdepth, hself, canonicalJson]

/-! ### Faithfulness -/

/-- Two values that differ in integers only, and in none beyond rounding: they are the same
once every integer is the nearest `float64`. -/
def CollideAsFloats (x y : GoData) : Prop :=
  ¬ Json.Same x.json y.json ∧
    Json.Same (Json.mapInts nearest x.json) (Json.mapInts nearest y.json)

namespace GoData

variable (x y : GoData)

/-- `CanonicalJSON`. -/
def canonicalJson : Option String := x.value.canonicalJson

/-- The text that is written in the end. -/
def roundedText : String :=
  String.ofList (Json.sortedText htmlSafeCode (Json.mapInts reencode x.json))

theorem canonicalJson_eq_some_iff {s : String} :
    x.canonicalJson = some s ↔ x.json.depth ≤ maxNestingDepth ∧ x.roundedText = s := by
  rw [canonicalJson, canonicalJson_eq x.keysDistinct]
  show (if x.json.depth ≤ maxNestingDepth then some x.roundedText else none) = some s ↔ _
  split_ifs with h
  · rw [Option.some_inj, and_iff_right h]
  · exact iff_of_false nofun fun hs => h hs.1

/-- Texts are the same if the values are up to rounding. -/
theorem roundedText_eq_iff : x.roundedText = y.roundedText ↔
    Json.Same (Json.mapInts nearest x.json) (Json.mapInts nearest y.json) := by
  have hx := Json.keysDistinct_mapInts reencode x.keysDistinct
  have hy := Json.keysDistinct_mapInts reencode y.keysDistinct
  have hreencode : nearest = nearest ∘ reencode := funext fun i => (nearest_shortest i).symm
  rw [roundedText, roundedText, String.ofList_inj]
  exact (Json.sortedText_eq_iff htmlSafeCode hx hy).trans
    (Json.same_mapInts_iff ⟨shortest, rfl⟩ ⟨nearest, hreencode⟩ x.keysDistinct y.keysDistinct)

/-- Equal values have one text. -/
theorem roundedText_eq_of_same (h : Json.Same x.json y.json) : x.roundedText = y.roundedText :=
  (roundedText_eq_iff x y).mpr (Json.same_mapInts nearest x.keysDistinct y.keysDistinct h)

end GoData

/-- Values whose integers are at most `2 ^ 53` do not collide. -/
theorem not_collideAsFloats {x y : GoData} (hx : ∀ i ∈ x.json.ints, i.natAbs ≤ 2 ^ 53)
    (hy : ∀ i ∈ y.json.ints, i.natAbs ≤ 2 ^ 53) : ¬ CollideAsFloats x y := by
  rintro ⟨hne, hrounded⟩
  rw [Json.mapInts_eq_self nearest fun i hi => nearest_of_le (hx i hi),
    Json.mapInts_eq_self nearest fun i hi => nearest_of_le (hy i hi)] at hrounded
  exact hne hrounded

/-- **`CanonicalJSON` is faithful on two values exactly if they are not nested more than
10000 deep, and do not differ in rounded digits alone.** -/
theorem canonicalJson_faithful_iff (x y : GoData) :
    (∃ s t, x.canonicalJson = some s ∧ y.canonicalJson = some t ∧
      (s = t ↔ Json.Same x.json y.json)) ↔
      x.json.depth ≤ maxNestingDepth ∧ y.json.depth ≤ maxNestingDepth ∧
        ¬ CollideAsFloats x y := by
  simp only [GoData.canonicalJson_eq_some_iff]
  constructor
  · rintro ⟨s, t, ⟨hx, rfl⟩, ⟨hy, rfl⟩, hfaithful⟩
    refine ⟨hx, hy, ?_⟩
    rintro ⟨hne, hrounded⟩
    exact hne (hfaithful.mp ((GoData.roundedText_eq_iff x y).mpr hrounded))
  · rintro ⟨hx, hy, hcollide⟩
    refine ⟨_, _, ⟨hx, rfl⟩, ⟨hy, rfl⟩, ?_, GoData.roundedText_eq_of_same x y⟩
    intro htext
    by_contra hne
    exact hcollide ⟨hne, (GoData.roundedText_eq_iff x y).mp htext⟩

/-- A value that is one integer. -/
def oneInteger (i : Int64) : GoData where
  value := .int64 i
  floatFree := trivial
  keysDistinct := trivial

/-- Two integers beyond `2 ^ 53` share an encoding. -/
theorem canonicalJson_of_adjacent :
    (oneInteger 9007199254740992).canonicalJson = some "9007199254740992" ∧
      (oneInteger 9007199254740993).canonicalJson = some "9007199254740992" ∧
      ¬ Json.Same (oneInteger 9007199254740992).json (oneInteger 9007199254740993).json := by
  refine ⟨?_, ?_, ?_⟩
  · rw [GoData.canonicalJson_eq_some_iff]
    exact ⟨Nat.zero_le _, by decide +kernel⟩
  · rw [GoData.canonicalJson_eq_some_iff]
    exact ⟨Nat.zero_le _, by decide +kernel⟩
  · intro h
    exact absurd (show (9007199254740992 : Int) = 9007199254740993 from h) (by decide)

end Vrl.Sdk.Go

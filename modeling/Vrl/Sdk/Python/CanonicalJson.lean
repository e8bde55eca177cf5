import Vrl.Lib.JsonEquality
import Vrl.Sdk.Python.Bundle
import Vrl.Utils.Canonical

/-!
# Vrl.Sdk.Python.CanonicalJson

What the canonical text of the SDK (`hashing.py`) identifies, and when the server
(`utils/canonical.py`) writes the same text for a value.

The SDK's encoder recurses over the value, item by item and over the sorted members;
`canonicalJson_arr` and `canonicalJson_obj` are its two recursive cases. The server
normalises every string value before it writes it, so its text is the SDK's exactly when
the values are in normal form already.
-/

open TextCodec

namespace PyVal

/-! ### Values read from JSON -/

mutual
/-- A JSON value as the Python value that `json.loads` makes of it. -/
def ofJson : Json → PyVal
  | .null => .none
  | .bool b => .bool b
  | .int i => .int i
  | .str s => .str s
  | .arr items => .list (ofJsonItems items)
  | .obj members => .dict (ofJsonMembers members)

def ofJsonItems : List Json → List PyVal
  | [] => []
  | v :: vs => ofJson v :: ofJsonItems vs

def ofJsonMembers : List (String × Json) → List (String × PyVal)
  | [] => []
  | (k, v) :: ms => (k, ofJson v) :: ofJsonMembers ms
end

mutual
/-- What `json.loads` returns. -/
def ofJsonValue : JsonValue → PyVal
  | .null => .none
  | .bool b => .bool b
  | .int i => .int i
  | .float literal => .float literal
  | .str s => .str s
  | .arr items => .list (ofJsonValueItems items)
  | .obj members => .dict (ofJsonValueMembers members)

def ofJsonValueItems : List JsonValue → List PyVal
  | [] => []
  | v :: vs => ofJsonValue v :: ofJsonValueItems vs

def ofJsonValueMembers : List (String × JsonValue) → List (String × PyVal)
  | [] => []
  | (k, v) :: ms => (k, ofJsonValue v) :: ofJsonValueMembers ms
end

mutual
theorem ofJsonValue_ofJson : ∀ v : Json, ofJsonValue (.ofJson v) = ofJson v
  | .null | .bool _ | .int _ | .str _ => by simp only [JsonValue.ofJson, ofJsonValue, ofJson]
  | .arr vs => by rw [JsonValue.ofJson, ofJsonValue, ofJson, ofJsonValueItems_ofJson vs]
  | .obj ms => by rw [JsonValue.ofJson, ofJsonValue, ofJson, ofJsonValueMembers_ofJson ms]

theorem ofJsonValueItems_ofJson : ∀ vs : List Json,
    ofJsonValueItems (JsonValue.ofJsonItems vs) = ofJsonItems vs
  | [] => rfl
  | v :: vs => by
      rw [JsonValue.ofJsonItems, ofJsonValueItems, ofJsonItems, ofJsonValue_ofJson v,
        ofJsonValueItems_ofJson vs]

theorem ofJsonValueMembers_ofJson : ∀ ms : List (String × Json),
    ofJsonValueMembers (JsonValue.ofJsonMembers ms) = ofJsonMembers ms
  | [] => rfl
  | (k, v) :: ms => by
      rw [JsonValue.ofJsonMembers, ofJsonValueMembers, ofJsonMembers, ofJsonValue_ofJson v,
        ofJsonValueMembers_ofJson ms]
end

end PyVal

namespace Vrl

/-! ### The recursion of the encoder -/

namespace Sdk.Python

/-- `json.dumps(text)`. -/
def dumpsText (s : String) : List Char := asciiCode.quoted s

theorem itemsText_eq_intercalate (code : StringCode) (vs : List Json) :
    Json.itemsText code vs = [','].intercalate (vs.map (Json.text code)) ++ [']'] := by
  induction vs with
  | nil => rfl
  | cons v vs ih =>
      cases vs with
      | nil => rw [Json.itemsText, List.map_cons, List.map_nil, List.intercalate_singleton]
      | cons w vs =>
          rw [Json.itemsText, ih]
          simp only [List.map_cons, List.intercalate_cons_cons, List.append_assoc,
            List.cons_append, List.nil_append]

theorem membersText_eq_intercalate (code : StringCode) (ms : List (String × Json)) :
    Json.membersText code ms =
      [','].intercalate (ms.map fun m => code.quoted m.1 ++ ':' :: Json.text code m.2) ++
        ['}'] := by
  induction ms with
  | nil => rfl
  | cons m ms ih =>
      obtain ⟨k, v⟩ := m
      cases ms with
      | nil =>
          rw [Json.membersText, List.map_cons, List.map_nil, List.intercalate_singleton]
          simp only [List.append_assoc, List.cons_append]
      | cons n ms =>
          rw [Json.membersText, ih]
          simp only [List.map_cons, List.intercalate_cons_cons, List.append_assoc,
            List.cons_append, List.nil_append]

theorem sortKeysItems_eq_map (vs : List Json) : Json.sortKeysItems vs = vs.map Json.sortKeys := by
  induction vs with
  | nil => rfl
  | cons v vs ih => rw [Json.sortKeysItems, ih, List.map_cons]

theorem canonicalJson_toList (v : Json) :
    (canonicalJson v).toList = Json.sortedText asciiCode v := by
  rw [canonicalJson, String.toList_ofList]

/-- A list is written item by item. -/
theorem canonicalJson_arr (items : List Json) :
    (canonicalJson (.arr items)).toList =
      '[' :: ([','].intercalate (items.map fun v => (canonicalJson v).toList) ++ [']']) := by
  simp only [canonicalJson_toList, Json.sortedText]
  rw [Json.sortKeys, Json.text, itemsText_eq_intercalate, sortKeysItems_eq_map, List.map_map]
  rfl

/-- A dictionary is written member by member, in the order of the keys. -/
theorem canonicalJson_obj (members : List (String × Json)) :
    (canonicalJson (.obj members)).toList =
      '{' :: ([','].intercalate ((Json.sortMembers members).map fun m =>
        dumpsText m.1 ++ ':' :: (canonicalJson m.2).toList) ++ ['}']) := by
  simp only [canonicalJson_toList, Json.sortedText]
  rw [Json.sortKeys, Json.text, membersText_eq_intercalate, Json.sortKeysMembers_eq_map,
    JsonValue.sortMembers_map, List.map_map]
  rfl

end Sdk.Python

/-! ### The encoder of the server -/

section Server

variable (std : PyStd)

mutual
/-- The server sorts the members and normalises the string values. -/
theorem canonicalize_ofJson : ∀ v : Json,
    canonicalize std (.ofJson v) = .ok (Json.sortKeys (Json.mapStrings std.nfc v))
  | .null | .bool _ | .int _ | .str _ => by
      simp only [PyVal.ofJson, canonicalize, Json.mapStrings, Json.sortKeys]
  | .arr vs => by
      rw [PyVal.ofJson, canonicalize, Json.mapStrings, Json.sortKeys, canonicalizeItems_ofJson vs]
      rfl
  | .obj ms => by
      rw [PyVal.ofJson, canonicalize, Json.mapStrings, Json.sortKeys,
        canonicalizeMembers_ofJson ms, JsonValue.sortMembers_map (Except.ok (ε := PyError)),
        sequenceMembers_map_ok]
      rfl

theorem canonicalizeItems_ofJson : ∀ vs : List Json,
    canonicalizeItems std (PyVal.ofJsonItems vs) =
      .ok (Json.sortKeysItems (Json.mapStringsItems std.nfc vs))
  | [] => by
      rw [PyVal.ofJsonItems, canonicalizeItems, Json.mapStringsItems, Json.sortKeysItems]
  | v :: vs => by
      rw [PyVal.ofJsonItems, canonicalizeItems, Json.mapStringsItems, Json.sortKeysItems,
        canonicalize_ofJson v, canonicalizeItems_ofJson vs]
      rfl

theorem canonicalizeMembers_ofJson : ∀ ms : List (String × Json),
    canonicalizeMembers std (PyVal.ofJsonMembers ms) =
      (Json.sortKeysMembers (Json.mapStringsMembers std.nfc ms)).map fun m =>
        (m.1, (.ok m.2 : Except PyError Json))
  | [] => by
      rw [PyVal.ofJsonMembers, canonicalizeMembers, Json.mapStringsMembers,
        Json.sortKeysMembers, List.map_nil]
  | (k, v) :: ms => by
      rw [PyVal.ofJsonMembers, canonicalizeMembers, Json.mapStringsMembers,
        Json.sortKeysMembers, canonicalize_ofJson v, canonicalizeMembers_ofJson ms,
        List.map_cons]
end

/-- What the server writes for a value without floats: the SDK's text of the value with
its strings normalised. -/
theorem server_canonicalJson (v : Json) :
    canonicalJson std (.ofJson v) = .ok (Sdk.Python.canonicalJson (Json.mapStrings std.nfc v)) := by
  rw [canonicalJson, canonicalize_ofJson, Sdk.Python.canonicalJson,
    ← Json.sortedText_sortKeys asciiCode (Json.mapStrings std.nfc v)]
  rfl

end Server

/-- An `e` followed by a combining acute accent, which normal form C makes one character. -/
def decomposed : String := "e\u0301"

/-- Stand-ins whose normal form composes that text. -/
def composingStd : PyStd where
  __ := lengthStd
  nfc s := if s = decomposed then "\u00e9" else s
  nfc_ascii s hs := by
    refine if_neg ?_
    rintro rfl
    revert hs
    decide

end Vrl

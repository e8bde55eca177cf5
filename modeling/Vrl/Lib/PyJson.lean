import Mathlib.Data.List.Infix
import Vrl.Lib.JsonValue
import Vrl.Lib.PyInt
import Vrl.Lib.Python

/-!
# Vrl.Lib.PyJson

What Python's operations do on a value that was read from JSON, whose type nobody has
checked: they return what they would on a value of the type meant, and raise on others.
-/

open TextCodec

namespace JsonValue

/-- `type(value).__name__`. -/
def typeName : JsonValue → String
  | .null => "NoneType"
  | .bool _ => "bool"
  | .int _ => "int"
  | .float _ => "float"
  | .str _ => "str"
  | .arr _ => "list"
  | .obj _ => "dict"

/-- The members of a dictionary whose method `name` is called. -/
def asDict (name : String) : JsonValue → Except PyError (List (String × JsonValue))
  | .obj members => .ok members
  | v => .error ⟨.attributeError,
      "'" ++ typeName v ++ "' object has no attribute '" ++ name ++ "'"⟩

theorem asDict_eq_ok_iff {name : String} {v : JsonValue} {data : List (String × JsonValue)} :
    v.asDict name = .ok data ↔ v = .obj data := by
  cases v <;> simp [asDict]

/-- `value[key] if key in value else None`. A list or a text may contain the key as well, but is
not indexed by it. -/
def itemIfIn (key : String) : JsonValue → Except PyError JsonValue
  | .obj members => .ok (getOrNull members key)
  | .arr items =>
      if items.any (·.isText key) then
        .error ⟨.typeError, "list indices must be integers or slices, not str"⟩
      else .ok .null
  | .str s =>
      if key.toList <:+: s.toList then
        .error ⟨.typeError, "string indices must be integers, not 'str'"⟩
      else .ok .null
  | v => .error ⟨.typeError, "argument of type '" ++ typeName v ++ "' is not iterable"⟩

/-- `value in texts`, for a set of texts. -/
def isIn (texts : List String) : JsonValue → Except PyError Bool
  | .str s => .ok (texts.contains s)
  | .arr _ => .error ⟨.typeError, "unhashable type: 'list'"⟩
  | .obj _ => .error ⟨.typeError, "unhashable type: 'dict'"⟩
  | _ => .ok false

/-- The items of a value that is iterated over: a text gives its characters, a dictionary
its keys. -/
def iterate : JsonValue → Except PyError (List JsonValue)
  | .arr items => .ok items
  | .str s => .ok (s.toList.map fun c => .str (String.singleton c))
  | .obj members => .ok (members.map fun m => .str m.1)
  | v => .error ⟨.typeError, "'" ++ typeName v ++ "' object is not iterable"⟩

/-- A value that is used where only a text will do. -/
def asText : JsonValue → Except PyError String
  | .str s => .ok s
  | v => .error ⟨.typeError, "expected str, got " ++ typeName v⟩

/-- `uuid.UUID(value)`. -/
def readUuid : JsonValue → Except PyError Unit
  | .str s =>
      if PyInt.parsesUuid s then .ok ()
      else .error ⟨.valueError, "badly formed hexadecimal UUID string"⟩
  | .null => .error ⟨.typeError,
      "one of the hex, bytes, bytes_le, fields, or int arguments must be given"⟩
  | v => .error ⟨.attributeError, "'" ++ typeName v ++ "' object has no attribute 'replace'"⟩

/-- The value is a UUID. -/
def isUuid : JsonValue → Bool
  | .str s => PyInt.parsesUuid s
  | _ => false

theorem readUuid_eq_ok_iff {v : JsonValue} : readUuid v = .ok () ↔ v.isUuid = true := by
  cases v with
  | str s =>
      rw [readUuid, isUuid]
      by_cases h : PyInt.parsesUuid s = true
      · simp [h]
      · simp [h]
  | _ => simp [readUuid, isUuid]

/-- A falsy value, or one that gives nothing but UUIDs. -/
def givesUuids (v : JsonValue) : Bool :=
  !v.truthy ||
    match v.iterate with
    | .ok ids => ids.all isUuid
    | .error _ => false

theorem givesUuids_of_falsy {v : JsonValue} (h : v.truthy = false) : v.givesUuids = true := by
  rw [givesUuids, h]
  rfl

theorem givesUuids_of_iterate {v : JsonValue} (h : v.truthy = true) {ids : List JsonValue}
    (hids : v.iterate = .ok ids) : v.givesUuids = ids.all isUuid := by
  rw [givesUuids, h, hids]
  rfl

/-- How a value is shown in a message: a text as it is. -/
structure Formatter where
  str : JsonValue → String
  str_str : ∀ s, str (.str s) = s

attribute [simp] Formatter.str_str

/-- Texts as they are, and everything else by its type. -/
def typeFormatter : Formatter where
  str
    | .str s => s
    | v => typeName v
  str_str _ := rfl

end JsonValue

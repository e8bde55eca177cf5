import Vrl.Lib.Demands
import Vrl.Lib.JsonEquality
import Vrl.Lib.JsonHooks
import Vrl.Security.Guards

/-!
# Vrl.Api.RequestBody

How the body of a request becomes a payload (`_load_json_payload` of `api/routes.py`).

The bytes are decoded and read as JSON, with `Decimal` for the numbers that are no integers, and
what is read has to pass the guards in front of every payload.
-/

open TextCodec JsonValue HookJson

namespace Vrl

variable (std : PyStd)

/-! ### Values -/

/-- The numbers that are read: integers that are not too long for it, and decimals. -/
inductive BodyNumber where
  | int (i : Int) (short : Json.isLongInt i = false)
  | decimal (d : PyDecimal)

/-- What a body is read as. -/
abbrev BodyValue : Type := HookJson BodyNumber

/-- `parse_float=Decimal` and `parse_int=int`. -/
def numberHooks : NumberHooks PyError BodyNumber where
  parseInt literal :=
    if h : Json.isLongInt (readInt literal) = false then .ok (.int (readInt literal) h)
    else .error longIntError
  parseFloat literal :=
    match PyDecimal.ofText literal with
    | some d => .ok (.decimal d)
    | none => .error (PyDecimal.invalidOperation "[<class 'decimal.ConversionSyntax'>]")

/-- `repr` of a constant that JSON does not have. -/
def constantRepr (name : String) : String :=
  if name = "NaN" then "nan" else if name = "Infinity" then "inf" else "-inf"

/-! ### The guards -/

/-- What the guards raise: a `SecurityViolation`, or something else. -/
inductive GuardError where
  | violation (message : String)
  | raised (e : PyError)
  deriving DecidableEq

/-- Parts of a collection with commas between them, and the closing bracket. -/
def joinedText (close : Char) : List (List Char) → List Char
  | [] => [close]
  | [part] => part ++ [close]
  | part :: part' :: parts => part ++ ',' :: joinedText close (part' :: parts)

mutual
/-- `canonical_json`. -/
def canonicalText : BodyValue → Except PyError (List Char)
  | .null => .ok ['n', 'u', 'l', 'l']
  | .bool true => .ok ['t', 'r', 'u', 'e']
  | .bool false => .ok ['f', 'a', 'l', 's', 'e']
  | .constant name =>
      .error ⟨.typeError,
        "Float values are not allowed in canonical payloads: " ++ constantRepr name⟩
  | .number (.int i _) => .ok (intText i)
  | .number (.decimal d) => .ok (PyText.ofChars d.plainText).quoted
  | .str text => .ok (text.normalize std.nfc).quoted
  | .arr items => do
      let parts ← (canonicalTextItems items).mapM id
      return '[' :: joinedText ']' parts
  | .obj members => do
      let entries ← (PyText.sortMembers (canonicalTextMembers members)).mapM fun m => do
        return (m.1, ← m.2)
      return '{' :: joinedText '}'
        ((PyText.sortMembers entries).map fun m => m.1.quoted ++ ':' :: m.2)

def canonicalTextItems : List BodyValue → List (Except PyError (List Char))
  | [] => []
  | v :: vs => canonicalText v :: canonicalTextItems vs

def canonicalTextMembers : List (PyText × BodyValue) → List (PyText × Except PyError (List Char))
  | [] => []
  | (k, v) :: ms => (k, canonicalText v) :: canonicalTextMembers ms
end

/-- `_walk` at a text, which has to have an encoding. -/
def walkBodyText (text : PyText) : Except GuardError Unit :=
  match text.chars with
  | none => .error (.raised ⟨.unicodeEncodeError, "surrogates not allowed"⟩)
  | some cs =>
      match walkText std (String.ofList cs) with
      | .ok () => .ok ()
      | .error e => .error (.violation e.message)

mutual
/-- `_walk`. -/
def walkBody : BodyValue → Except GuardError Unit
  | .obj members =>
      if maxCollectionItems < members.length then
        .error (.violation "Payload contains too many keys")
      else walkBodyMembers members
  | .arr items =>
      if maxCollectionItems < items.length then
        .error (.violation "Payload contains too many items")
      else walkBodyItems items
  | .str text => walkBodyText std text
  | .constant _ => .error (.violation "Floating point values are not allowed")
  | .null | .bool _ | .number _ => .ok ()

def walkBodyItems : List BodyValue → Except GuardError Unit
  | [] => .ok ()
  | item :: items => do
      walkBody item
      walkBodyItems items

def walkBodyMembers : List (PyText × BodyValue) → Except GuardError Unit
  | [] => .ok ()
  | (key, item) :: members => do
      walkBodyText std key
      walkBody item
      walkBodyMembers members
end

/-- `enforce_payload_guards`. -/
def enforceBodyGuards (payload : List (PyText × BodyValue)) : Except GuardError Unit :=
  match canonicalText std (.obj payload) with
  | .error e => .error (.raised e)
  | .ok raw =>
      if maxRequestBytes < utf8Length raw then
        .error (.violation "Payload exceeds maximum request size")
      else walkBody std (.obj payload)

/-! ### Payloads of Unicode texts -/

mutual
/-- No string has a surrogate. -/
def isUnicode : BodyValue → Bool
  | .str text => text.chars.isSome
  | .arr items => isUnicodeItems items
  | .obj members => isUnicodeMembers members
  | _ => true

def isUnicodeItems : List BodyValue → Bool
  | [] => true
  | v :: vs => isUnicode v && isUnicodeItems vs

def isUnicodeMembers : List (PyText × BodyValue) → Bool
  | [] => true
  | (k, v) :: ms => k.chars.isSome && isUnicode v && isUnicodeMembers ms
end

mutual
/-- The value of a body as a value that is passed around. -/
def pyVal : BodyValue → PyVal
  | .null => .none
  | .bool b => .bool b
  | .constant name => .float (constantRepr name)
  | .number (.int i _) => .int i
  | .number (.decimal d) => .decimal d
  | .str text => .str text.unicode
  | .arr items => .list (pyItems items)
  | .obj members => .dict (pyMembers members)

def pyItems : List BodyValue → List PyVal
  | [] => []
  | v :: vs => pyVal v :: pyItems vs

def pyMembers : List (PyText × BodyValue) → List (String × PyVal)
  | [] => []
  | (k, v) :: ms => (k.unicode, pyVal v) :: pyMembers ms
end

theorem joinedText_items (items : List Json) :
    joinedText ']' (items.map (Json.sortedText asciiCode)) =
      Json.itemsText asciiCode (Json.sortKeysItems items) := by
  induction items with
  | nil => rfl
  | cons v items ih =>
      cases items with
      | nil => rfl
      | cons w items =>
          rw [List.map_cons] at ih
          rw [List.map_cons, List.map_cons, joinedText, ih]
          rfl

theorem joinedText_members (members : List (String × Json)) :
    joinedText '}' (members.map fun m => asciiCode.quoted m.1 ++ ':' :: Json.text asciiCode m.2) =
      Json.membersText asciiCode members := by
  induction members with
  | nil => rfl
  | cons m members ih =>
      cases members with
      | nil =>
          obtain ⟨k, v⟩ := m
          simp only [List.map_cons, List.map_nil, joinedText, Json.membersText, List.append_assoc,
            List.cons_append]
      | cons n members =>
          obtain ⟨k, v⟩ := m
          rw [List.map_cons] at ih
          rw [List.map_cons, List.map_cons, joinedText, ih]
          simp only [Json.membersText, List.append_assoc, List.cons_append]

/-- Sorted by their keys, the members are those of the sorted value. -/
theorem joinedText_sorted (members : List (String × Json)) :
    joinedText '}' ((PyText.sortMembers (members.map fun m =>
        (PyText.ofString m.1, Json.sortedText asciiCode m.2))).map fun m =>
          m.1.quoted ++ ':' :: m.2) =
      Json.membersText asciiCode (Json.sortMembers (Json.sortKeysMembers members)) := by
  rw [PyText.sortMembers_ofString, Json.sortKeysMembers_eq_map, JsonValue.sortMembers_map,
    ← joinedText_members, List.map_map, List.map_map]
  congr 1
  refine List.map_congr_left fun m _ => ?_
  simp only [Function.comp_apply, PyText.quoted_ofString, Json.sortedText]

/-- The members are taken one after the other, as their texts or as values. -/
theorem mapM_members (f : Json → List Char) (entries : List (String × Except PyError Json)) :
    ((entries.map fun m => (PyText.ofString m.1, m.2.map f)).mapM fun m => do
        return (m.1, ← m.2) : Except PyError (List (PyText × List Char))) =
      (sequenceMembers entries).map fun l => l.map fun m => (PyText.ofString m.1, f m.2) := by
  induction entries with
  | nil => rfl
  | cons m entries ih =>
      obtain ⟨k, v⟩ := m
      rw [List.map_cons, List.mapM_cons, ih, sequenceMembers]
      cases v with
      | error e => rfl
      | ok j =>
          cases sequenceMembers entries with
          | error e => rfl
          | ok l => rfl

mutual
/-- **The canonical text of a payload of Unicode texts is that of the value.** -/
theorem canonicalText_of_isUnicode : ∀ {v : BodyValue}, isUnicode v = true →
    canonicalText std v = (canonicalize std (pyVal v)).map (Json.sortedText asciiCode)
  | .null, _ => by rw [canonicalText, pyVal, canonicalize]; rfl
  | .bool true, _ => by rw [canonicalText, pyVal, canonicalize]; rfl
  | .bool false, _ => by rw [canonicalText, pyVal, canonicalize]; rfl
  | .constant name, _ => by rw [canonicalText, pyVal, canonicalize]; rfl
  | .number (.int i _), _ => by rw [canonicalText, pyVal, canonicalize]; rfl
  | .number (.decimal d), _ => by
      have hquoted := PyText.quoted_ofString (String.ofList d.plainText)
      rw [PyText.ofString, String.toList_ofList] at hquoted
      rw [canonicalText, pyVal, canonicalize, hquoted]
      rfl
  | .str text, h => by
      have htext := PyText.ofString_unicode (show text.chars.isSome = true from h)
      rw [canonicalText, pyVal, canonicalize, ← htext, PyText.normalize_ofString,
        PyText.quoted_ofString, htext]
      rfl
  | .arr items, h => by
      have hitems := canonicalTextItems_of_isUnicode (show isUnicodeItems items = true from h)
      rw [canonicalText, pyVal, canonicalize, hitems]
      cases canonicalizeItems std (pyItems items) with
      | error e => rfl
      | ok js =>
          show Except.ok ('[' :: joinedText ']' (js.map (Json.sortedText asciiCode))) = _
          rw [joinedText_items]
          rfl
  | .obj members, h => by
      have hmembers := canonicalTextMembers_of_isUnicode
        (show isUnicodeMembers members = true from h)
      rw [canonicalText, pyVal, canonicalize, hmembers, PyText.sortMembers_ofString, mapM_members]
      cases sequenceMembers (Json.sortMembers (canonicalizeMembers std (pyMembers members))) with
      | error e => rfl
      | ok l =>
          show Except.ok ('{' :: joinedText '}' ((PyText.sortMembers (l.map fun m =>
            (PyText.ofString m.1, Json.sortedText asciiCode m.2))).map _)) = _
          rw [joinedText_sorted]
          rfl

theorem canonicalTextItems_of_isUnicode : ∀ {vs : List BodyValue}, isUnicodeItems vs = true →
    (canonicalTextItems std vs).mapM id =
      (canonicalizeItems std (pyItems vs)).map (·.map (Json.sortedText asciiCode))
  | [], _ => rfl
  | v :: vs, h => by
      rw [isUnicodeItems, Bool.and_eq_true] at h
      rw [canonicalTextItems, List.mapM_cons, canonicalText_of_isUnicode h.1,
        canonicalTextItems_of_isUnicode h.2, pyItems, canonicalizeItems]
      cases canonicalize std (pyVal v) with
      | error e => rfl
      | ok j =>
          cases canonicalizeItems std (pyItems vs) with
          | error e => rfl
          | ok js => rfl

theorem canonicalTextMembers_of_isUnicode : ∀ {ms : List (PyText × BodyValue)},
    isUnicodeMembers ms = true →
    canonicalTextMembers std ms = (canonicalizeMembers std (pyMembers ms)).map fun m =>
      (PyText.ofString m.1, m.2.map (Json.sortedText asciiCode))
  | [], _ => rfl
  | (k, v) :: ms, h => by
      rw [isUnicodeMembers, Bool.and_eq_true, Bool.and_eq_true] at h
      rw [canonicalTextMembers, canonicalText_of_isUnicode h.1.2,
        canonicalTextMembers_of_isUnicode h.2, pyMembers, canonicalizeMembers, List.map_cons,
        PyText.ofString_unicode h.1.1]
end

/-- An exception of the guards: their `ValueError` is a `SecurityViolation`. -/
def asGuardError (e : PyError) : GuardError :=
  if e.kind = .valueError then .violation e.message else .raised e

theorem walkBodyText_of_isSome {text : PyText} (h : text.chars.isSome = true) :
    walkBodyText std text = (walkText std text.unicode).mapError asGuardError := by
  obtain ⟨cs, hcs⟩ := Option.isSome_iff_exists.mp h
  rw [walkBodyText, PyText.unicode, hcs, Option.getD_some]
  simp only
  cases hwalk : walkText std (String.ofList cs) with
  | ok done => rfl
  | error e =>
      show _ = Except.error (asGuardError e)
      rw [asGuardError, kind_of_walkText std hwalk, if_pos rfl]

theorem mapError_bind {x : Except PyError Unit} {f : Unit → Except PyError Unit} :
    (x >>= f).mapError asGuardError =
      x.mapError asGuardError >>= fun done => (f done).mapError asGuardError := by
  cases x with
  | error e => rfl
  | ok done => rfl

theorem pyItems_length (vs : List BodyValue) : (pyItems vs).length = vs.length := by
  induction vs with
  | nil => rfl
  | cons v vs ih => rw [pyItems, List.length_cons, List.length_cons, ih]

theorem pyMembers_length (ms : List (PyText × BodyValue)) : (pyMembers ms).length = ms.length := by
  induction ms with
  | nil => rfl
  | cons m ms ih => rw [pyMembers, List.length_cons, List.length_cons, ih]

mutual
theorem walkBody_of_isUnicode : ∀ {v : BodyValue}, isUnicode v = true →
    walkBody std v = (walk std (pyVal v)).mapError asGuardError
  | .null, _ | .bool _, _ | .number (.int _ _), _ | .number (.decimal _), _ => by
      rw [walkBody, pyVal, walk]
      rfl
  | .constant name, _ => by
      rw [walkBody, pyVal, walk]
      rfl
  | .str text, h => by
      rw [walkBody, pyVal, walk]
      exact walkBodyText_of_isSome std h
  | .arr items, h => by
      have hitems := walkBodyItems_of_isUnicode (show isUnicodeItems items = true from h)
      rw [walkBody, pyVal, walk, pyItems_length, hitems]
      split <;> rfl
  | .obj members, h => by
      have hmembers := walkBodyMembers_of_isUnicode (show isUnicodeMembers members = true from h)
      rw [walkBody, pyVal, walk, pyMembers_length, hmembers]
      split <;> rfl

theorem walkBodyItems_of_isUnicode : ∀ {vs : List BodyValue}, isUnicodeItems vs = true →
    walkBodyItems std vs = (walkItems std (pyItems vs)).mapError asGuardError
  | [], _ => rfl
  | v :: vs, h => by
      rw [isUnicodeItems, Bool.and_eq_true] at h
      rw [walkBodyItems, pyItems, walkItems, mapError_bind, walkBody_of_isUnicode h.1,
        walkBodyItems_of_isUnicode h.2]

theorem walkBodyMembers_of_isUnicode : ∀ {ms : List (PyText × BodyValue)},
    isUnicodeMembers ms = true →
    walkBodyMembers std ms = (walkMembers std (pyMembers ms)).mapError asGuardError
  | [], _ => rfl
  | (k, v) :: ms, h => by
      rw [isUnicodeMembers, Bool.and_eq_true, Bool.and_eq_true] at h
      rw [walkBodyMembers, pyMembers, walkMembers, mapError_bind, mapError_bind,
        walkBodyText_of_isSome std h.1.1, walkBody_of_isUnicode h.1.2,
        walkBodyMembers_of_isUnicode h.2]
end

mutual
/-- No integer of a body is too long to be written. -/
theorem hasLongInt_pyVal : ∀ v : BodyValue, hasLongInt (pyVal v) = false
  | .null | .bool _ | .str _ | .constant _ | .number (.decimal _) => rfl
  | .number (.int _ short) => short
  | .arr items => by rw [pyVal, hasLongInt, hasLongIntItems_pyItems items]
  | .obj members => by rw [pyVal, hasLongInt, hasLongIntMembers_pyMembers members]

theorem hasLongIntItems_pyItems : ∀ vs : List BodyValue, hasLongIntItems (pyItems vs) = false
  | [] => rfl
  | v :: vs => by
      rw [pyItems, hasLongIntItems, hasLongInt_pyVal v, hasLongIntItems_pyItems vs, Bool.or_self]

theorem hasLongIntMembers_pyMembers : ∀ ms : List (PyText × BodyValue),
    hasLongIntMembers (pyMembers ms) = false
  | [] => rfl
  | (k, v) :: ms => by
      rw [pyMembers, hasLongIntMembers, hasLongInt_pyVal v, hasLongIntMembers_pyMembers ms,
        Bool.or_self]
end

/-- **The guards are those of a payload.** -/
theorem enforceBodyGuards_of_isUnicode {payload : List (PyText × BodyValue)}
    (h : isUnicodeMembers payload = true) :
    enforceBodyGuards std payload =
      (enforcePayloadGuards std (pyMembers payload)).mapError asGuardError := by
  have htext := canonicalText_of_isUnicode std (show isUnicode (.obj payload) = true from h)
  have hwalk := walkBody_of_isUnicode std (show isUnicode (.obj payload) = true from h)
  rw [pyVal] at htext hwalk
  rw [enforceBodyGuards, enforcePayloadGuards, htext]
  cases hcanonical : canonicalize std (.dict (pyMembers payload)) with
  | error e =>
      show Except.error (GuardError.raised e) = Except.error (asGuardError e)
      rw [asGuardError, kind_of_canonicalize std hcanonical, if_neg (by decide)]
  | ok j =>
      have hshort : j.hasLongInt = false := by
        rw [hasLongInt_canonicalize std hcanonical]
        exact hasLongIntMembers_pyMembers payload
      simp only [Except.map, Except.ok_bind, hshort, Bool.false_eq_true, if_false]
      split
      · rfl
      · exact hwalk

/-! ### The body -/

/-- What is raised: an `HTTPException`, or something else. -/
inductive BodyError where
  | http (status : Nat) (detail : String)
  | raised (e : PyError)
  deriving DecidableEq

/-- `body.decode("utf-8")`. -/
def decodeBody (body : ByteArray) : Except PyError (List Char) :=
  if h : body.IsValidUTF8 then .ok (String.fromUTF8 body h).toList
  else .error ⟨.unicodeDecodeError, "'utf-8' codec can't decode bytes"⟩

/-- `_load_json_payload`. -/
def loadJsonPayload (body : ByteArray) : Except BodyError (List (PyText × BodyValue)) :=
  if maxRequestBytes < body.size then .error (.http 413 "Request body too large")
  else if body.size = 0 then .ok []
  else
    match decodeBody body with
    | .error e => .error (.raised e)
    | .ok text =>
        match loads numberHooks text with
        | .error .decodeError => .error (.http 400 "Invalid JSON payload")
        | .error (.raised e) => .error (.raised e)
        | .error .exhausted => .error (.raised ⟨.runtimeError, "maximum recursion depth exceeded"⟩)
        | .ok (.obj payload) =>
            match enforceBodyGuards std payload with
            | .ok () => .ok payload
            | .error (.violation message) => .error (.http 400 message)
            | .error (.raised e) => .error (.raised e)
        | .ok _ => .error (.http 400 "JSON body must be an object")

end Vrl

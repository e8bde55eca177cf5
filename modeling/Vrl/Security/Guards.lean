import Vrl.Utils.Canonical

/-!
# Vrl.Security.Guards

The guards in front of every payload (`security/guards.py`): a limit on its size,
and a walk through its values that refuses long texts, large collections, texts
that look like an injection, and types that JSON does not have.
-/

namespace Vrl

variable (std : PyStd)

/-- `MAX_REQUEST_BYTES`. -/
def maxRequestBytes : Nat := 8192

/-- `MAX_STRING_BYTES`. -/
def maxStringBytes : Nat := 256

/-- `MAX_COLLECTION_ITEMS`. -/
def maxCollectionItems : Nat := 256

/-- `SecurityViolation`, which is a `ValueError`. -/
def securityViolation {α : Type} (message : String) : Except PyError α :=
  .error ⟨.valueError, message⟩

/-- `len(text.encode("utf-8"))`. -/
def utf8Length (cs : List Char) : Nat := (cs.map Char.utf8Size).sum

/-! ### Injection patterns -/

/-- A place of the text is a match, seen with the character before it. -/
def search (matchesAt : Option Char → List Char → Bool) : Option Char → List Char → Bool
  | before, [] => matchesAt before []
  | before, c :: cs => matchesAt before (c :: cs) || search matchesAt (some c) cs

/-- A letter of a pattern, in either case. Two letters have a third form each. -/
def matchesLetter (letter c : Char) : Bool :=
  c.toLower == letter || (letter == 's' && c == 'ſ') || (letter == 'i' && (c == 'İ' || c == 'ı'))

/-- Reads a word of a pattern, and returns its last character and what follows. -/
def readWord : List Char → Option Char → List Char → Option (Option Char × List Char)
  | [], last, cs => some (last, cs)
  | _ :: _, _, [] => none
  | letter :: word, _, c :: cs =>
      if matchesLetter letter c then readWord word (some c) cs else none

/-- `\w`. -/
def isWordChar (c : Char) : Bool := std.isAlnum c || c == '_'

/-- `\b` between two characters. -/
def isBoundary (before after : Option Char) : Bool :=
  before.any (isWordChar std) != after.any (isWordChar std)

/-- One of the words begins here, and ends at a word boundary. -/
def wordEndsHere (words : List String) (cs : List Char) : Bool :=
  words.any fun word =>
    match readWord word.toList none cs with
    | some (last, rest) => isBoundary std last rest.head?
    | none => false

/-- `(--|/\*|\*/|;)`. -/
def hasOperator (cs : List Char) : Bool :=
  search (fun _ rest => [['-', '-'], ['/', '*'], ['*', '/'], [';']].any (·.isPrefixOf rest)) none cs

/-- `\b(select|insert|update|delete|drop|union|alter|create|truncate|xp_)\b`. -/
def hasKeyword (cs : List Char) : Bool :=
  search (fun before rest => isBoundary std before rest.head? &&
    wordEndsHere std ["select", "insert", "update", "delete", "drop", "union", "alter", "create",
      "truncate", "xp_"] rest) none cs

/-- `<\s*script\b`. -/
def hasScript (cs : List Char) : Bool :=
  search (fun _ rest =>
    match rest with
    | '<' :: rest => wordEndsHere std ["script"] (rest.dropWhile isStrSpace)
    | _ => false) none cs

/-- One of `INJECTION_PATTERNS` is found. -/
def hasInjection (cs : List Char) : Bool := hasOperator cs || hasKeyword std cs || hasScript std cs

/-! ### The walk -/

/-- `_walk` at a text. -/
def walkText (s : String) : Except PyError Unit :=
  if maxStringBytes < utf8Length s.toList then securityViolation "String value exceeds size limit"
  else if hasInjection std s.toList then
    securityViolation "Potential injection pattern detected"
  else .ok ()

mutual
/-- `_walk`. -/
def walk : PyVal → Except PyError Unit
  | .dict members =>
      if maxCollectionItems < members.length then
        securityViolation "Payload contains too many keys"
      else walkMembers members
  | .list items =>
      if maxCollectionItems < items.length then
        securityViolation "Payload contains too many items"
      else walkItems items
  | .str s => walkText std s
  | .float _ => securityViolation "Floating point values are not allowed"
  | .int _ | .bool _ | .none | .decimal _ => .ok ()
  | .uuid u => securityViolation ("Unsupported payload type: " ++ (PyVal.uuid u).typeName)

def walkItems : List PyVal → Except PyError Unit
  | [] => .ok ()
  | item :: items => do
      walk item
      walkItems items

def walkMembers : List (String × PyVal) → Except PyError Unit
  | [] => .ok ()
  | (key, item) :: members => do
      walkText std key
      walk item
      walkMembers members
end

/-- `enforce_payload_guards`. A payload with an integer that is too long has no canonical text. -/
def enforcePayloadGuards (payload : List (String × PyVal)) : Except PyError Unit := do
  let canonical ← canonicalize std (.dict payload)
  if canonical.hasLongInt then .error longIntError
  else if maxRequestBytes < utf8Length (Json.sortedText asciiCode canonical) then
    securityViolation "Payload exceeds maximum request size"
  else walk std (.dict payload)

/-! ### What the guards raise -/

theorem kind_of_securityViolation {α : Type} {message : String} {e : PyError}
    (h : (securityViolation message : Except PyError α) = .error e) : e.kind = .valueError := by
  cases h
  rfl

theorem kind_of_walkText {s : String} {e : PyError} (h : walkText std s = .error e) :
    e.kind = .valueError := by
  rw [walkText] at h
  split at h
  · exact kind_of_securityViolation h
  · split at h
    · exact kind_of_securityViolation h
    · cases h

mutual
/-- The walk raises nothing but a `SecurityViolation`. -/
theorem kind_of_walk : ∀ {v : PyVal} {e : PyError}, walk std v = .error e → e.kind = .valueError
  | .dict members, _, h => by
      rw [walk] at h
      split at h
      · exact kind_of_securityViolation h
      · exact kind_of_walkMembers h
  | .list items, _, h => by
      rw [walk] at h
      split at h
      · exact kind_of_securityViolation h
      · exact kind_of_walkItems h
  | .str _, _, h => kind_of_walkText std h
  | .float _, _, h | .uuid _, _, h => kind_of_securityViolation h
  | .int _, _, h | .bool _, _, h | .none, _, h | .decimal _, _, h => by cases h

theorem kind_of_walkItems : ∀ {items : List PyVal} {e : PyError}, walkItems std items = .error e →
    e.kind = .valueError
  | [], _, h => by cases h
  | item :: items, _, h => by
      rw [walkItems] at h
      rcases Except.bind_eq_error_iff.mp h with hitem | ⟨-, -, hitems⟩
      · exact kind_of_walk hitem
      · exact kind_of_walkItems hitems

theorem kind_of_walkMembers : ∀ {members : List (String × PyVal)} {e : PyError},
    walkMembers std members = .error e → e.kind = .valueError
  | [], _, h => by cases h
  | (key, item) :: members, _, h => by
      rw [walkMembers] at h
      rcases Except.bind_eq_error_iff.mp h with hkey | ⟨-, -, h⟩
      · exact kind_of_walkText std hkey
      · rcases Except.bind_eq_error_iff.mp h with hitem | ⟨-, -, hmembers⟩
        · exact kind_of_walk hitem
        · exact kind_of_walkMembers hmembers
end

/-- **Where there is no float, the guards raise nothing but a `ValueError`.** -/
theorem kind_of_enforcePayloadGuards {payload : List (String × PyVal)} {e : PyError}
    (hfree : floatFreeMembers payload = true) (h : enforcePayloadGuards std payload = .error e) :
    e.kind = .valueError := by
  obtain ⟨canonical, hcanonical⟩ := canonicalize_ok std (show floatFree (.dict payload) = true from hfree)
  rw [enforcePayloadGuards, hcanonical, Except.ok_bind] at h
  split at h
  · cases h
    rfl
  · split at h
    · exact kind_of_securityViolation h
    · exact kind_of_walk std h

/-- **A float is a `TypeError`** of the canonical form, before the walk gets to see it. -/
theorem enforcePayloadGuards_of_float {payload : List (String × PyVal)}
    (hfloat : floatFreeMembers payload = false) :
    ∃ e, enforcePayloadGuards std payload = .error e ∧ e.kind = .typeError := by
  cases hcanonical : canonicalize std (.dict payload) with
  | ok canonical =>
      have hfree : floatFreeMembers payload = true := floatFree_of_canonicalize std hcanonical
      rw [hfloat] at hfree
      cases hfree
  | error e =>
      refine ⟨e, ?_, kind_of_canonicalize std hcanonical⟩
      rw [enforcePayloadGuards, hcanonical, Except.error_bind]

end Vrl

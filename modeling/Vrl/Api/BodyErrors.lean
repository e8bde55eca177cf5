import Vrl.Api.RequestBody

/-!
# Vrl.Api.BodyErrors

What the reading of a body raises (`_load_json_payload` of `api/routes.py`).

The handler catches the `JSONDecodeError` of the reader and the `SecurityViolation` of the guards.
Four other exceptions get past it: the `UnicodeDecodeError` of bytes that are no UTF-8; what `int`
and `Decimal` raise for a number that they do not take, as soon as the reader gets to it; the
`TypeError` of the canonical form for the constants `NaN` and `Infinity`; and the
`UnicodeEncodeError` of the walk for a string with a lone surrogate. A body that leads to none of
them becomes a payload that the guards accept, or an `HTTPException` with a status of 4xx
(**`loadJsonPayload_total_iff`**).
-/

open TextCodec JsonValue HookJson CheckPipeline

namespace Vrl

variable (std : PyStd)

/-! ### Payloads without constants -/

mutual
/-- No constant that JSON does not have, which would be a float. -/
def isFloatFree : BodyValue → Bool
  | .constant _ => false
  | .arr items => isFloatFreeItems items
  | .obj members => isFloatFreeMembers members
  | _ => true

def isFloatFreeItems : List BodyValue → Bool
  | [] => true
  | v :: vs => isFloatFree v && isFloatFreeItems vs

def isFloatFreeMembers : List (PyText × BodyValue) → Bool
  | [] => true
  | (_, v) :: ms => isFloatFree v && isFloatFreeMembers ms
end

mutual
/-- Constants are all that the canonical form refuses. -/
theorem canonicalText_ok_iff : ∀ v : BodyValue,
    (∃ raw, canonicalText std v = .ok raw) ↔ isFloatFree v = true
  | .null | .bool true | .bool false | .number (.int _ _) | .number (.decimal _) | .str _ =>
      iff_of_true ⟨_, rfl⟩ rfl
  | .constant _ => iff_of_false nofun nofun
  | .arr items => by
      rw [isFloatFree, ← canonicalTextItems_ok_iff items, ← Except.mapM_ok_iff, canonicalText]
      constructor
      · intro ⟨raw, h⟩
        obtain ⟨parts, hparts, -⟩ := Except.bind_eq_ok_iff.mp h
        exact ⟨parts, hparts⟩
      · intro ⟨parts, hparts⟩
        have hparts' : (canonicalTextItems std items).mapM id = .ok parts := hparts
        exact ⟨_, by rw [hparts']; rfl⟩
  | .obj members => by
      have hsorted : (∀ m ∈ PyText.sortMembers (canonicalTextMembers std members),
          ∃ raw, m.2 = .ok raw) ↔ ∀ m ∈ canonicalTextMembers std members, ∃ raw, m.2 = .ok raw := by
        simp only [PyText.sortMembers, List.mem_insertionSort]
      have hentry : ∀ m : PyText × Except PyError (List Char),
          (∃ entry, (do return (m.1, ← m.2) : Except PyError _) = .ok entry) ↔
            ∃ raw, m.2 = .ok raw := by
        intro m
        cases m.2 <;> simp
      rw [isFloatFree, ← canonicalTextMembers_ok_iff members, ← hsorted]
      simp only [← hentry]
      rw [← Except.mapM_ok_iff, canonicalText]
      constructor
      · intro ⟨raw, h⟩
        obtain ⟨entries, hentries, -⟩ := Except.bind_eq_ok_iff.mp h
        exact ⟨entries, hentries⟩
      · intro ⟨entries, hentries⟩
        exact ⟨_, by rw [hentries]; rfl⟩

theorem canonicalTextItems_ok_iff : ∀ vs : List BodyValue,
    (∀ part ∈ canonicalTextItems std vs, ∃ raw, part = .ok raw) ↔ isFloatFreeItems vs = true
  | [] => iff_of_true nofun rfl
  | v :: vs => by
      have hv : (∃ raw, canonicalText std v = .ok raw) ↔ isFloatFree v = true :=
        canonicalText_ok_iff v
      rw [canonicalTextItems, List.forall_mem_cons, canonicalTextItems_ok_iff vs,
        isFloatFreeItems, Bool.and_eq_true, hv]

theorem canonicalTextMembers_ok_iff : ∀ ms : List (PyText × BodyValue),
    (∀ m ∈ canonicalTextMembers std ms, ∃ raw, m.2 = .ok raw) ↔ isFloatFreeMembers ms = true
  | [] => iff_of_true nofun rfl
  | (k, v) :: ms => by
      have hv : (∃ raw, canonicalText std v = .ok raw) ↔ isFloatFree v = true :=
        canonicalText_ok_iff v
      rw [canonicalTextMembers, List.forall_mem_cons, canonicalTextMembers_ok_iff ms,
        isFloatFreeMembers, Bool.and_eq_true, hv]
end

/-! ### The walk -/

/-- What the walk stops at: something that it refuses, or a string without an encoding. -/
inductive WalkStop where
  | violation
  | surrogate
  deriving DecidableEq

/-- What an exception of the guards stops at. -/
def stopOf : GuardError → WalkStop
  | .violation _ => .violation
  | .raised _ => .surrogate

/-- A text is short, and does not look like an injection. -/
def isHarmless (text : String) : Bool :=
  decide (utf8Length text.toList ≤ maxStringBytes) && !hasInjection std text.toList

/-- What the walk wants of a text. -/
def textChecks (text : PyText) : List (Check WalkStop) :=
  [⟨text.chars.isSome, .surrogate⟩, ⟨isHarmless std text.unicode, .violation⟩]

mutual
/-- What the walk wants of a value, in its order. -/
def walkChecks : BodyValue → List (Check WalkStop)
  | .obj members =>
      ⟨decide (members.length ≤ maxCollectionItems), .violation⟩ :: walkChecksMembers members
  | .arr items =>
      ⟨decide (items.length ≤ maxCollectionItems), .violation⟩ :: walkChecksItems items
  | .str text => textChecks std text
  | .constant _ => [⟨false, .violation⟩]
  | .null | .bool _ | .number _ => []

def walkChecksItems : List BodyValue → List (Check WalkStop)
  | [] => []
  | item :: items => walkChecks item ++ walkChecksItems items

def walkChecksMembers : List (PyText × BodyValue) → List (Check WalkStop)
  | [] => []
  | (key, item) :: members => textChecks std key ++ (walkChecks item ++ walkChecksMembers members)
end

theorem walkText_ok_iff {s : String} : walkText std s = .ok () ↔ isHarmless std s = true := by
  rw [walkText, isHarmless, Bool.and_eq_true, decide_eq_true_eq, Bool.not_eq_true']
  split
  · next hlong => exact iff_of_false (Except.error_ne_ok _ _) fun h => absurd h.1 (Nat.not_le.mpr hlong)
  · next hshort =>
      split
      · next hinjection => exact iff_of_false (Except.error_ne_ok _ _) fun h => by simp [hinjection] at h
      · next hplain => exact iff_of_true rfl ⟨Nat.not_lt.mp hshort, Bool.eq_false_iff.mpr hplain⟩

theorem demands_walkBodyText (text : PyText) :
    Demands stopOf (walkBodyText std text) (textChecks std text) := by
  unfold Demands
  rw [walkBodyText, textChecks, firstFailure, PyText.unicode]
  cases text.chars with
  | none => rfl
  | some cs =>
      rw [Option.getD_some, Option.isSome_some, if_pos rfl, firstFailure]
      cases hharmless : isHarmless std (String.ofList cs) with
      | true =>
          simp only [(walkText_ok_iff std).mpr hharmless]
          rfl
      | false =>
          cases hwalk : walkText std (String.ofList cs) with
          | error e => simp [hwalk, raised, stopOf]
          | ok done =>
              rw [(walkText_ok_iff std).mp hwalk] at hharmless
              cases hharmless

mutual
/-- **The walk makes its checks one after the other.** -/
theorem demands_walkBody : ∀ v : BodyValue, Demands stopOf (walkBody std v) (walkChecks std v)
  | .null | .bool _ | .number _ => .ok ()
  | .constant _ => rfl
  | .str text => demands_walkBodyText std text
  | .arr items => by
      have hitems := demands_walkBodyItems items
      unfold Demands at hitems ⊢
      rw [walkBody, walkChecks, firstFailure, ← hitems]
      by_cases hlength : items.length ≤ maxCollectionItems
      · rw [if_neg (Nat.not_lt.mpr hlength), if_pos (decide_eq_true hlength)]
      · rw [if_pos (Nat.lt_of_not_le hlength), if_neg (by simpa using hlength)]
        rfl
  | .obj members => by
      have hmembers := demands_walkBodyMembers members
      unfold Demands at hmembers ⊢
      rw [walkBody, walkChecks, firstFailure, ← hmembers]
      by_cases hlength : members.length ≤ maxCollectionItems
      · rw [if_neg (Nat.not_lt.mpr hlength), if_pos (decide_eq_true hlength)]
      · rw [if_pos (Nat.lt_of_not_le hlength), if_neg (by simpa using hlength)]
        rfl

theorem demands_walkBodyItems : ∀ vs : List BodyValue,
    Demands stopOf (walkBodyItems std vs) (walkChecksItems std vs)
  | [] => .ok ()
  | v :: vs => (demands_walkBody v).bind fun _ _ => demands_walkBodyItems vs

theorem demands_walkBodyMembers : ∀ ms : List (PyText × BodyValue),
    Demands stopOf (walkBodyMembers std ms) (walkChecksMembers std ms)
  | [] => .ok ()
  | (k, v) :: ms =>
      (demands_walkBodyText std k).bind fun _ _ =>
        (demands_walkBody v).bind fun _ _ => demands_walkBodyMembers ms
end

/-! ### The guards -/

/-- A payload that the guards accept or refuse: it has no constants, and is too large, or the first
thing that the walk stops at, if there is one, is not a string with a surrogate. -/
def IsGuarded (payload : List (PyText × BodyValue)) : Prop :=
  isFloatFreeMembers payload = true ∧
    ((∃ raw, canonicalText std (.obj payload) = .ok raw ∧ maxRequestBytes < utf8Length raw) ∨
      firstFailure (walkChecks std (.obj payload)) ≠ some .surrogate)

/-- **The guards raise nothing but a `SecurityViolation` for these payloads only.** -/
theorem isGuarded_iff {payload : List (PyText × BodyValue)} :
    IsGuarded std payload ↔ ∀ e, enforceBodyGuards std payload ≠ .error (.raised e) := by
  have hfree : (∃ raw, canonicalText std (.obj payload) = .ok raw) ↔
      isFloatFreeMembers payload = true := canonicalText_ok_iff std (.obj payload)
  have hwalk := demands_walkBody std (.obj payload)
  unfold Demands at hwalk
  rw [IsGuarded, ← hfree, ← hwalk, enforceBodyGuards]
  cases hraw : canonicalText std (.obj payload) with
  | error e =>
      exact iff_of_false (fun h => Except.not_exists_error_eq_ok e h.1) fun h => h e rfl
  | ok raw =>
      simp only
      split
      · next hlarge =>
          exact iff_of_true ⟨⟨raw, rfl⟩, .inl ⟨raw, rfl, hlarge⟩⟩ fun e he => by cases he
      · next hsmall =>
          have hnot : ¬ ∃ raw', Except.ok raw = (Except.ok raw' : Except PyError _) ∧
              maxRequestBytes < utf8Length raw' := by
            rintro ⟨raw', heq, hlarge⟩
            cases heq
            exact hsmall hlarge
          cases walkBody std (.obj payload) with
          | ok done =>
              refine iff_of_true ⟨⟨raw, rfl⟩, .inr fun hstop => by cases hstop⟩ fun e he => ?_
              cases he
          | error e =>
              cases e with
              | violation message =>
                  refine iff_of_true ⟨⟨raw, rfl⟩, .inr fun hstop => by cases hstop⟩ fun e he => ?_
                  cases he
              | raised e =>
                  exact iff_of_false (fun h => h.2.elim hnot fun hstop => hstop rfl) fun h => h e rfl

/-! ### The body -/

/-- What the reading of a body promises: a payload that the guards accept, or an `HTTPException`
with a status of 4xx. -/
def AcceptsOrRefuses (result : Except BodyError (List (PyText × BodyValue))) : Prop :=
  (∃ payload, result = .ok payload ∧ enforceBodyGuards std payload = .ok ()) ∨
    ∃ status detail, result = .error (.http status detail) ∧ 400 ≤ status ∧ status < 500

/-- A number that Python does not read: an integer of more than 4300 digits, or a number that is
beyond the exponents of a decimal. -/
def IsUnreadableNumber (cs : List Char) : Prop :=
  ∃ literal isFloat rest, scanNumber cs = some (literal, isFloat, rest) ∧
    if isFloat then PyDecimal.ofText literal = none else Json.isLongInt (readInt literal) = true

theorem isUnreadableNumber_iff {cs : List Char} :
    IsUnreadableNumber cs ↔ ∃ e, RaisesAt numberHooks cs e := by
  have hhook : ∀ isFloat literal, (∃ e, callHook numberHooks isFloat literal = .error e) ↔
      if isFloat then PyDecimal.ofText literal = none
        else Json.isLongInt (readInt literal) = true := by
    intro isFloat literal
    cases isFloat with
    | true =>
        show (∃ e, numberHooks.parseFloat literal = .error e) ↔ PyDecimal.ofText literal = none
        simp only [numberHooks]
        cases PyDecimal.ofText literal <;> simp
    | false =>
        show (∃ e, numberHooks.parseInt literal = .error e) ↔ Json.isLongInt (readInt literal) = true
        simp only [numberHooks]
        split
        · next hshort => simp [hshort]
        · next hlong => simp [Bool.eq_true_of_not_eq_false hlong]
  constructor
  · intro ⟨literal, isFloat, rest, hscan, hunreadable⟩
    obtain ⟨e, he⟩ := (hhook _ _).mpr hunreadable
    exact ⟨e, literal, isFloat, rest, hscan, he⟩
  · intro ⟨e, literal, isFloat, rest, hscan, he⟩
    exact ⟨literal, isFloat, rest, hscan, (hhook _ _).mp ⟨e, he⟩⟩

/-- The bodies that are handled: they are too large, or the encoding of a text in which the reader
gets to no number that Python does not read, and which is no object, or an object that the guards
accept or refuse. -/
def IsHandled (body : ByteArray) : Prop :=
  maxRequestBytes < body.size ∨
    ∃ text : List Char, body = text.utf8Encode ∧
      (∀ place, Reaches numberHooks none (skipSpace text) place → ¬ IsUnreadableNumber place) ∧
      ∀ payload, loads numberHooks text = .ok (.obj payload) → IsGuarded std payload

theorem decodeBody_eq_ok_iff {body : ByteArray} {text : List Char} :
    decodeBody body = .ok text ↔ body = text.utf8Encode := by
  rw [decodeBody]
  split
  · next hvalid =>
      have hbytes : (String.fromUTF8 body hvalid).toList.utf8Encode = body :=
        String.utf8Encode_toList
      constructor
      · intro h
        rw [← Except.ok.inj h, hbytes]
      · intro h
        have hsame : String.fromUTF8 body hvalid = String.ofList text :=
          String.toByteArray_inj.mp (h.trans String.toByteArray_ofList.symm)
        rw [hsame, String.toList_ofList]
  · next hinvalid =>
      refine iff_of_false nofun fun h => hinvalid ?_
      rw [h]
      exact ByteArray.isValidUTF8_utf8Encode

/-- An empty payload is accepted. -/
theorem enforceBodyGuards_nil : enforceBodyGuards std [] = .ok () := by
  have hraw : canonicalText std (.obj []) = .ok ['{', '}'] := rfl
  rw [enforceBodyGuards, hraw]
  rfl

theorem acceptsOrRefuses_raised {e : PyError} :
    ¬ AcceptsOrRefuses std (.error (.raised e)) := by
  intro h
  rcases h with ⟨payload, h, -⟩ | ⟨status, detail, h, -⟩ <;> cases h

theorem acceptsOrRefuses_http (status : Nat) (detail : String) (h : 400 ≤ status ∧ status < 500) :
    AcceptsOrRefuses std (.error (.http status detail)) := .inr ⟨status, detail, rfl, h⟩

/-- The reader gets to no number that Python does not read exactly if no hook raises. -/
theorem reads_numbers_iff {text : List Char} :
    (∀ place, Reaches numberHooks none (skipSpace text) place → ¬ IsUnreadableNumber place) ↔
      ∀ e, loads numberHooks text ≠ .error (.raised e) := by
  constructor
  · intro h e hraised
    obtain ⟨place, hreaches, hraises⟩ := loads_raised_iff.mp hraised
    exact h place hreaches (isUnreadableNumber_iff.mpr ⟨e, hraises⟩)
  · intro h place hreaches hnumber
    obtain ⟨e, hraises⟩ := isUnreadableNumber_iff.mp hnumber
    exact h e (loads_raised_iff.mpr ⟨place, hreaches, hraises⟩)

/-- Bytes that are decoded are handled if the text is. -/
theorem isHandled_iff_of_decodeBody {body : ByteArray} {text : List Char}
    (hsize : ¬ maxRequestBytes < body.size) (hdecode : decodeBody body = .ok text) :
    IsHandled std body ↔ (∀ e, loads numberHooks text ≠ .error (.raised e)) ∧
      ∀ payload, loads numberHooks text = .ok (.obj payload) → IsGuarded std payload := by
  rw [IsHandled, or_iff_right hsize]
  simp only [reads_numbers_iff]
  constructor
  · intro ⟨text', hbody, hhandled⟩
    rw [decodeBody_eq_ok_iff.mpr hbody] at hdecode
    rw [← Except.ok.inj hdecode]
    exact hhandled
  · intro hhandled
    exact ⟨text, decodeBody_eq_ok_iff.mp hdecode, hhandled⟩

/-- **A payload that the guards accept, or an `HTTPException`, is what comes of the bodies that are
handled, and of no other.** -/
theorem loadJsonPayload_total_iff (body : ByteArray) :
    AcceptsOrRefuses std (loadJsonPayload std body) ↔ IsHandled std body := by
  rw [loadJsonPayload]
  split
  · next hlarge =>
      exact iff_of_true (acceptsOrRefuses_http std 413 _ (by decide)) (.inl hlarge)
  next hsize =>
  split
  · next hempty =>
      have hbody := ByteArray.size_eq_zero_iff.mp hempty
      have hdecode : decodeBody body = .ok [] := decodeBody_eq_ok_iff.mpr hbody
      have hloads : loads numberHooks [] = .error .decodeError := rfl
      rw [isHandled_iff_of_decodeBody std hsize hdecode, hloads]
      exact iff_of_true (.inl ⟨[], rfl, enforceBodyGuards_nil std⟩) ⟨nofun, nofun⟩
  cases hdecode : decodeBody body with
  | error e =>
      refine iff_of_false (acceptsOrRefuses_raised std) fun h => ?_
      obtain ⟨text, hbody, -⟩ := h.resolve_left hsize
      rw [decodeBody_eq_ok_iff.mpr hbody] at hdecode
      cases hdecode
  | ok text =>
      rw [isHandled_iff_of_decodeBody std hsize hdecode]
      simp only
      cases hloads : loads numberHooks text with
      | error failure =>
          cases failure with
          | decodeError =>
              exact iff_of_true (acceptsOrRefuses_http std 400 _ (by decide)) ⟨nofun, nofun⟩
          | raised e => exact iff_of_false (acceptsOrRefuses_raised std) fun h => h.1 e rfl
          | exhausted =>
              -- every failure of the reader has another reason
              rcases explained_loads hloads with h | ⟨e, place, h, -⟩ <;> cases h
      | ok v =>
          cases v with
          | obj payload =>
              have hguarded := @isGuarded_iff std payload
              simp only
              cases hguards : enforceBodyGuards std payload with
              | ok done =>
                  refine iff_of_true (.inl ⟨payload, rfl, hguards⟩) ⟨nofun, fun payload' heq => ?_⟩
                  cases heq
                  exact hguarded.mpr (by rw [hguards]; exact nofun)
              | error e =>
                  cases e with
                  | violation message =>
                      refine iff_of_true (acceptsOrRefuses_http std 400 _ (by decide))
                        ⟨nofun, fun payload' heq => ?_⟩
                      cases heq
                      exact hguarded.mpr (by rw [hguards]; exact nofun)
                  | raised e =>
                      exact iff_of_false (acceptsOrRefuses_raised std) fun h =>
                        hguarded.mp (h.2 payload rfl) e hguards
          | _ => exact iff_of_true (acceptsOrRefuses_http std 400 _ (by decide)) ⟨nofun, nofun⟩

/-- A byte that no character begins with. -/
def invalidBody : ByteArray := ⟨#[0xff]⟩

theorem decodeBody_invalidBody :
    decodeBody invalidBody = .error ⟨.unicodeDecodeError, "'utf-8' codec can't decode bytes"⟩ := by
  decide

/-- **The reading of a body is not total**: `UnicodeDecodeError` escapes for bytes that are no
UTF-8. -/
theorem invalid_utf8_raises :
    ¬ ∀ body, AcceptsOrRefuses lengthStd (loadJsonPayload lengthStd body) := by
  intro h
  have hraised : loadJsonPayload lengthStd invalidBody =
      .error (.raised ⟨.unicodeDecodeError, "'utf-8' codec can't decode bytes"⟩) := by
    rw [loadJsonPayload, if_neg (by decide), if_neg (by decide), decodeBody_invalidBody]
  have hbody := h invalidBody
  rw [hraised] at hbody
  exact acceptsOrRefuses_raised lengthStd hbody

end Vrl

import Vrl.Lib.DecimalText
import Vrl.Sdk.Python.CanonicalJson

/-!
# Vrl.Utils.NormalForm

What the canonical text of the server (`utils/canonical.py`) identifies, for payloads with keys
of any type: the strings of a payload are normalised where they are values, not where they are
keys.

`Payload.form` is the JSON value that is written, and `Payload.canonicalize_eq_ok_iff` says when
the encoder gets there. So two payloads have one text exactly if they are the same JSON value
once their string values, but not their keys, are normalised (**`Payload.sharesText_iff`**).
-/

open TextCodec

namespace Vrl

/-! ### Payloads -/

/-- What `canonicalize` takes. Lists stand for tuples too; a date or time is what its `isoformat`
gives. -/
inductive Payload where
  | none
  | bool (b : Bool)
  | int (i : Int)
  | float (repr : String)
  | decimal (d : PyDecimal)
  | moment (isoformat : {text : String // IsAscii text.toList})
  | uuid (u : Uuid)
  | str (s : String)
  | list (items : List Payload)
  | set (items : List Payload)
  | dict (members : List (Payload × Payload))

namespace Payload

mutual
/-- An integer of the payload is too long to be written. -/
def hasLongInt : Payload → Bool
  | .int i => Json.isLongInt i
  | .list items => hasLongIntItems items
  | .set items => hasLongIntItems items
  | .dict members => hasLongIntMembers members
  | _ => false

def hasLongIntItems : List Payload → Bool
  | [] => false
  | v :: vs => hasLongInt v || hasLongIntItems vs

def hasLongIntMembers : List (Payload × Payload) → Bool
  | [] => false
  | (k, v) :: ms => hasLongInt k || hasLongInt v || hasLongIntMembers ms
end

section Encoder

variable (std : PyStd) (otherText : Payload → String)

/-- `str(value)`. The texts of collections, dates and times are a parameter. -/
def text : Payload → String
  | .none => "None"
  | .bool b => if b then "True" else "False"
  | .int i => String.ofList (intText i)
  | .float repr => repr
  | .decimal d => String.ofList d.text
  | .uuid u => String.ofList u.text
  | .str s => s
  | v => otherText v

/-- `str(value)` of every value that is sorted. -/
def readTexts (values : List Payload) : Except PyError Unit :=
  if values.any hasLongInt then .error longIntError else .ok ()

mutual
/-- `canonicalize`. -/
def canonicalize : Payload → Except PyError Json
  | .none => .ok .null
  | .bool b => .ok (.bool b)
  | .int i => .ok (.int i)
  | .float repr =>
      .error ⟨.typeError, "Float values are not allowed in canonical payloads: " ++ repr⟩
  | .decimal d => .ok (.str (String.ofList d.plainText))
  | .moment isoformat => .ok (.str isoformat.1)
  | .uuid u => .ok (.str (String.ofList u.text))
  | .str s => .ok (.str (std.nfc s))
  | .list items => do return .arr (← canonicalizeItems items)
  | .set items => do
      readTexts items
      let elements ← sequenceMembers (Json.sortMembers (canonicalizeElements items))
      return .arr (elements.map Prod.snd)
  | .dict members => do
      readTexts (members.map Prod.fst)
      return .obj (dictOf (← sequenceMembers (Json.sortMembers (canonicalizeMembers members))))

def canonicalizeItems : List Payload → Except PyError (List Json)
  | [] => .ok []
  | v :: vs => do
      let w ← canonicalize v
      let rest ← canonicalizeItems vs
      return w :: rest

/-- The elements of a set under their texts. -/
def canonicalizeElements : List Payload → List (String × Except PyError Json)
  | [] => []
  | v :: vs => (text otherText v, canonicalize v) :: canonicalizeElements vs

/-- The values of a dictionary under the texts of their keys. -/
def canonicalizeMembers : List (Payload × Payload) → List (String × Except PyError Json)
  | [] => []
  | (k, v) :: ms => (text otherText k, canonicalize v) :: canonicalizeMembers ms
end

/-- `canonical_json`. -/
def canonicalJson (payload : Payload) : Except PyError String := do
  let value ← canonicalize std otherText payload
  if value.hasLongInt then .error longIntError else return dumpsCanonical value

end Encoder

/-! ### The JSON value of a payload -/

section Form

variable (otherText : Payload → String) (f : String → String)

mutual
/-- The JSON value of a payload, with its string values changed by `f`. A float has none. -/
def form : Payload → Json
  | .none => .null
  | .bool b => .bool b
  | .int i => .int i
  | .float _ => .null
  | .decimal d => .str (String.ofList d.plainText)
  | .moment isoformat => .str isoformat.1
  | .uuid u => .str (String.ofList u.text)
  | .str s => .str (f s)
  | .list items => .arr (formItems items)
  | .set items => .arr ((Json.sortMembers (formElements items)).map Prod.snd)
  | .dict members => .obj (dictOf (Json.sortMembers (formMembers members)))

def formItems : List Payload → List Json
  | [] => []
  | v :: vs => form v :: formItems vs

def formElements : List Payload → List (String × Json)
  | [] => []
  | v :: vs => (text otherText v, form v) :: formElements vs

def formMembers : List (Payload × Payload) → List (String × Json)
  | [] => []
  | (k, v) :: ms => (text otherText k, form v) :: formMembers ms
end

/-- The JSON value of a payload. -/
def json (payload : Payload) : Json := form otherText id payload

end Form

mutual
/-- The encoder gets to the end: there is no float, and what is sorted has a text. -/
def isPlain : Payload → Bool
  | .float _ => false
  | .list items => isPlainItems items
  | .set items => !items.any hasLongInt && isPlainItems items
  | .dict members => !(members.map Prod.fst).any hasLongInt && isPlainMembers members
  | _ => true

def isPlainItems : List Payload → Bool
  | [] => true
  | v :: vs => isPlain v && isPlainItems vs

def isPlainMembers : List (Payload × Payload) → Bool
  | [] => true
  | (_, v) :: ms => isPlain v && isPlainMembers ms
end

/-- The canonical text exists. -/
structure IsAccepted (otherText : Payload → String) (payload : Payload) : Prop where
  plain : payload.isPlain = true
  short : (payload.json otherText).hasLongInt = false

section Encoder

variable {std : PyStd} {otherText : Payload → String}

theorem readTexts_eq_ok_iff {values : List Payload} :
    readTexts values = .ok () ↔ values.any hasLongInt = false := by
  rw [readTexts]
  split
  · next h => simp [h]
  · next h => simpa using h

/-- A failure among the entries is the failure of all. -/
theorem sequenceMembers_error {ε α : Type} {entries : List (String × Except ε α)}
    (h : ∃ m ∈ entries, ∃ e, m.2 = .error e) : ∃ e, sequenceMembers entries = .error e := by
  obtain ⟨m, hm, e, he⟩ := h
  cases hall : sequenceMembers entries with
  | error e' => exact ⟨e', rfl⟩
  | ok l =>
      obtain ⟨a, ha⟩ := forall_of_sequenceMembers hall m hm
      rw [he] at ha
      cases ha

mutual
/-- **A payload with texts and without floats is encoded as its JSON value**, its string values
normalised. -/
theorem canonicalize_of_isPlain : ∀ {v : Payload}, v.isPlain = true →
    canonicalize std otherText v = .ok (form otherText std.nfc v)
  | .none, _ | .bool _, _ | .int _, _ | .decimal _, _ | .moment _, _ | .uuid _, _ | .str _, _ => by
      simp only [canonicalize, form]
  | .float _, h => by cases h
  | .list items, h => by
      rw [isPlain] at h
      rw [canonicalize, canonicalizeItems_of_isPlain h, form]
      rfl
  | .set items, h => by
      rw [isPlain, Bool.and_eq_true, Bool.not_eq_true'] at h
      rw [canonicalize, readTexts_eq_ok_iff.mpr h.1, canonicalizeElements_of_isPlain h.2, form,
        JsonValue.sortMembers_map (Except.ok (ε := PyError))]
      simp only [Except.ok_bind, sequenceMembers_map_ok]
      rfl
  | .dict members, h => by
      rw [isPlain, Bool.and_eq_true, Bool.not_eq_true'] at h
      rw [canonicalize, readTexts_eq_ok_iff.mpr h.1, canonicalizeMembers_of_isPlain h.2, form,
        JsonValue.sortMembers_map (Except.ok (ε := PyError))]
      simp only [Except.ok_bind, sequenceMembers_map_ok]
      rfl

theorem canonicalizeItems_of_isPlain : ∀ {vs : List Payload}, isPlainItems vs = true →
    canonicalizeItems std otherText vs = .ok (formItems otherText std.nfc vs)
  | [], _ => by rw [canonicalizeItems, formItems]
  | v :: vs, h => by
      rw [isPlainItems, Bool.and_eq_true] at h
      rw [canonicalizeItems, canonicalize_of_isPlain h.1, canonicalizeItems_of_isPlain h.2,
        formItems]
      rfl

theorem canonicalizeElements_of_isPlain : ∀ {vs : List Payload}, isPlainItems vs = true →
    canonicalizeElements std otherText vs =
      (formElements otherText std.nfc vs).map fun m => (m.1, .ok m.2)
  | [], _ => by rw [canonicalizeElements, formElements, List.map_nil]
  | v :: vs, h => by
      rw [isPlainItems, Bool.and_eq_true] at h
      rw [canonicalizeElements, canonicalize_of_isPlain h.1, canonicalizeElements_of_isPlain h.2,
        formElements, List.map_cons]

theorem canonicalizeMembers_of_isPlain : ∀ {ms : List (Payload × Payload)},
    isPlainMembers ms = true → canonicalizeMembers std otherText ms =
      (formMembers otherText std.nfc ms).map fun m => (m.1, .ok m.2)
  | [], _ => by rw [canonicalizeMembers, formMembers, List.map_nil]
  | (k, v) :: ms, h => by
      rw [isPlainMembers, Bool.and_eq_true] at h
      rw [canonicalizeMembers, canonicalize_of_isPlain h.1, canonicalizeMembers_of_isPlain h.2,
        formMembers, List.map_cons]
end

mutual
/-- Every other payload is refused. -/
theorem canonicalize_of_not_isPlain : ∀ {v : Payload}, v.isPlain = false →
    ∃ e, canonicalize std otherText v = .error e
  | .none, h | .bool _, h | .int _, h | .decimal _, h | .moment _, h | .uuid _, h | .str _, h => by
      cases h
  | .float _, _ => ⟨_, rfl⟩
  | .list items, h => by
      rw [isPlain] at h
      obtain ⟨e, he⟩ := canonicalizeItems_of_not_isPlain h
      exact ⟨e, by rw [canonicalize, he, Except.error_bind]⟩
  | .set items, h => by
      rw [isPlain, Bool.and_eq_false_iff, Bool.not_eq_false'] at h
      rw [canonicalize, readTexts]
      split
      · exact ⟨_, rfl⟩
      · next hshort =>
          obtain ⟨m, hm, hfails⟩ :=
            canonicalizeElements_of_not_isPlain (h.resolve_left hshort)
          obtain ⟨e, he⟩ := sequenceMembers_error ⟨m, Json.mem_sortMembers.mpr hm, hfails⟩
          exact ⟨e, by rw [Except.ok_bind, he, Except.error_bind]⟩
  | .dict members, h => by
      rw [isPlain, Bool.and_eq_false_iff, Bool.not_eq_false'] at h
      rw [canonicalize, readTexts]
      split
      · exact ⟨_, rfl⟩
      · next hshort =>
          obtain ⟨m, hm, hfails⟩ :=
            canonicalizeMembers_of_not_isPlain (h.resolve_left hshort)
          obtain ⟨e, he⟩ := sequenceMembers_error ⟨m, Json.mem_sortMembers.mpr hm, hfails⟩
          exact ⟨e, by rw [Except.ok_bind, he, Except.error_bind]⟩

theorem canonicalizeItems_of_not_isPlain : ∀ {vs : List Payload}, isPlainItems vs = false →
    ∃ e, canonicalizeItems std otherText vs = .error e
  | [], h => by cases h
  | v :: vs, h => by
      rw [isPlainItems, Bool.and_eq_false_iff] at h
      rw [canonicalizeItems]
      cases hv : v.isPlain with
      | false =>
          have hfails : ∃ e, canonicalize std otherText v = .error e :=
            canonicalize_of_not_isPlain hv
          obtain ⟨e, he⟩ := hfails
          exact ⟨e, by rw [he, Except.error_bind]⟩
      | true =>
          rw [hv] at h
          obtain ⟨e, he⟩ := canonicalizeItems_of_not_isPlain (h.resolve_left nofun)
          exact ⟨e, by rw [canonicalize_of_isPlain hv, Except.ok_bind, he, Except.error_bind]⟩

theorem canonicalizeElements_of_not_isPlain : ∀ {vs : List Payload}, isPlainItems vs = false →
    ∃ m ∈ canonicalizeElements std otherText vs, ∃ e, m.2 = .error e
  | [], h => by cases h
  | v :: vs, h => by
      rw [isPlainItems, Bool.and_eq_false_iff] at h
      rw [canonicalizeElements]
      rcases h with hv | hvs
      · exact ⟨_, List.mem_cons_self .., canonicalize_of_not_isPlain hv⟩
      · obtain ⟨m, hm, he⟩ := canonicalizeElements_of_not_isPlain hvs
        exact ⟨m, List.mem_cons_of_mem _ hm, he⟩

theorem canonicalizeMembers_of_not_isPlain : ∀ {ms : List (Payload × Payload)},
    isPlainMembers ms = false →
      ∃ m ∈ canonicalizeMembers std otherText ms, ∃ e, m.2 = .error e
  | [], h => by cases h
  | (k, v) :: ms, h => by
      rw [isPlainMembers, Bool.and_eq_false_iff] at h
      rw [canonicalizeMembers]
      rcases h with hv | hms
      · exact ⟨_, List.mem_cons_self .., canonicalize_of_not_isPlain hv⟩
      · obtain ⟨m, hm, he⟩ := canonicalizeMembers_of_not_isPlain hms
        exact ⟨m, List.mem_cons_of_mem _ hm, he⟩
end

theorem canonicalize_eq_ok_iff {v : Payload} {value : Json} :
    canonicalize std otherText v = .ok value ↔
      v.isPlain = true ∧ value = form otherText std.nfc v := by
  cases hv : v.isPlain with
  | false =>
      obtain ⟨e, he⟩ := @canonicalize_of_not_isPlain std otherText _ hv
      rw [he]
      simp
  | true =>
      rw [canonicalize_of_isPlain hv, Except.ok.injEq]
      exact ⟨fun h => ⟨rfl, h.symm⟩, fun h => h.2.symm⟩

/-! ### The JSON value -/

section Changes

variable {f g : String → String}

mutual
/-- The string values of the JSON value are those of the payload, and texts that do not change. -/
theorem mapStrings_form (hg : ∀ s, IsAscii s.toList → g s = s) : ∀ v : Payload,
    Json.mapStrings g (form otherText f v) = form otherText (g ∘ f) v
  | .none | .bool _ | .int _ | .float _ => by simp only [form, Json.mapStrings]
  | .decimal d => by
      have hascii : IsAscii (String.ofList d.plainText).toList := by
        rw [String.toList_ofList]
        exact d.plainText_isAscii
      rw [form, form, Json.mapStrings, hg _ hascii]
  | .moment isoformat => by rw [form, form, Json.mapStrings, hg _ isoformat.2]
  | .uuid u => by
      have hascii : IsAscii (String.ofList u.text).toList := by
        rw [String.toList_ofList]
        exact u.text_isAscii
      rw [form, form, Json.mapStrings, hg _ hascii]
  | .str s => by rw [form, form, Json.mapStrings, Function.comp_apply]
  | .list items => by rw [form, form, Json.mapStrings, mapStringsItems_form hg items]
  | .set items => by
      rw [form, form, Json.mapStrings, ← mapStringsElements_form hg items,
        JsonValue.sortMembers_map (Json.mapStrings g), Json.mapStringsItems_eq_map, List.map_map,
        List.map_map]
      rfl
  | .dict members => by
      rw [form, form, Json.mapStrings, ← mapStringsMembers_form hg members,
        JsonValue.sortMembers_map (Json.mapStrings g), Json.mapStringsMembers_eq_map, dictOf_map]

theorem mapStringsItems_form (hg : ∀ s, IsAscii s.toList → g s = s) : ∀ vs : List Payload,
    Json.mapStringsItems g (formItems otherText f vs) = formItems otherText (g ∘ f) vs
  | [] => by rw [formItems, formItems, Json.mapStringsItems]
  | v :: vs => by
      rw [formItems, formItems, Json.mapStringsItems, mapStrings_form hg v, mapStringsItems_form hg vs]

theorem mapStringsElements_form (hg : ∀ s, IsAscii s.toList → g s = s) :
    ∀ vs : List Payload,
    (formElements otherText f vs).map (fun m => (m.1, Json.mapStrings g m.2)) =
      formElements otherText (g ∘ f) vs
  | [] => by rw [formElements, formElements, List.map_nil]
  | v :: vs => by
      rw [formElements, formElements, List.map_cons, mapStrings_form hg v, mapStringsElements_form hg vs]

theorem mapStringsMembers_form (hg : ∀ s, IsAscii s.toList → g s = s) :
    ∀ ms : List (Payload × Payload),
    (formMembers otherText f ms).map (fun m => (m.1, Json.mapStrings g m.2)) =
      formMembers otherText (g ∘ f) ms
  | [] => by rw [formMembers, formMembers, List.map_nil]
  | (k, v) :: ms => by
      rw [formMembers, formMembers, List.map_cons, mapStrings_form hg v, mapStringsMembers_form hg ms]
end

end Changes

mutual
/-- A JSON value of a payload has no key twice. -/
theorem keysDistinct_form (f : String → String) : ∀ v : Payload,
    (form otherText f v).KeysDistinct
  | .none | .bool _ | .int _ | .float _ | .decimal _ | .moment _ | .uuid _ | .str _ => by
      simp only [form, Json.KeysDistinct]
  | .list items => by
      rw [form, Json.KeysDistinct]
      exact Json.keysDistinctItems_of_forall (keysDistinct_formItems f items)
  | .set items => by
      rw [form, Json.KeysDistinct]
      refine Json.keysDistinctItems_of_forall fun v hv => ?_
      obtain ⟨m, hm, rfl⟩ := List.mem_map.mp hv
      exact keysDistinct_formElements f items m (Json.mem_sortMembers.mp hm)
  | .dict members => by
      obtain ⟨hnodup, hmem⟩ := dictOf_spec (Json.sortMembers (formMembers otherText f members))
      rw [form]
      exact Json.keysDistinct_obj hnodup fun m hm =>
        keysDistinct_formMembers f members m (Json.mem_sortMembers.mp (hmem m hm))

theorem keysDistinct_formItems (f : String → String) : ∀ vs : List Payload,
    ∀ v ∈ formItems otherText f vs, v.KeysDistinct
  | [] => by
      rw [formItems]
      exact nofun
  | v :: vs => by
      rw [formItems, List.forall_mem_cons]
      exact ⟨keysDistinct_form f v, keysDistinct_formItems f vs⟩

theorem keysDistinct_formElements (f : String → String) : ∀ vs : List Payload,
    ∀ m ∈ formElements otherText f vs, m.2.KeysDistinct
  | [] => by
      rw [formElements]
      exact nofun
  | v :: vs => by
      rw [formElements, List.forall_mem_cons]
      exact ⟨keysDistinct_form f v, keysDistinct_formElements f vs⟩

theorem keysDistinct_formMembers (f : String → String) : ∀ ms : List (Payload × Payload),
    ∀ m ∈ formMembers otherText f ms, m.2.KeysDistinct
  | [] => by
      rw [formMembers]
      exact nofun
  | (k, v) :: ms => by
      rw [formMembers, List.forall_mem_cons]
      exact ⟨keysDistinct_form f v, keysDistinct_formMembers f ms⟩
end

mutual
/-- A change of the string values leaves the integers as they are. -/
theorem hasLongInt_mapStrings (f : String → String) : ∀ v : Json,
    (Json.mapStrings f v).hasLongInt = v.hasLongInt
  | .null | .bool _ | .int _ | .str _ => by simp only [Json.mapStrings, Json.hasLongInt]
  | .arr vs => by
      rw [Json.mapStrings, Json.hasLongInt, Json.hasLongInt, hasLongIntItems_mapStrings f vs]
  | .obj ms => by
      rw [Json.mapStrings, Json.hasLongInt, Json.hasLongInt, hasLongIntMembers_mapStrings f ms]

theorem hasLongIntItems_mapStrings (f : String → String) : ∀ vs : List Json,
    Json.hasLongIntItems (Json.mapStringsItems f vs) = Json.hasLongIntItems vs
  | [] => by rw [Json.mapStringsItems]
  | v :: vs => by
      rw [Json.mapStringsItems, Json.hasLongIntItems, Json.hasLongIntItems,
        hasLongInt_mapStrings f v, hasLongIntItems_mapStrings f vs]

theorem hasLongIntMembers_mapStrings (f : String → String) : ∀ ms : List (String × Json),
    Json.hasLongIntMembers (Json.mapStringsMembers f ms) = Json.hasLongIntMembers ms
  | [] => by rw [Json.mapStringsMembers]
  | (k, v) :: ms => by
      rw [Json.mapStringsMembers, Json.hasLongIntMembers, Json.hasLongIntMembers,
        hasLongInt_mapStrings f v, hasLongIntMembers_mapStrings f ms]
end

/-! ### Texts -/

/-- **What is written is the JSON value with its string values normalised.** -/
theorem canonicalJson_eq_ok_iff {v : Payload} {written : String} :
    canonicalJson std otherText v = .ok written ↔ v.IsAccepted otherText ∧
      written = dumpsCanonical (Json.mapStrings std.nfc (v.json otherText)) := by
  have hform : Json.mapStrings std.nfc (v.json otherText) = form otherText std.nfc v :=
    mapStrings_form std.nfc_ascii v
  have hlong : (form otherText std.nfc v).hasLongInt = (v.json otherText).hasLongInt := by
    rw [← hform, hasLongInt_mapStrings]
  rw [canonicalJson, hform]
  constructor
  · intro h
    obtain ⟨value, hvalue, h⟩ := Except.bind_eq_ok_iff.mp h
    obtain ⟨hplain, rfl⟩ := canonicalize_eq_ok_iff.mp hvalue
    split at h
    · cases h
    · next hshort =>
        cases h
        rw [hlong, Bool.not_eq_true] at hshort
        exact ⟨⟨hplain, hshort⟩, rfl⟩
  · intro ⟨haccepted, hwritten⟩
    rw [canonicalize_of_isPlain haccepted.plain, Except.ok_bind, hlong, haccepted.short, hwritten]
    rfl

/-- **Two payloads have one text exactly if they are one JSON value**, their string values
normalised and their keys as they are. -/
theorem sharesText_iff {v w : Payload} :
    (∃ written, canonicalJson std otherText v = .ok written ∧
        canonicalJson std otherText w = .ok written) ↔
      (v.IsAccepted otherText ∧ w.IsAccepted otherText) ∧
        Json.Same (Json.mapStrings std.nfc (v.json otherText))
          (Json.mapStrings std.nfc (w.json otherText)) := by
  have hdistinct : ∀ u : Payload, (Json.mapStrings std.nfc (u.json otherText)).KeysDistinct :=
    fun u => Json.keysDistinct_mapStrings _ (keysDistinct_form id u)
  rw [← Json.sortKeys_eq_iff (hdistinct v) (hdistinct w), ← dumpsCanonical_eq_iff]
  simp only [canonicalJson_eq_ok_iff]
  constructor
  · intro ⟨written, ⟨hv, hwritten⟩, hw, hwritten'⟩
    exact ⟨⟨hv, hw⟩, hwritten.symm.trans hwritten'⟩
  · intro ⟨⟨hv, hw⟩, heq⟩
    exact ⟨_, ⟨hv, rfl⟩, hw, heq⟩

/-! ### Equivalent payloads -/

variable (std) in
/-- The payloads have one shape, and their strings, values and keys alike, have one normal form.
Sets and dictionaries may have been built in another order. -/
inductive Equivalent : Payload → Payload → Prop where
  | refl (v : Payload) : Equivalent v v
  | str {s t : String} (h : std.nfc s = std.nfc t) : Equivalent (.str s) (.str t)
  | list {vs ws : List Payload} (h : List.Forall₂ Equivalent vs ws) :
      Equivalent (.list vs) (.list ws)
  | set {vs ws ws' : List Payload} (h : List.Forall₂ Equivalent vs ws) (hperm : ws.Perm ws') :
      Equivalent (.set vs) (.set ws')
  | dict {ms ns ns' : List (Payload × Payload)}
      (hkeys : List.Forall₂ Equivalent (ms.map Prod.fst) (ns.map Prod.fst))
      (hvalues : List.Forall₂ Equivalent (ms.map Prod.snd) (ns.map Prod.snd))
      (hperm : ns.Perm ns') : Equivalent (.dict ms) (.dict ns')

end Encoder

section Normal

variable (std : PyStd)

mutual
/-- The keys are strings, and all strings are in normal form. -/
def IsNormal : Payload → Prop
  | .str s => std.nfc s = s
  | .list items => IsNormalItems items
  | .set items => IsNormalItems items
  | .dict members => IsNormalMembers members
  | _ => True

def IsNormalItems : List Payload → Prop
  | [] => True
  | v :: vs => IsNormal v ∧ IsNormalItems vs

def IsNormalMembers : List (Payload × Payload) → Prop
  | [] => True
  | (k, v) :: ms => (∃ s, k = .str s ∧ std.nfc s = s) ∧ IsNormal v ∧ IsNormalMembers ms
end

variable {std} {otherText : Payload → String}

mutual
/-- Nothing of a payload in normal form is changed. -/
theorem form_of_isNormal : ∀ {v : Payload}, v.IsNormal std →
    form otherText std.nfc v = v.json otherText
  | .none, _ | .bool _, _ | .int _, _ | .float _, _ | .decimal _, _ | .moment _, _ | .uuid _, _ => by
      simp only [json, form]
  | .str s, h => by
      rw [IsNormal] at h
      rw [json, form, form, h, id]
  | .list items, h => by
      rw [IsNormal] at h
      rw [json, form, form, formItems_of_isNormal h]
  | .set items, h => by
      rw [IsNormal] at h
      rw [json, form, form, formElements_of_isNormal h]
  | .dict members, h => by
      rw [IsNormal] at h
      rw [json, form, form, formMembers_of_isNormal h]

theorem formItems_of_isNormal : ∀ {vs : List Payload}, IsNormalItems std vs →
    formItems otherText std.nfc vs = formItems otherText id vs
  | [], _ => by rw [formItems, formItems]
  | v :: vs, h => by
      rw [IsNormalItems] at h
      rw [formItems, formItems, form_of_isNormal h.1, formItems_of_isNormal h.2, json]

theorem formElements_of_isNormal : ∀ {vs : List Payload}, IsNormalItems std vs →
    formElements otherText std.nfc vs = formElements otherText id vs
  | [], _ => by rw [formElements, formElements]
  | v :: vs, h => by
      rw [IsNormalItems] at h
      rw [formElements, formElements, form_of_isNormal h.1, formElements_of_isNormal h.2, json]

theorem formMembers_of_isNormal : ∀ {ms : List (Payload × Payload)}, IsNormalMembers std ms →
    formMembers otherText std.nfc ms = formMembers otherText id ms
  | [], _ => by rw [formMembers, formMembers]
  | (k, v) :: ms, h => by
      rw [IsNormalMembers] at h
      rw [formMembers, formMembers, form_of_isNormal h.2.1, formMembers_of_isNormal h.2.2, json]
end

/-- Payloads in normal form that have one text are one JSON value. -/
theorem same_of_isNormal {v w : Payload} (hv : v.IsNormal std) (hw : w.IsNormal std)
    {written : String} (hwritten : canonicalJson std otherText v = .ok written)
    (hwritten' : canonicalJson std otherText w = .ok written) :
    Json.Same (v.json otherText) (w.json otherText) := by
  have hself : ∀ {u : Payload}, u.IsNormal std →
      Json.mapStrings std.nfc (u.json otherText) = u.json otherText :=
    fun hu => (mapStrings_form std.nfc_ascii _).trans (form_of_isNormal hu)
  have hsame := (sharesText_iff.mp ⟨written, hwritten, hwritten'⟩).2
  rw [hself hv, hself hw] at hsame
  exact hsame

variable (std otherText)

/-- Equivalent payloads have one text, and payloads in normal form that have one text are one
JSON value. -/
def ReflectsNormalForm (v w : Payload) : Prop :=
  (Equivalent std v w → ∃ written, canonicalJson std otherText v = .ok written ∧
    canonicalJson std otherText w = .ok written) ∧
  (v.IsNormal std → w.IsNormal std → ∀ written, canonicalJson std otherText v = .ok written →
    canonicalJson std otherText w = .ok written → Json.Same (v.json otherText) (w.json otherText))

/-- **The text reflects the normal form exactly if equivalent payloads are accepted and are one
JSON value as soon as their string values are normalised**, whose keys are then the same. -/
theorem reflectsNormalForm_iff (v w : Payload) :
    ReflectsNormalForm std otherText v w ↔
      (Equivalent std v w → (v.IsAccepted otherText ∧ w.IsAccepted otherText) ∧
        Json.Same (Json.mapStrings std.nfc (v.json otherText))
          (Json.mapStrings std.nfc (w.json otherText))) := by
  rw [ReflectsNormalForm, sharesText_iff]
  exact and_iff_left fun hv hw _ hwritten hwritten' => same_of_isNormal hv hw hwritten hwritten'

end Normal

/-! ### An accented key -/

/-- A dictionary with one key. -/
def keyed (key : String) : Payload := .dict [(.str key, .int 1)]

/-- A key in normal form and the same key decomposed are kept apart. -/
theorem accented_key_kept_apart :
    Equivalent composingStd (keyed "\u00e9") (keyed decomposed) ∧
      ¬ ReflectsNormalForm composingStd (fun _ => "") (keyed "\u00e9") (keyed decomposed) := by
  have hequivalent : Equivalent composingStd (keyed "\u00e9") (keyed decomposed) :=
    .dict (.cons (.str (by decide)) .nil) (.cons (.refl _) .nil) (List.Perm.refl _)
  refine ⟨hequivalent, fun h => ?_⟩
  obtain ⟨written, hwritten, hwritten'⟩ := h.1 hequivalent
  rw [canonicalJson_eq_ok_iff] at hwritten hwritten'
  have heq : Json.obj [("\u00e9", .int 1)] = .obj [(decomposed, .int 1)] :=
    dumpsCanonical_eq_iff.mp (hwritten.2.symm.trans hwritten'.2)
  have hkey : "\u00e9" = decomposed := (Prod.mk.inj (List.cons.inj (Json.obj.inj heq)).1).1
  exact absurd hkey (by decide)

/-! ### Dictionaries with string keys -/

mutual
/-- A value of the server as a payload. -/
def ofPyVal : PyVal → Payload
  | .none => .none
  | .bool b => .bool b
  | .int i => .int i
  | .float repr => .float repr
  | .decimal d => .decimal d
  | .uuid u => .uuid u
  | .str s => .str s
  | .list items => .list (ofPyVals items)
  | .dict members => .dict (ofPyMembers members)

def ofPyVals : List PyVal → List Payload
  | [] => []
  | v :: vs => ofPyVal v :: ofPyVals vs

def ofPyMembers : List (String × PyVal) → List (Payload × Payload)
  | [] => []
  | (k, v) :: ms => (.str k, ofPyVal v) :: ofPyMembers ms
end

mutual
/-- No dictionary of the value has a key twice. -/
def KeysDistinct : PyVal → Prop
  | .list items => KeysDistinctItems items
  | .dict members => (members.map (·.1)).Nodup ∧ KeysDistinctMembers members
  | _ => True

def KeysDistinctItems : List PyVal → Prop
  | [] => True
  | v :: vs => KeysDistinct v ∧ KeysDistinctItems vs

def KeysDistinctMembers : List (String × PyVal) → Prop
  | [] => True
  | (_, v) :: ms => KeysDistinct v ∧ KeysDistinctMembers ms
end

/-- The members that are sequenced keep their keys. -/
theorem sequenceMembers_keys {ε α : Type} {entries : List (String × Except ε α)}
    {members : List (String × α)} (h : sequenceMembers entries = .ok members) :
    members.map (·.1) = entries.map (·.1) := by
  induction entries generalizing members with
  | nil =>
      cases h
      rfl
  | cons m entries ih =>
      obtain ⟨a, -, h⟩ := Except.bind_eq_ok_iff.mp h
      obtain ⟨rest, hrest, h⟩ := Except.bind_eq_ok_iff.mp h
      cases h
      rw [List.map_cons, List.map_cons, ih hrest]

section StringKeys

variable {std : PyStd} {otherText : Payload → String}

theorem readTexts_ofPyMembers (ms : List (String × PyVal)) :
    readTexts ((ofPyMembers ms).map Prod.fst) = .ok () := by
  rw [readTexts_eq_ok_iff, List.any_eq_false]
  induction ms with
  | nil => exact nofun
  | cons m ms ih =>
      obtain ⟨k, v⟩ := m
      rw [ofPyMembers, List.map_cons, List.forall_mem_cons]
      exact ⟨Bool.false_ne_true, ih⟩

mutual
/-- **With string keys, the encoder is the one of the server's values.** -/
theorem canonicalize_ofPyVal : ∀ {v : PyVal}, KeysDistinct v →
    canonicalize std otherText (ofPyVal v) = Vrl.canonicalize std v
  | .none, _ | .bool _, _ | .int _, _ | .float _, _ | .decimal _, _ | .uuid _, _ | .str _, _ => by
      simp only [ofPyVal, canonicalize, Vrl.canonicalize]
  | .list items, h => by
      rw [KeysDistinct] at h
      rw [ofPyVal, canonicalize, Vrl.canonicalize, canonicalizeItems_ofPyVals h]
  | .dict members, h => by
      rw [KeysDistinct] at h
      rw [ofPyVal, canonicalize, Vrl.canonicalize, readTexts_ofPyMembers, Except.ok_bind,
        canonicalizeMembers_ofPyMembers h.2]
      cases hentries : sequenceMembers (Json.sortMembers (Vrl.canonicalizeMembers std members)) with
      | error e => rfl
      | ok entries =>
          have hperm : (Json.sortMembers (Vrl.canonicalizeMembers std members)).Perm
              (Vrl.canonicalizeMembers std members) := List.perm_insertionSort _ _
          have hnodup : (entries.map (·.1)).Nodup := by
            rw [sequenceMembers_keys hentries, (hperm.map _).nodup_iff,
              canonicalizeMembers_eq_map, List.map_map]
            exact h.1
          rw [Except.ok_bind, Except.ok_bind, dictOf_of_nodup hnodup]

theorem canonicalizeItems_ofPyVals : ∀ {vs : List PyVal}, KeysDistinctItems vs →
    canonicalizeItems std otherText (ofPyVals vs) = Vrl.canonicalizeItems std vs
  | [], _ => by rw [ofPyVals, canonicalizeItems, Vrl.canonicalizeItems]
  | v :: vs, h => by
      rw [KeysDistinctItems] at h
      rw [ofPyVals, canonicalizeItems, Vrl.canonicalizeItems, canonicalize_ofPyVal h.1,
        canonicalizeItems_ofPyVals h.2]

theorem canonicalizeMembers_ofPyMembers : ∀ {ms : List (String × PyVal)}, KeysDistinctMembers ms →
    canonicalizeMembers std otherText (ofPyMembers ms) = Vrl.canonicalizeMembers std ms
  | [], _ => by rw [ofPyMembers, canonicalizeMembers, Vrl.canonicalizeMembers]
  | (k, v) :: ms, h => by
      rw [KeysDistinctMembers] at h
      rw [ofPyMembers, canonicalizeMembers, Vrl.canonicalizeMembers, canonicalize_ofPyVal h.1,
        canonicalizeMembers_ofPyMembers h.2, text]
end

/-- So is its text, of a value whose integers can be written. -/
theorem canonicalJson_ofPyVal {v : PyVal} (hkeys : KeysDistinct v) {value : Json}
    (hvalue : Vrl.canonicalize std v = .ok value) (hshort : value.hasLongInt = false) :
    canonicalJson std otherText (ofPyVal v) = Vrl.canonicalJson std v := by
  rw [canonicalJson, Vrl.canonicalJson, canonicalize_ofPyVal hkeys, hvalue, Except.ok_bind,
    Except.ok_bind, hshort]
  rfl

end StringKeys

end Payload

end Vrl

import Vrl.Lib.JsonHooks

/-!
# Vrl.Lib.JsonReaders

The two models of Python's JSON reader agree.

`JsonValue.loads` makes Unicode texts and values at once; the reader with hooks keeps lone
surrogates and leaves the numbers to its hooks. What the first reads, the second reads as the same
value when its hooks make plain numbers (**`HookJson.loads_of_loads`**).
-/

open TextCodec JsonValue

/-! ### Strings -/

theorem joinPoints_of_joinUnits {n : Nat} {cs rest : List Char} {c : Char}
    (h : joinUnits n cs = some (c, rest)) : joinPoints n cs = (.char c, rest) := by
  rw [joinUnits] at h
  rw [joinPoints]
  split at h
  · next hhigh => rw [if_pos ⟨hhigh.1, by omega⟩, if_pos hhigh.2, h]
  · next hhigh =>
      split at h
      · cases h
      · next hlow =>
          cases h
          rw [if_neg (by omega)]

theorem readPoint_of_loadsRead {cs rest : List Char} {c : Char}
    (h : loadsRead cs = some (c, rest)) : readPoint cs = some (.char c, rest) := by
  unfold loadsRead at h
  split at h
  · cases h
  · cases h
  · obtain ⟨⟨n, after⟩, hunit, hjoin⟩ := Option.bind_eq_some_iff.mp h
    rw [readPoint, hunit, Option.map_some]
    show some (joinPoints n after) = _
    rw [joinPoints_of_joinUnits hjoin]
  · next hunicode =>
      obtain ⟨d, hescape, hfound⟩ := Option.map_eq_some_iff.mp h
      cases hfound
      rw [readPoint]
      · rw [hescape, Option.map_some]
      · exact hunicode
  · next hquote hunicode hescape =>
      split_ifs at h with hrefused
      cases h
      rw [readPoint]
      · rw [if_neg hrefused]
      · exact hquote
      · exact hunicode
      · exact hescape

theorem readText_of_readString {fuel : Nat} {cs rest s : List Char}
    (h : readString fuel cs = some (s, rest)) :
    readText fuel cs = some (PyText.ofChars s, rest) := by
  induction fuel generalizing cs s with
  | zero => cases h
  | succ fuel ih =>
      rw [readString.eq_def] at h
      simp only at h
      split at h
      · cases h
        rfl
      · next hquote =>
          obtain ⟨⟨c, after⟩, hread, h⟩ := Option.bind_eq_some_iff.mp h
          obtain ⟨⟨s', rest'⟩, hstring, h⟩ := Option.map_eq_some_iff.mp h
          cases h
          rw [readText]
          · rw [readPoint_of_loadsRead hread, Option.bind_some]
            dsimp only
            rw [ih hstring]
            rfl
          · exact hquote

/-! ### Dictionaries -/

namespace HookJson

theorem assign_map {α β : Type} (f : α → β) (key : PyText) (a : α) (members : List (PyText × α)) :
    (assign key a members).map (Prod.map id f) = assign key (f a) (members.map (Prod.map id f)) := by
  induction members with
  | nil => rfl
  | cons m members ih =>
      obtain ⟨k, b⟩ := m
      rw [List.map_cons, Prod.map_apply, id_eq, assign, assign]
      split
      · rfl
      · rw [List.map_cons, ih]
        rfl

theorem assign_ofString {α : Type} (key : String) (a : α) (members : List (String × α)) :
    assign (PyText.ofString key) a (members.map (Prod.map PyText.ofString id)) =
      (setItem members key a).map (Prod.map PyText.ofString id) := by
  induction members with
  | nil => rfl
  | cons m members ih =>
      obtain ⟨k, b⟩ := m
      rw [List.map_cons, Prod.map_apply, id_eq, assign, setItem]
      by_cases hk : k = key
      · rw [if_pos (congrArg PyText.ofString hk), if_pos hk]
        rfl
      · rw [if_neg fun h => hk (PyText.ofString_injective h), if_neg hk, ih]
        rfl

theorem ofPairs_map {α β : Type} (f : α → β) (pairs : List (PyText × α)) :
    (ofPairs pairs).map (Prod.map id f) = ofPairs (pairs.map (Prod.map id f)) := by
  have hfold : ∀ members : List (PyText × α),
      (pairs.foldl (fun members m => assign m.1 m.2 members) members).map (Prod.map id f) =
        (pairs.map (Prod.map id f)).foldl (fun members m => assign m.1 m.2 members)
          (members.map (Prod.map id f)) := by
    induction pairs with
    | nil => exact fun _ => rfl
    | cons m pairs ih =>
        intro members
        rw [List.map_cons, List.foldl_cons, List.foldl_cons, ih, assign_map]
        rfl
  exact hfold []

/-- A dictionary with Unicode keys. -/
theorem ofPairs_ofString {α : Type} (pairs : List (String × α)) :
    ofPairs (pairs.map (Prod.map PyText.ofString id)) =
      (dictOf pairs).map (Prod.map PyText.ofString id) := by
  have hfold : ∀ members : List (String × α),
      (pairs.map (Prod.map PyText.ofString id)).foldl (fun members m => assign m.1 m.2 members)
          (members.map (Prod.map PyText.ofString id)) =
        (pairs.foldl (fun members m => setItem members m.1 m.2) members).map
          (Prod.map PyText.ofString id) := by
    induction pairs with
    | nil => exact fun _ => rfl
    | cons m pairs ih =>
        intro members
        rw [List.map_cons, List.foldl_cons, List.foldl_cons, Prod.map_fst, Prod.map_snd,
          id_eq, assign_ofString, ih]
  exact hfold []

/-! ### Values -/

mutual
/-- What is read, as a value. -/
def value : HookJson JsonValue → JsonValue
  | .null => .null
  | .bool b => .bool b
  | .constant name => .float name
  | .number n => n
  | .str text => .str text.unicode
  | .arr items => .arr (valueItems items)
  | .obj members => .obj (valueMembers members)

def valueItems : List (HookJson JsonValue) → List JsonValue
  | [] => []
  | v :: vs => value v :: valueItems vs

def valueMembers : List (PyText × HookJson JsonValue) → List (String × JsonValue)
  | [] => []
  | (k, v) :: ms => (k.unicode, value v) :: valueMembers ms
end

theorem valueMembers_eq_map (ms : List (PyText × HookJson JsonValue)) :
    valueMembers ms = (ms.map (Prod.map id value)).map (Prod.map PyText.unicode id) := by
  induction ms with
  | nil => rfl
  | cons m ms ih =>
      rw [valueMembers, ih]
      rfl

/-- The members that are read are those of the other reader, under their Unicode keys. -/
def SameMembers (entries : List (PyText × HookJson JsonValue))
    (members : List (String × JsonValue)) : Prop :=
  entries.map (Prod.map id value) = members.map (Prod.map PyText.ofString id)

theorem SameMembers.cons {entries : List (PyText × HookJson JsonValue)}
    {members : List (String × JsonValue)} (h : SameMembers entries members) {key : String}
    {v : HookJson JsonValue} :
    SameMembers ((PyText.ofString key, v) :: entries) ((key, value v) :: members) := by
  rw [SameMembers, List.map_cons, List.map_cons, h]
  rfl

theorem value_obj {entries : List (PyText × HookJson JsonValue)}
    {members : List (String × JsonValue)} (h : SameMembers entries members) :
    value (.obj (ofPairs entries)) = .obj (dictOf members) := by
  have hkeys : (Prod.map PyText.unicode id ∘ Prod.map PyText.ofString id :
      String × JsonValue → String × JsonValue) = id := by
    funext m
    rw [Function.comp_apply, Prod.map_apply, Prod.map_apply, PyText.unicode_ofString]
    rfl
  rw [value, valueMembers_eq_map, ofPairs_map, h, ofPairs_ofString, List.map_map, hkeys,
    List.map_id]

/-! ### One step of the reader -/

section Steps

variable {ε ν : Type} {hooks : NumberHooks ε ν} {cs rest : List Char} {bracket : Bracket}
  {entries : List (PyText × HookJson ν)}

theorem scanOnce_of_scalar {v : HookJson ν} (hopening : opening cs = none)
    (hscalar : readScalar hooks cs = .ok (v, rest)) : scanOnce hooks cs = .ok (v, rest) := by
  rw [scanOnce_eq, hopening]
  exact hscalar

theorem scanOnce_empty {inner : List Char} (hopening : opening cs = some (bracket, inner))
    (hclose : inner = bracket.close :: rest) : scanOnce hooks cs = .ok (bracket.build [], rest) := by
  rw [scanOnce_eq, hopening, hclose]
  exact if_pos rfl

theorem scanOnce_of_entries {inner : List Char} (hopening : opening cs = some (bracket, inner))
    (hnonempty : ∀ more, inner ≠ bracket.close :: more)
    (hentries : scanEntries hooks bracket inner = .ok (entries, rest)) :
    scanOnce hooks cs = .ok (bracket.build entries, rest) := by
  have hhead : inner.head? ≠ some bracket.close := by
    intro h
    obtain ⟨more, rfl⟩ := List.head?_eq_some_iff.mp h
    exact hnonempty more rfl
  rw [scanOnce_eq, hopening]
  simp only [hhead, if_false, hentries, Except.ok_bind]
  rfl

variable {value after more : List Char} {key : PyText} {v : HookJson ν}

theorem scanEntries_last (hhead : readHead bracket cs = some (key, value))
    (hread : scanOnce hooks value = .ok (v, after))
    (hclose : skipSpace after = bracket.close :: rest) :
    scanEntries hooks bracket cs = .ok ([(key, v)], rest) := by
  rw [scanEntries_eq, hhead]
  simp only [hread, Except.ok_bind, hclose, if_true]
  rfl

theorem scanEntries_next (hhead : readHead bracket cs = some (key, value))
    (hread : scanOnce hooks value = .ok (v, after)) (hcomma : skipSpace after = ',' :: more)
    (hmore : scanEntries hooks bracket (skipSpace more) = .ok (entries, rest)) :
    scanEntries hooks bracket cs = .ok ((key, v) :: entries, rest) := by
  have hopen : ',' ≠ bracket.close := by cases bracket <;> decide
  rw [scanEntries_eq, hhead]
  simp only [hread, Except.ok_bind, hcomma, hopen, if_false, if_true, hmore]
  rfl

end Steps

/-! ### The two readers -/

variable (floats : FloatText)

/-- The hooks that make values of all numbers. -/
def plainHooks : NumberHooks Empty JsonValue where
  parseInt literal := .ok (.int (readInt literal))
  parseFloat literal := .ok (.float (floats.normal (String.ofList literal)))

variable {floats}

theorem findSome?_names (cs : List Char) :
    (constants.findSome? fun (name, v) => (dropName name.toList cs).map fun rest => (v, rest)) =
      ((names.findSome? fun (name, w) => (dropName name.toList cs).map fun rest => (w, rest)).map
        (Prod.map value id)) := by
  have hnames : constants = names.map (Prod.map id value) := by
    simp [constants, names, value]
  rw [hnames, List.findSome?_map, List.map_findSome?]
  congr 1
  funext m
  rw [Function.comp_apply, Function.comp_apply, Option.map_map]
  rfl

theorem readScalar_of_parseLiteral {cs rest : List Char} {v : JsonValue}
    (h : parseLiteral floats cs = some (v, rest)) (hquote : ∀ tail, cs ≠ '"' :: tail) :
    ∃ w, readScalar (plainHooks floats) cs = .ok (w, rest) ∧ value w = v := by
  rw [parseLiteral, findSome?_names] at h
  rw [readScalar]
  · cases hname : names.findSome? fun (name, w) =>
      (dropName name.toList cs).map fun rest => ((w, rest) : HookJson JsonValue × List Char) with
    | some found =>
        rw [hname] at h
        cases h
        exact ⟨found.1, rfl, rfl⟩
    | none =>
        rw [hname] at h
        obtain ⟨⟨literal, isFloat, after⟩, hscan, h⟩ := Option.map_eq_some_iff.mp h
        cases isFloat
        · cases h
          exact ⟨_, by rw [hscan]; rfl, rfl⟩
        · cases h
          exact ⟨_, by rw [hscan]; rfl, rfl⟩
  · exact hquote

theorem readHead_of_readString {cs key after rest : List Char}
    (hkey : readString (cs.length + 1) cs = some (key, after))
    (hcolon : skipSpace after = ':' :: rest) :
    readHead .object ('"' :: cs) = some (PyText.ofString (String.ofList key), skipSpace rest) := by
  rw [readHead, readText_of_readString hkey, Option.bind_some, PyText.ofString,
    String.toList_ofList]
  simp only [hcolon]

variable (floats) in
/-- The reader with hooks reads all that the other reads with some fuel: a value, the items of
an array and the members of an object. -/
structure ReadsAsWell (fuel : Nat) : Prop where
  value : ∀ {cs v rest}, parseValue floats fuel cs = some (v, rest) →
    ∃ w, scanOnce (plainHooks floats) cs = .ok (w, rest) ∧ HookJson.value w = v
  items : ∀ {cs vs rest}, parseItems floats fuel cs = some (vs, rest) →
    ∃ entries, scanEntries (plainHooks floats) .array cs = .ok (entries, rest) ∧
      valueItems (entries.map Prod.snd) = vs
  members : ∀ {cs ms rest}, parseMembers floats fuel cs = some (ms, rest) →
    ∃ entries, scanEntries (plainHooks floats) .object cs = .ok (entries, rest) ∧
      SameMembers entries ms

namespace ReadsAsWell

variable {fuel : Nat} (ih : ReadsAsWell floats fuel)
include ih

theorem value_succ {cs rest : List Char} {v : JsonValue}
    (h : parseValue floats (fuel + 1) cs = some (v, rest)) :
    ∃ w, scanOnce (plainHooks floats) cs = .ok (w, rest) ∧ HookJson.value w = v := by
    rw [parseValue.eq_def] at h
    simp only at h
    split at h
    · next cs =>
        obtain ⟨⟨s, after⟩, hstring, h⟩ := Option.map_eq_some_iff.mp h
        cases h
        refine ⟨.str (PyText.ofChars s), scanOnce_of_scalar rfl ?_, ?_⟩
        · rw [readScalar, readText_of_readString hstring]
        · rw [HookJson.value, PyText.unicode, PyText.chars_ofChars, Option.getD_some]
    · next cs =>
        split at h
        · next hclose =>
            cases h
            have hopening : opening ('{' :: cs) = some (.object, skipSpace cs) := rfl
            exact ⟨.obj [], scanOnce_empty hopening hclose, rfl⟩
        · next hnonempty =>
            obtain ⟨⟨ms, after⟩, hmembers, h⟩ := Option.map_eq_some_iff.mp h
            cases h
            obtain ⟨entries, hentries, hsame⟩ := ih.members hmembers
            exact ⟨_, scanOnce_of_entries rfl hnonempty hentries, value_obj hsame⟩
    · next cs =>
        split at h
        · next hclose =>
            cases h
            have hopening : opening ('[' :: cs) = some (.array, skipSpace cs) := rfl
            exact ⟨.arr [], scanOnce_empty hopening hclose, rfl⟩
        · next hnonempty =>
            obtain ⟨⟨vs, after⟩, hitems, h⟩ := Option.map_eq_some_iff.mp h
            cases h
            obtain ⟨entries, hentries, hvalues⟩ := ih.items hitems
            refine ⟨_, scanOnce_of_entries rfl hnonempty hentries, ?_⟩
            rw [Bracket.build, HookJson.value, hvalues]
    · next hquote hobject harray =>
        obtain ⟨w, hscalar, hvalue⟩ := readScalar_of_parseLiteral h hquote
        refine ⟨w, scanOnce_of_scalar ?_ hscalar, hvalue⟩
        unfold opening
        split
        · exact absurd rfl (harray _)
        · exact absurd rfl (hobject _)
        · rfl

theorem items_succ {cs rest : List Char} {vs : List JsonValue}
    (h : parseItems floats (fuel + 1) cs = some (vs, rest)) :
    ∃ entries, scanEntries (plainHooks floats) .array cs = .ok (entries, rest) ∧
      valueItems (entries.map Prod.snd) = vs := by
    rw [parseItems] at h
    obtain ⟨⟨v, after⟩, hvalue, h⟩ := Option.bind_eq_some_iff.mp h
    obtain ⟨w, hread, rfl⟩ := ih.value hvalue
    simp only at h
    split at h
    · next hclose =>
        cases h
        exact ⟨_, scanEntries_last rfl hread hclose, rfl⟩
    · next hcomma =>
        obtain ⟨⟨vs', rest'⟩, hitems, h⟩ := Option.map_eq_some_iff.mp h
        cases h
        obtain ⟨entries, hentries, hvalues⟩ := ih.items hitems
        refine ⟨_, scanEntries_next rfl hread hcomma hentries, ?_⟩
        rw [List.map_cons, valueItems, hvalues]
    · cases h

theorem members_succ {cs rest : List Char} {ms : List (String × JsonValue)}
    (h : parseMembers floats (fuel + 1) cs = some (ms, rest)) :
    ∃ entries, scanEntries (plainHooks floats) .object cs = .ok (entries, rest) ∧
      SameMembers entries ms := by
    rw [parseMembers.eq_def] at h
    simp only at h
    split at h
    · obtain ⟨⟨k, afterKey⟩, hkey, h⟩ := Option.bind_eq_some_iff.mp h
      simp only at h
      split at h
      · next hcolon =>
          obtain ⟨⟨v, after⟩, hvalue, h⟩ := Option.bind_eq_some_iff.mp h
          obtain ⟨w, hread, rfl⟩ := ih.value hvalue
          have hhead := readHead_of_readString hkey hcolon
          simp only at h
          split at h
          · next hclose =>
              cases h
              exact ⟨_, scanEntries_last hhead hread hclose, rfl⟩
          · next hcomma =>
              obtain ⟨⟨ms', rest'⟩, hmembers, h⟩ := Option.map_eq_some_iff.mp h
              cases h
              obtain ⟨entries, hentries, hsame⟩ := ih.members hmembers
              exact ⟨_, scanEntries_next hhead hread hcomma hentries, hsame.cons⟩
          · cases h
      · cases h
    · cases h

end ReadsAsWell

theorem readsAsWell (fuel : Nat) : ReadsAsWell floats fuel := by
  induction fuel with
  | zero => exact ⟨nofun, nofun, nofun⟩
  | succ fuel ih => exact ⟨ih.value_succ, ih.items_succ, ih.members_succ⟩

/-- **What one reader reads, the other reads as the same value.** -/
theorem loads_of_loads {s : String} {v : JsonValue} (h : JsonValue.loads floats s = some v) :
    ∃ w, loads (plainHooks floats) s.toList = .ok w ∧ value w = v := by
  rw [JsonValue.loads] at h
  split at h
  · next v' rest hparse =>
      split_ifs at h with hspace
      cases h
      obtain ⟨w, hscan, hvalue⟩ := (readsAsWell _).value hparse
      have hmark : s.toList.head? ≠ some '\uFEFF' := by
        intro hhead
        obtain ⟨ds, hds⟩ := List.head?_eq_some_iff.mp hhead
        have hskip : skipSpace ('\uFEFF' :: ds) = '\uFEFF' :: ds := rfl
        rw [hds, hskip, scanOnce_mark] at hscan
        cases hscan
      refine ⟨w, ?_, hvalue⟩
      rw [loads, if_neg hmark, hscan, Except.ok_bind]
      exact if_pos hspace
  · cases h

end HookJson

import Vrl.Lib.GoJson
import Vrl.Lib.JsonEquality
import Vrl.Lib.JsonLoads

/-!
# Vrl.Lib.GoJsonReader

A reader of compact JSON texts that gives up beyond a depth, as `encoding/json` does.

What was written is read back exactly if it is not nested too deeply
(**`GoJson.read_text`**), whichever way its strings are escaped. White space between
tokens, which `json.Marshal` does not write, is not looked for.
-/

open TextCodec

/-! ### Depth -/

namespace Json

mutual
/-- How many brackets are open at once in the text of a value. -/
def depth : Json → Nat
  | .null | .bool _ | .int _ | .str _ => 0
  | .arr items => itemsDepth items + 1
  | .obj members => membersDepth members + 1

def itemsDepth : List Json → Nat
  | [] => 0
  | v :: vs => max (depth v) (itemsDepth vs)

def membersDepth : List (String × Json) → Nat
  | [] => 0
  | (_, v) :: ms => max (depth v) (membersDepth ms)
end

theorem membersDepth_le_iff {ms : List (String × Json)} {n : Nat} :
    membersDepth ms ≤ n ↔ ∀ m ∈ ms, depth m.2 ≤ n := by
  induction ms with
  | nil => simp [membersDepth]
  | cons m ms ih => rw [membersDepth, max_le_iff, ih, List.forall_mem_cons]

mutual
/-- The order of the members does not count. -/
theorem depth_sortKeys : ∀ v : Json, depth (sortKeys v) = depth v
  | .null | .bool _ | .int _ | .str _ => by rw [sortKeys]
  | .arr vs => by rw [sortKeys, depth, depth, itemsDepth_sortKeys vs]
  | .obj ms => by
      have hsorted : membersDepth (sortMembers (sortKeysMembers ms)) =
          membersDepth (sortKeysMembers ms) := by
        refine eq_of_forall_ge_iff fun n => ?_
        simp only [membersDepth_le_iff, mem_sortMembers]
      rw [sortKeys, depth, depth, hsorted, membersDepth_sortKeys ms]

theorem itemsDepth_sortKeys : ∀ vs : List Json, itemsDepth (sortKeysItems vs) = itemsDepth vs
  | [] => by rw [sortKeysItems]
  | v :: vs => by rw [sortKeysItems, itemsDepth, itemsDepth, depth_sortKeys v,
      itemsDepth_sortKeys vs]

theorem membersDepth_sortKeys : ∀ ms : List (String × Json),
    membersDepth (sortKeysMembers ms) = membersDepth ms
  | [] => by rw [sortKeysMembers]
  | (k, v) :: ms => by rw [sortKeysMembers, membersDepth, membersDepth, depth_sortKeys v,
      membersDepth_sortKeys ms]
end

end Json

namespace GoJson

open JsonValue (dropName numberEnd_nil numberEnd_append)

variable (code : StringCode)

/-! ### The reader -/

/-- The rest of a string literal after its opening quote. -/
def readBody : Nat → List Char → Option (List Char × List Char)
  | 0, _ => none
  | fuel + 1, cs =>
      match cs with
      | '"' :: rest => some ([], rest)
      | _ =>
          (code.read cs).bind fun (c, rest) =>
            (readBody fuel rest).map fun (s, rest) => (c :: s, rest)

/-- The names that stand for values. -/
def names : List (String × Json) :=
  [("null", .null), ("true", .bool true), ("false", .bool false)]

/-- A name or an integer. -/
def readScalar (cs : List Char) : Option (Json × List Char) :=
  match names.findSome? fun (name, v) => (dropName name.toList cs).map fun rest => (v, rest) with
  | some found => some found
  | none =>
      (scanNumber cs).bind fun (literal, isFloat, rest) =>
        if isFloat then none else some (.int (readInt literal), rest)

mutual
/-- A value at the front of a text, with as many brackets open in it as are allowed. -/
def readValue : Nat → Nat → List Char → Option (Json × List Char)
  | 0, _, _ => none
  | fuel + 1, allowed, cs =>
      match cs with
      | '"' :: cs => (readBody code (cs.length + 1) cs).map fun (s, rest) =>
          (.str (String.ofList s), rest)
      | '[' :: cs =>
          match allowed, cs with
          | 0, _ => none
          | _ + 1, ']' :: rest => some (.arr [], rest)
          | allowed + 1, cs => (readItems fuel allowed cs).map fun (vs, rest) => (.arr vs, rest)
      | '{' :: cs =>
          match allowed, cs with
          | 0, _ => none
          | _ + 1, '}' :: rest => some (.obj [], rest)
          | allowed + 1, cs => (readMembers fuel allowed cs).map fun (ms, rest) =>
              (.obj (dictOf ms), rest)
      | cs => readScalar cs

/-- The items of an array up to its closing bracket. -/
def readItems : Nat → Nat → List Char → Option (List Json × List Char)
  | 0, _, _ => none
  | fuel + 1, allowed, cs =>
      (readValue fuel allowed cs).bind fun (v, rest) =>
        match rest with
        | ']' :: rest => some ([v], rest)
        | ',' :: rest => (readItems fuel allowed rest).map fun (vs, rest) => (v :: vs, rest)
        | _ => none

/-- The members of an object up to its closing brace. -/
def readMembers : Nat → Nat → List Char → Option (List (String × Json) × List Char)
  | 0, _, _ => none
  | fuel + 1, allowed, cs =>
      match cs with
      | '"' :: cs =>
          (readBody code (cs.length + 1) cs).bind fun (k, rest) =>
            match rest with
            | ':' :: rest =>
                (readValue fuel allowed rest).bind fun (v, rest) =>
                  match rest with
                  | '}' :: rest => some ([(String.ofList k, v)], rest)
                  | ',' :: rest => (readMembers fuel allowed rest).map fun (ms, rest) =>
                      ((String.ofList k, v) :: ms, rest)
                  | _ => none
            | _ => none
      | _ => none
end

/-- The value that a text is, if it is one and not nested too deeply. -/
def read (limit : Nat) (cs : List Char) : Option Json :=
  match readValue code (cs.length + 1) limit cs with
  | some (v, []) => some v
  | _ => none

/-! ### Tokens -/

/-- A string literal is read as what it was written from. -/
theorem readBody_body : ∀ (cs r : List Char) {fuel : Nat}, cs.length < fuel →
    readBody code fuel (code.body cs ++ r) = some (cs, r)
  | [], r, fuel + 1, _ => by rw [StringCode.body, List.singleton_append, readBody]
  | c :: cs, r, fuel + 1, h => by
      have hrest : readBody code fuel (code.body cs ++ r) = some (cs, r) :=
        readBody_body cs r (by simpa using h)
      have hread := code.read_escape c (code.body cs ++ r)
      rw [StringCode.body, List.append_assoc]
      rw [readBody, hread, Option.bind_some]
      · show (readBody code fuel (code.body cs ++ r)).map _ = _
        rw [hrest, Option.map_some]
      · -- no escape begins with the closing quote
        intro rest heq
        rw [heq, code.read_quote] at hread
        cases hread

/-- The body of a string literal is not shorter than the string. -/
theorem length_lt_body (cs : List Char) : cs.length < (code.body cs).length := by
  induction cs with
  | nil => exact Nat.one_pos
  | cons c cs ih =>
      have hescape : code.escape c ≠ [] := by
        intro hnil
        have hread := code.read_escape c ['"']
        rw [hnil, List.nil_append, code.read_quote] at hread
        cases hread
      have hpos := List.length_pos_iff.mpr hescape
      rw [StringCode.body, List.length_append, List.length_cons]
      omega

theorem readBody_quoted (s : String) (r : List Char) :
    readBody code ((code.body s.toList ++ r).length + 1) (code.body s.toList ++ r) =
      some (s.toList, r) := by
  have hbody := length_lt_body code s.toList
  refine readBody_body code s.toList r ?_
  rw [List.length_append]
  omega

theorem readScalar_of_name {name : String} {v : Json} (h : (name, v) ∈ names) (r : List Char) :
    readScalar (name.toList ++ r) = some (v, r) := by
  simp only [names, List.mem_cons, Prod.mk.injEq, List.not_mem_nil, or_false] at h
  rcases h with ⟨rfl, rfl⟩ | ⟨rfl, rfl⟩ | ⟨rfl, rfl⟩ <;> rfl

/-- A number begins with a digit or a minus, and no name does. -/
theorem readScalar_of_scanNumber {cs literal rest : List Char} {isFloat : Bool}
    (h : scanNumber cs = some (literal, isFloat, rest)) :
    readScalar cs = if isFloat then none else some (.int (readInt literal), rest) := by
  have hname : ∀ name ∈ ["null", "true", "false"], dropName name.toList cs = none := by
    obtain ⟨c, ds, hc, rfl | rfl⟩ := JsonValue.scanNumber_lead h
    · have hne : ∀ d, isDecimal d = false → d ≠ c := by
        rintro d hd rfl
        rw [hc] at hd
        cases hd
      simp [dropName, hne 'n' (by decide), hne 't' (by decide), hne 'f' (by decide)]
    · simp [dropName]
  simp only [List.forall_mem_cons] at hname
  simp only [readScalar, names, List.findSome?_cons, hname, Option.map_none, List.findSome?_nil, h,
    Option.bind_some]

theorem readScalar_intText (i : Int) {r : List Char} (hr : NumberEnd r) :
    readScalar (intText i ++ r) = some (.int i, r) := by
  have hscan := scanNumber_append hr (scanNumber_intText i)
  rw [readScalar_of_scanNumber hscan, readInt_intText]
  rfl

section Step

variable {code : StringCode} {fuel allowed : Nat} {cs r : List Char}

theorem readValue_of_scalar
    (h : ∀ ds, cs ≠ '"' :: ds ∧ cs ≠ '[' :: ds ∧ cs ≠ '{' :: ds) :
    readValue code (fuel + 1) allowed cs = readScalar cs := by
  rw [readValue]
  · exact fun ds => (h ds).1
  · exact fun ds => (h ds).2.1
  · exact fun ds => (h ds).2.2

/-- A bracket opens if one more is allowed. -/
theorem readValue_arr (hcs : ∀ ds, cs ≠ ']' :: ds) :
    readValue code (fuel + 1) (allowed + 1) ('[' :: cs) =
      (readItems code fuel allowed cs).map fun (vs, rest) => (.arr vs, rest) := by
  rw [readValue]
  exact hcs

theorem readValue_obj (hcs : ∀ ds, cs ≠ '}' :: ds) :
    readValue code (fuel + 1) (allowed + 1) ('{' :: cs) =
      (readMembers code fuel allowed cs).map fun (ms, rest) => (.obj (dictOf ms), rest) := by
  rw [readValue]
  exact hcs

theorem readItems_last {v : Json} {rest : List Char}
    (hv : readValue code fuel allowed cs = some (v, ']' :: rest)) :
    readItems code (fuel + 1) allowed cs = some ([v], rest) := by
  rw [readItems, hv]
  rfl

theorem readItems_more {v : Json} {rest : List Char}
    (hv : readValue code fuel allowed cs = some (v, ',' :: rest)) :
    readItems code (fuel + 1) allowed cs =
      (readItems code fuel allowed rest).map fun (vs, rest) => (v :: vs, rest) := by
  rw [readItems, hv]
  rfl

theorem readItems_none (hv : readValue code fuel allowed cs = none) :
    readItems code (fuel + 1) allowed cs = none := by
  rw [readItems, hv]
  rfl

/-- A member is read up to its value. -/
theorem readMembers_key (key : String) (cs : List Char) :
    readMembers code (fuel + 1) allowed (code.quoted key ++ ':' :: cs) =
      (readValue code fuel allowed cs).bind fun (v, rest) =>
        match rest with
        | '}' :: rest => some ([(key, v)], rest)
        | ',' :: rest => (readMembers code fuel allowed rest).map fun (ms, rest) =>
            ((key, v) :: ms, rest)
        | _ => none := by
  rw [StringCode.quoted, List.cons_append, readMembers, readBody_quoted, Option.bind_some]
  simp only [String.ofList_toList]

end Step

/-! ### Reading back -/

section ReadBack

variable {code}

/-- Texts of names and integers are no string literals and open no bracket. -/
theorem readValue_text_of_scalar {v : Json} {fuel allowed : Nat} {r : List Char}
    (hv : v.ctorIndex ≤ 2) : readValue code (fuel + 1) allowed (v.text code ++ r) =
      readScalar (v.text code ++ r) := by
  obtain ⟨d, es, htext, hd⟩ := Json.text_lead code v
  have hne : ∀ c, 2 < Json.leadIndex c → d ≠ c := by
    rintro c hc rfl
    omega
  rw [htext, List.cons_append]
  refine readValue_of_scalar fun ds => ⟨?_, ?_, ?_⟩
  · exact fun heq => hne '"' (by decide) (List.cons.inj heq).1
  · exact fun heq => hne '[' (by decide) (List.cons.inj heq).1
  · exact fun heq => hne '{' (by decide) (List.cons.inj heq).1

theorem numberEnd_cons {c : Char} (hc : c = ',' ∨ c = ']' ∨ c = '}') (r : List Char) :
    NumberEnd (c :: r) := numberEnd_append (List.forall_mem_nil _) hc r

mutual
/-- The text of a value is read as the value if so many brackets are allowed, and is
refused otherwise. The induction is on the value; the fuel only has to exceed the length
of its text. -/
theorem readValue_text : ∀ (v : Json) {r : List Char} {fuel allowed : Nat}, v.KeysDistinct →
    NumberEnd r → (v.text code).length < fuel →
    readValue code fuel allowed (v.text code ++ r) =
      if v.depth ≤ allowed then some (v, r) else none
  | .null, r, fuel + 1, allowed, _, _, _ => by
      rw [readValue_text_of_scalar (by decide), Json.depth, if_pos (Nat.zero_le _)]
      exact readScalar_of_name (show ("null", .null) ∈ names by simp [names]) r
  | .bool true, r, fuel + 1, allowed, _, _, _ => by
      rw [readValue_text_of_scalar (by decide), Json.depth, if_pos (Nat.zero_le _)]
      exact readScalar_of_name (show ("true", .bool true) ∈ names by simp [names]) r
  | .bool false, r, fuel + 1, allowed, _, _, _ => by
      rw [readValue_text_of_scalar (by decide), Json.depth, if_pos (Nat.zero_le _)]
      exact readScalar_of_name (show ("false", .bool false) ∈ names by simp [names]) r
  | .int i, r, fuel + 1, allowed, _, hr, _ => by
      rw [@readValue_text_of_scalar code (.int i) _ _ _ (Nat.le_refl 2), Json.depth,
        if_pos (Nat.zero_le _), Json.text]
      exact readScalar_intText i hr
  | .str s, r, fuel + 1, allowed, _, _, _ => by
      rw [Json.text, StringCode.quoted, List.cons_append, readValue, readBody_quoted,
        Option.map_some, Json.depth, if_pos (Nat.zero_le _)]
      simp only [String.ofList_toList]
  | .arr vs, r, fuel + 1, 0, _, _, _ => by
      rw [Json.text, List.cons_append, readValue, Json.depth, if_neg (by omega)]
  | .arr [], r, fuel + 1, allowed + 1, _, _, _ => by
      rw [Json.depth, Json.itemsDepth, if_pos (by omega)]
      rfl
  | .arr (v :: vs), r, fuel + 1, allowed + 1, hv, _, hfuel => by
      rw [Json.KeysDistinct] at hv
      rw [Json.text, List.length_cons] at hfuel
      have hopen : ∀ ds, Json.itemsText code (v :: vs) ++ r ≠ ']' :: ds := by
        intro ds
        cases vs with
        | nil =>
            rw [Json.itemsText, List.append_assoc]
            exact Json.text_append_ne (.inl rfl)
        | cons w vs =>
            rw [Json.itemsText, List.append_assoc]
            exact Json.text_append_ne (.inl rfl)
      rw [Json.text, List.cons_append, readValue_arr hopen, readItems_text v vs hv (by omega),
        Json.depth]
      simp only [Nat.add_le_add_iff_right]
      split_ifs <;> rfl
  | .obj ms, r, fuel + 1, 0, _, _, _ => by
      rw [Json.text, List.cons_append, readValue, Json.depth, if_neg (by omega)]
  | .obj [], r, fuel + 1, allowed + 1, _, _, _ => by
      rw [Json.depth, Json.membersDepth, if_pos (by omega)]
      rfl
  | .obj (m :: ms), r, fuel + 1, allowed + 1, hv, _, hfuel => by
      rw [Json.KeysDistinct] at hv
      rw [Json.text, List.length_cons] at hfuel
      have hopen : ∀ ds, Json.membersText code (m :: ms) ++ r ≠ '}' :: ds := by
        intro ds
        cases ms with
        | nil =>
            rw [Json.membersText, StringCode.quoted]
            exact fun heq => absurd (List.cons.inj heq).1 (by decide)
        | cons n ms =>
            rw [Json.membersText, StringCode.quoted]
            exact fun heq => absurd (List.cons.inj heq).1 (by decide)
      rw [Json.text, List.cons_append, readValue_obj hopen, readMembers_text m ms hv.2 (by omega),
        Json.depth]
      simp only [Nat.add_le_add_iff_right]
      split_ifs
      · rw [Option.map_some, dictOf_of_nodup hv.1]
      · rfl

/-- The items of an array are read up to the bracket that closes it. -/
theorem readItems_text : ∀ (v : Json) (vs : List Json) {r : List Char} {fuel allowed : Nat},
    Json.KeysDistinctItems (v :: vs) → (Json.itemsText code (v :: vs)).length < fuel →
    readItems code fuel allowed (Json.itemsText code (v :: vs) ++ r) =
      if Json.itemsDepth (v :: vs) ≤ allowed then some (v :: vs, r) else none
  | v, [], r, fuel + 1, allowed, hv, hfuel => by
      rw [Json.KeysDistinctItems] at hv
      rw [Json.itemsText, List.length_append, List.length_singleton] at hfuel
      have hvalue : readValue code fuel allowed (v.text code ++ ']' :: r) =
          if v.depth ≤ allowed then some (v, ']' :: r) else none :=
        readValue_text v hv.1 (numberEnd_cons (.inr (.inl rfl)) r) (by omega)
      rw [Json.itemsText, List.append_assoc, List.singleton_append]
      simp only [Json.itemsDepth, Nat.max_zero]
      split_ifs at hvalue ⊢
      · exact readItems_last hvalue
      · exact readItems_none hvalue
  | v, w :: vs, r, fuel + 1, allowed, hv, hfuel => by
      rw [Json.KeysDistinctItems] at hv
      rw [Json.itemsText, List.length_append, List.length_cons] at hfuel
      have hread : ∀ rest, readValue code fuel allowed (v.text code ++ ',' :: rest) =
          if v.depth ≤ allowed then some (v, ',' :: rest) else none :=
        fun rest => readValue_text v hv.1 (numberEnd_cons (.inl rfl) rest) (by omega)
      have hvalue := hread (Json.itemsText code (w :: vs) ++ r)
      rw [Json.itemsText, List.append_assoc, List.cons_append, Json.itemsDepth]
      by_cases hdepth : v.depth ≤ allowed
      · rw [if_pos hdepth] at hvalue
        rw [readItems_more hvalue, readItems_text w vs hv.2 (by omega)]
        simp only [max_le_iff, hdepth, true_and]
        split_ifs <;> rfl
      · rw [if_neg hdepth] at hvalue
        rw [readItems_none hvalue, if_neg (fun hmax => hdepth (max_le_iff.mp hmax).1)]

/-- The members of an object are read up to the brace that closes it. -/
theorem readMembers_text : ∀ (m : String × Json) (ms : List (String × Json)) {r : List Char}
    {fuel allowed : Nat}, Json.KeysDistinctMembers (m :: ms) →
    (Json.membersText code (m :: ms)).length < fuel →
    readMembers code fuel allowed (Json.membersText code (m :: ms) ++ r) =
      if Json.membersDepth (m :: ms) ≤ allowed then some (m :: ms, r) else none
  | (k, v), [], r, fuel + 1, allowed, hv, hfuel => by
      rw [Json.KeysDistinctMembers] at hv
      rw [Json.membersText] at hfuel ⊢
      simp only [List.length_append, List.length_cons, List.length_nil] at hfuel
      have hvalue : readValue code fuel allowed (v.text code ++ '}' :: r) =
          if v.depth ≤ allowed then some (v, '}' :: r) else none :=
        readValue_text v hv.1 (numberEnd_cons (.inr (.inr rfl)) r) (by omega)
      simp only [List.append_assoc, List.cons_append, List.nil_append]
      rw [readMembers_key, hvalue, Json.membersDepth, Json.membersDepth, Nat.max_zero]
      split_ifs <;> rfl
  | (k, v), m :: ms, r, fuel + 1, allowed, hv, hfuel => by
      rw [Json.KeysDistinctMembers] at hv
      rw [Json.membersText] at hfuel ⊢
      simp only [List.length_append, List.length_cons] at hfuel
      have hread : ∀ rest, readValue code fuel allowed (v.text code ++ ',' :: rest) =
          if v.depth ≤ allowed then some (v, ',' :: rest) else none :=
        fun rest => readValue_text v hv.1 (numberEnd_cons (.inl rfl) rest) (by omega)
      have hvalue := hread (Json.membersText code (m :: ms) ++ r)
      simp only [List.append_assoc, List.cons_append]
      rw [readMembers_key, hvalue, Json.membersDepth]
      by_cases hdepth : v.depth ≤ allowed
      · rw [if_pos hdepth, Option.bind_some]
        show (readMembers code fuel allowed _).map _ = _
        rw [readMembers_text m ms hv.2 (by omega)]
        simp only [max_le_iff, hdepth, true_and]
        split_ifs <;> rfl
      · rw [if_neg hdepth, if_neg (fun hmax => hdepth (max_le_iff.mp hmax).1)]
        rfl
end

/-- **A text is read back exactly if no more brackets are open at once than are allowed.** -/
theorem read_text {v : Json} (hv : v.KeysDistinct) (limit : Nat) :
    read code limit (v.text code) = if v.depth ≤ limit then some v else none := by
  have hvalue : readValue code ((v.text code).length + 1) limit (v.text code ++ []) =
      if v.depth ≤ limit then some (v, []) else none :=
    readValue_text v hv numberEnd_nil (Nat.lt_succ_self _)
  rw [List.append_nil] at hvalue
  rw [read, hvalue]
  split_ifs <;> rfl

end ReadBack

end GoJson

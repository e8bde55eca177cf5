import Vrl.Lib.JsonLoads
import Vrl.Lib.PyText

/-!
# Vrl.Lib.JsonHooks

Python's JSON reader with hooks for the numbers.

`parse_int` and `parse_float` are called for a literal as soon as it has been scanned, and what
they raise ends the reading at once, whatever the rest of the text is like. The reader raises what
a hook raises exactly if it gets to a number for which the hook does (**`loads_raised_iff`**),
where `Reaches` says what it gets to.

The strings that are read are Python's: a surrogate without its other half is kept.
-/

open TextCodec JsonValue

/-! ### Strings -/

/-- The code point that a code unit stands for, together with the unit that follows it where the
two are a pair. -/
def joinPoints (n : Nat) (cs : List Char) : CodePoint × List Char :=
  if 0xd800 ≤ n ∧ n < 0xe000 then
    match if n < 0xdc00 then joinLow n cs else none with
    | some (c, rest) => (.char c, rest)
    | none => (.surrogate (Fin.ofNat 2048 (n - 0xd800)), cs)
  else (.char (Char.ofNat n), cs)

/-- One code point off the front of the rest of a string literal. -/
def readPoint : List Char → Option (CodePoint × List Char)
  | [] => none
  | '"' :: _ => none
  | '\\' :: 'u' :: cs => (readUnit cs).map fun (n, rest) => joinPoints n rest
  | '\\' :: c :: cs => (loadsEscape c).map fun d => (.char d, cs)
  | c :: cs => if c.toNat < 0x20 ∨ c = '\\' then none else some (.char c, cs)

/-- The rest of a string literal after its opening quote: `scanstring`. -/
def readText : Nat → List Char → Option (PyText × List Char)
  | 0, _ => none
  | fuel + 1, cs =>
      match cs with
      | '"' :: rest => some ([], rest)
      | _ =>
          (readPoint cs).bind fun (point, rest) =>
            (readText fuel rest).map fun (text, rest) => (point :: text, rest)

/-! ### Values -/

/-- What a text is read as, with the numbers that the hooks make of their literals, and the names
of the constants that JSON does not have. -/
inductive HookJson (ν : Type) where
  | null
  | bool (b : Bool)
  | constant (name : String)
  | number (n : ν)
  | str (text : PyText)
  | arr (items : List (HookJson ν))
  | obj (members : List (PyText × HookJson ν))

/-- `parse_int` and `parse_float`. -/
structure NumberHooks (ε ν : Type) where
  parseInt : List Char → Except ε ν
  parseFloat : List Char → Except ε ν

/-- Why there is no value: the text is not JSON, or a hook has raised. -/
inductive ReadFailure (ε : Type) where
  | decodeError
  | raised (e : ε)
  | exhausted

namespace HookJson

/-- `d[key] = value`: an old key keeps its place. -/
def assign {α : Type} (key : PyText) (value : α) : List (PyText × α) → List (PyText × α)
  | [] => [(key, value)]
  | (k, v) :: members =>
      if k = key then (k, value) :: members else (k, v) :: assign key value members

/-- `dict(pairs)`: of several members with one key the last counts. -/
def ofPairs {α : Type} (pairs : List (PyText × α)) : List (PyText × α) :=
  pairs.foldl (fun members m => assign m.1 m.2 members) []

/-- The two kinds of collections. -/
inductive Bracket where
  | array
  | object
  deriving DecidableEq

namespace Bracket

/-- The closing bracket. -/
def close : Bracket → Char
  | .array => ']'
  | .object => '}'

/-- The collection of its entries, which have no key in an array. -/
def build {ν : Type} : Bracket → List (PyText × HookJson ν) → HookJson ν
  | .array, entries => .arr (entries.map Prod.snd)
  | .object, entries => .obj (ofPairs entries)

end Bracket

/-- A collection that begins, and where its first entry would be. -/
def opening : List Char → Option (Bracket × List Char)
  | '[' :: cs => some (.array, skipSpace cs)
  | '{' :: cs => some (.object, skipSpace cs)
  | _ => none

/-- The key of an entry, and where its value is. -/
def readHead : Bracket → List Char → Option (PyText × List Char)
  | .array, cs => some ([], cs)
  | .object, '"' :: cs =>
      (readText (cs.length + 1) cs).bind fun (key, rest) =>
        match skipSpace rest with
        | ':' :: rest => some (key, skipSpace rest)
        | _ => none
  | .object, _ => none

section Reader

variable {ε ν : Type} (hooks : NumberHooks ε ν)

/-- The hook for a literal. -/
def callHook (isFloat : Bool) (literal : List Char) : Except ε ν :=
  if isFloat then hooks.parseFloat literal else hooks.parseInt literal

/-- The names that stand for values. -/
def names : List (String × HookJson ν) :=
  [("null", .null), ("true", .bool true), ("false", .bool false), ("NaN", .constant "NaN"),
    ("Infinity", .constant "Infinity"), ("-Infinity", .constant "-Infinity")]

/-- A string, a name or a number. -/
def readScalar : List Char → Except (ReadFailure ε) (HookJson ν × List Char)
  | '"' :: cs =>
      match readText (cs.length + 1) cs with
      | some (text, rest) => .ok (.str text, rest)
      | none => .error .decodeError
  | cs =>
      match names.findSome? fun (name, v) => (dropName name.toList cs).map fun rest => (v, rest) with
      | some found => .ok found
      | none =>
          match scanNumber cs with
          | none => .error .decodeError
          | some (literal, isFloat, rest) =>
              match callHook hooks isFloat literal with
              | .ok n => .ok (.number n, rest)
              | .error e => .error (.raised e)

mutual
/-- `scan_once`: a value at the front of a text. -/
def readValue : Nat → List Char → Except (ReadFailure ε) (HookJson ν × List Char)
  | 0, _ => .error .exhausted
  | fuel + 1, cs =>
      match opening cs with
      | none => readScalar hooks cs
      | some (bracket, inner) =>
          if inner.head? = some bracket.close then .ok (bracket.build [], inner.tail)
          else do
            let (entries, rest) ← readEntries bracket fuel inner
            return (bracket.build entries, rest)

/-- The entries of a collection up to its closing bracket. -/
def readEntries (bracket : Bracket) :
    Nat → List Char → Except (ReadFailure ε) (List (PyText × HookJson ν) × List Char)
  | 0, _ => .error .exhausted
  | fuel + 1, cs =>
      match readHead bracket cs with
      | none => .error .decodeError
      | some (key, cs) => do
          let (v, rest) ← readValue fuel cs
          match skipSpace rest with
          | [] => .error .decodeError
          | c :: rest =>
              if c = bracket.close then return ([(key, v)], rest)
              else if c = ',' then do
                let (entries, rest) ← readEntries bracket fuel (skipSpace rest)
                return ((key, v) :: entries, rest)
              else .error .decodeError
end

/-- A value, with fuel for all of the text. -/
def scanOnce (cs : List Char) : Except (ReadFailure ε) (HookJson ν × List Char) :=
  readValue hooks (2 * cs.length + 1) cs

/-- Entries, with fuel for all of the text. -/
def scanEntries (bracket : Bracket) (cs : List Char) :
    Except (ReadFailure ε) (List (PyText × HookJson ν) × List Char) :=
  readEntries hooks bracket (2 * cs.length + 2) cs

/-- `json.loads`. A byte order mark is refused, and so is what follows the value. -/
def loads (cs : List Char) : Except (ReadFailure ε) (HookJson ν) :=
  if cs.head? = some '\uFEFF' then .error .decodeError
  else do
    let (v, rest) ← scanOnce hooks (skipSpace cs)
    if skipSpace rest = [] then return v else .error .decodeError

end Reader

/-! ### What is read becomes shorter -/

theorem skipSpace_length (cs : List Char) : (skipSpace cs).length ≤ cs.length :=
  List.length_dropWhile_le ..

theorem readUnit_length {cs rest : List Char} {n : Nat} (h : readUnit cs = some (n, rest)) :
    rest.length ≤ cs.length := by
  rw [readUnit] at h
  split at h
  · obtain ⟨m, -, h⟩ := Option.map_eq_some_iff.mp h
    cases h
    rw [List.length_drop]
    exact Nat.sub_le ..
  · cases h

theorem joinLow_length {high : Nat} {cs rest : List Char} {c : Char}
    (h : joinLow high cs = some (c, rest)) : rest.length ≤ cs.length := by
  unfold joinLow at h
  split at h
  · next cs =>
      obtain ⟨⟨low, rest'⟩, hunit, h⟩ := Option.bind_eq_some_iff.mp h
      have hlength := readUnit_length hunit
      simp only at h
      split at h
      · obtain ⟨-, rfl⟩ := Prod.mk.inj (Option.some.inj h)
        simp only [List.length_cons]
        omega
      · cases h
  · cases h

theorem joinPoints_length (n : Nat) (cs : List Char) :
    (joinPoints n cs).2.length ≤ cs.length := by
  rw [joinPoints]
  split
  · split
    · next hpair =>
        split at hpair
        · exact joinLow_length hpair
        · cases hpair
    · exact le_rfl
  · exact le_rfl

theorem readPoint_length {cs rest : List Char} {point : CodePoint}
    (h : readPoint cs = some (point, rest)) : rest.length < cs.length := by
  unfold readPoint at h
  split at h
  · cases h
  · cases h
  · next cs =>
      obtain ⟨⟨n, rest'⟩, hunit, h⟩ := Option.map_eq_some_iff.mp h
      have hlength := readUnit_length hunit
      have hjoin := joinPoints_length n rest'
      simp only at h
      rw [h] at hjoin
      simp only [List.length_cons]
      simp only at hjoin
      omega
  · obtain ⟨d, -, h⟩ := Option.map_eq_some_iff.mp h
    cases h
    simp only [List.length_cons]
    omega
  · split at h
    · cases h
    · cases h
      exact Nat.lt_succ_self _

theorem readText_length {fuel : Nat} {cs rest : List Char} {text : PyText}
    (h : readText fuel cs = some (text, rest)) : rest.length < cs.length := by
  induction fuel generalizing cs text with
  | zero => cases h
  | succ fuel ih =>
      rw [readText.eq_def] at h
      simp only at h
      split at h
      · cases h
        exact Nat.lt_succ_self _
      · obtain ⟨⟨point, rest'⟩, hpoint, h⟩ := Option.bind_eq_some_iff.mp h
        obtain ⟨⟨text', rest''⟩, htext, h⟩ := Option.map_eq_some_iff.mp h
        cases h
        exact (ih htext).trans (readPoint_length hpoint)

theorem dropName_split {name cs rest : List Char} (h : dropName name cs = some rest) :
    cs = name ++ rest := by
  rw [dropName] at h
  split at h
  · next hprefix =>
      cases h
      obtain ⟨after, rfl⟩ := List.isPrefixOf_iff_prefix.mp hprefix
      rw [List.drop_left]
  · cases h

theorem scanSign_split (cs : List Char) : (scanSign cs).1 ++ (scanSign cs).2 = cs := by
  unfold scanSign
  split <;> rfl

theorem scanDigits_split {cs digits rest : List Char} (h : scanDigits cs = some (digits, rest)) :
    digits ++ rest = cs ∧ digits ≠ [] := by
  cases cs with
  | nil => cases h
  | cons c cs =>
      rw [scanDigits] at h
      split_ifs at h
      · cases h
        exact ⟨rfl, List.cons_ne_nil _ _⟩
      · cases h
        rw [List.cons_append, List.takeWhile_append_dropWhile]
        exact ⟨rfl, List.cons_ne_nil _ _⟩

theorem scanFraction_split (cs : List Char) : (scanFraction cs).1 ++ (scanFraction cs).2 = cs := by
  unfold scanFraction
  split
  · split_ifs
    · rfl
    · rw [List.cons_append, List.takeWhile_append_dropWhile]
  · rfl

theorem scanExponentSign_split (cs : List Char) :
    (scanExponentSign cs).1 ++ (scanExponentSign cs).2 = cs := by
  unfold scanExponentSign
  split <;> rfl

theorem scanExponent_split (cs : List Char) : (scanExponent cs).1 ++ (scanExponent cs).2 = cs := by
  cases cs with
  | nil => rfl
  | cons c cs =>
      rw [scanExponent]
      split_ifs
      · simp only
        split_ifs
        · rfl
        · rw [List.cons_append, List.append_assoc, List.takeWhile_append_dropWhile,
            scanExponentSign_split]
      · rfl

/-- A number is a literal, which has at least a digit, and what follows it. -/
theorem scanNumber_split {cs literal rest : List Char} {isFloat : Bool}
    (h : scanNumber cs = some (literal, isFloat, rest)) :
    literal ++ rest = cs ∧ literal ≠ [] := by
  simp only [scanNumber] at h
  obtain ⟨⟨digits, after⟩, hscan, h⟩ := Option.map_eq_some_iff.mp h
  cases h
  obtain ⟨hsplit, hne⟩ := scanDigits_split hscan
  refine ⟨?_, by simp [hne]⟩
  rw [List.append_assoc, List.append_assoc, List.append_assoc, scanExponent_split,
    scanFraction_split, hsplit, scanSign_split]

theorem scanNumber_length {cs literal rest : List Char} {isFloat : Bool}
    (h : scanNumber cs = some (literal, isFloat, rest)) : rest.length < cs.length := by
  obtain ⟨hsplit, hne⟩ := scanNumber_split h
  rw [← hsplit, List.length_append]
  have hpos := List.length_pos_iff.mpr hne
  omega

theorem opening_length {cs inner : List Char} {bracket : Bracket}
    (h : opening cs = some (bracket, inner)) : inner.length < cs.length := by
  unfold opening at h
  split at h
  · cases h
    exact Nat.lt_succ_of_le (skipSpace_length _)
  · cases h
    exact Nat.lt_succ_of_le (skipSpace_length _)
  · cases h

theorem readHead_length {bracket : Bracket} {cs value : List Char} {key : PyText}
    (h : readHead bracket cs = some (key, value)) : value.length ≤ cs.length := by
  unfold readHead at h
  split at h
  · cases h
    exact le_rfl
  · next cs =>
      obtain ⟨⟨text, rest⟩, htext, h⟩ := Option.bind_eq_some_iff.mp h
      have hlength := readText_length htext
      have hspace := skipSpace_length rest
      simp only at h
      split at h
      · next after heq =>
          cases h
          have hafter := skipSpace_length after
          rw [heq, List.length_cons] at hspace
          rw [List.length_cons]
          omega
      · cases h
  · cases h

section Reader

variable {ε ν : Type} {hooks : NumberHooks ε ν}

theorem readScalar_length {cs rest : List Char} {v : HookJson ν}
    (h : readScalar hooks cs = .ok (v, rest)) : rest.length < cs.length := by
  unfold readScalar at h
  split at h
  · split at h
    · next htext =>
        cases h
        exact (readText_length htext).trans (Nat.lt_succ_self _)
    · cases h
  · split at h
    · next found hname =>
        obtain ⟨⟨name, w⟩, hmem, hdrop⟩ := List.exists_of_findSome?_eq_some hname
        obtain ⟨after, hafter, hfound⟩ := Option.map_eq_some_iff.mp hdrop
        have hpos : ∀ m ∈ (names : List (String × HookJson ν)), 0 < m.1.toList.length := by
          simp [names]
        have hname := hpos _ hmem
        rw [← hfound] at h
        cases h
        rw [dropName_split hafter, List.length_append]
        exact Nat.lt_add_of_pos_left hname
    · split at h
      · cases h
      · next hscan =>
          split at h
          · cases h
            exact scanNumber_length hscan
          · cases h

/-- A value, and the entries of a collection, are followed by a shorter text. -/
theorem read_length (fuel : Nat) :
    (∀ cs v rest, readValue hooks fuel cs = .ok (v, rest) → rest.length < cs.length) ∧
      ∀ bracket cs entries rest, readEntries hooks bracket fuel cs = .ok (entries, rest) →
        rest.length < cs.length := by
  induction fuel with
  | zero => exact ⟨nofun, nofun⟩
  | succ fuel ih =>
      constructor
      · intro cs v rest h
        rw [readValue] at h
        split at h
        · exact readScalar_length h
        · next bracket inner hopening =>
            have hinner := opening_length hopening
            split at h
            · cases h
              rw [List.length_tail]
              omega
            · obtain ⟨⟨entries, after⟩, hentries, h⟩ := Except.bind_eq_ok_iff.mp h
              cases h
              exact (ih.2 _ _ _ _ hentries).trans hinner
      · intro bracket cs entries rest h
        rw [readEntries] at h
        split at h
        · cases h
        · next key value hhead =>
            have hvalue := readHead_length hhead
            obtain ⟨⟨v, after⟩, hread, h⟩ := Except.bind_eq_ok_iff.mp h
            have hafter := ih.1 _ _ _ hread
            have hspace := skipSpace_length after
            simp only at h
            split at h
            · cases h
            · next c more heq =>
                rw [heq, List.length_cons] at hspace
                have hmore := skipSpace_length more
                split_ifs at h
                · cases h
                  omega
                · obtain ⟨⟨entries', rest'⟩, hentries, h⟩ := Except.bind_eq_ok_iff.mp h
                  cases h
                  have hrest := ih.2 _ _ _ _ hentries
                  simp only at hrest ⊢
                  omega

/-- With fuel for all of the text the reader does the same. -/
theorem read_of_fuel (fuel : Nat) :
    (∀ fuel' cs, 2 * cs.length < fuel → 2 * cs.length < fuel' →
        readValue hooks fuel cs = readValue hooks fuel' cs) ∧
      ∀ bracket fuel' cs, 2 * cs.length + 1 < fuel → 2 * cs.length + 1 < fuel' →
        readEntries hooks bracket fuel cs = readEntries hooks bracket fuel' cs := by
  induction fuel with
  | zero => exact ⟨nofun, nofun⟩
  | succ fuel ih =>
      constructor
      · intro fuel' cs h h'
        obtain ⟨fuel', rfl⟩ : ∃ k, fuel' = k + 1 := ⟨fuel' - 1, by omega⟩
        rw [readValue, readValue]
        split
        · rfl
        · next bracket inner hopening =>
            have hinner := opening_length hopening
            rw [ih.2 bracket fuel' inner (by omega) (by omega)]
      · intro bracket fuel' cs h h'
        obtain ⟨fuel', rfl⟩ : ∃ k, fuel' = k + 1 := ⟨fuel' - 1, by omega⟩
        rw [readEntries, readEntries]
        split
        · rfl
        · next key value hhead =>
            have hvalue := readHead_length hhead
            rw [ih.1 fuel' value (by omega) (by omega)]
            cases hread : readValue hooks fuel' value with
            | error f => rfl
            | ok found =>
                obtain ⟨v, after⟩ := found
                have hafter := (read_length fuel').1 _ _ _ hread
                have hspace := skipSpace_length after
                simp only [Except.ok_bind]
                split
                · rfl
                · next c more heq =>
                    rw [heq, List.length_cons] at hspace
                    have hmore := skipSpace_length more
                    rw [ih.2 bracket fuel' (skipSpace more) (by omega) (by omega)]

theorem scanOnce_length {cs rest : List Char} {v : HookJson ν}
    (h : scanOnce hooks cs = .ok (v, rest)) : rest.length < cs.length :=
  (read_length _).1 _ _ _ h

/-- A value is a scalar, or a bracket and what follows it. -/
theorem scanOnce_eq (cs : List Char) :
    scanOnce hooks cs = match opening cs with
      | none => readScalar hooks cs
      | some (bracket, inner) =>
          if inner.head? = some bracket.close then .ok (bracket.build [], inner.tail)
          else do
            let (entries, rest) ← scanEntries hooks bracket inner
            return (bracket.build entries, rest) := by
  rw [scanOnce, readValue]
  split
  · rfl
  · next bracket inner hopening =>
      have hinner := opening_length hopening
      rw [(read_of_fuel _).2 bracket (2 * inner.length + 2) inner (by omega) (by omega)]
      rfl

/-- Entries are an entry, and what follows its value. -/
theorem scanEntries_eq (bracket : Bracket) (cs : List Char) :
    scanEntries hooks bracket cs = (match readHead bracket cs with
      | none => .error .decodeError
      | some (key, cs) => do
          let (v, rest) ← scanOnce hooks cs
          match skipSpace rest with
          | [] => .error .decodeError
          | c :: rest =>
              if c = bracket.close then return ([(key, v)], rest)
              else if c = ',' then do
                let (entries, rest) ← scanEntries hooks bracket (skipSpace rest)
                return ((key, v) :: entries, rest)
              else .error .decodeError) := by
  rw [scanEntries, readEntries]
  split
  · rfl
  · next key value hhead =>
      have hvalue := readHead_length hhead
      rw [(read_of_fuel _).1 (2 * value.length + 1) value (by omega) (by omega)]
      show (scanOnce hooks value >>= _) = (scanOnce hooks value >>= _)
      cases hread : scanOnce hooks value with
      | error f => rfl
      | ok found =>
          obtain ⟨v, after⟩ := found
          have hafter := scanOnce_length hread
          have hspace := skipSpace_length after
          simp only [Except.ok_bind]
          split
          · rfl
          · next c more heq =>
              rw [heq, List.length_cons] at hspace
              have hmore := skipSpace_length more
              rw [(read_of_fuel _).2 bracket (2 * (skipSpace more).length + 2) (skipSpace more)
                (by omega) (by omega)]
              rfl

/-! ### What the reader gets to -/

variable (hooks)

/-- There is a number for which a hook raises. -/
def RaisesAt (cs : List Char) (e : ε) : Prop :=
  ∃ literal isFloat rest, scanNumber cs = some (literal, isFloat, rest) ∧
    callHook hooks isFloat literal = .error e

/-- The reader gets to a place where it expects a value, from a value or from the entries of a
collection: it goes into collections, and past the entries that it has read. -/
inductive Reaches : Option Bracket → List Char → List Char → Prop where
  | here (cs : List Char) : Reaches none cs cs
  | enter {cs inner place : List Char} {bracket : Bracket}
      (hopening : opening cs = some (bracket, inner))
      (hnonempty : inner.head? ≠ some bracket.close)
      (hinner : Reaches (some bracket) inner place) : Reaches none cs place
  | entry {cs value place : List Char} {bracket : Bracket} {key : PyText}
      (hhead : readHead bracket cs = some (key, value))
      (hvalue : Reaches none value place) : Reaches (some bracket) cs place
  | next {cs value after more place : List Char} {bracket : Bracket} {key : PyText}
      {v : HookJson ν} (hhead : readHead bracket cs = some (key, value))
      (hread : scanOnce hooks value = .ok (v, after)) (hcomma : skipSpace after = ',' :: more)
      (hmore : Reaches (some bracket) (skipSpace more) place) : Reaches (some bracket) cs place

/-- A failure that has a reason: the text is not JSON, or a hook raises at a place that is
reached. -/
def Explained (start : Option Bracket) (cs : List Char) (failure : ReadFailure ε) : Prop :=
  failure = .decodeError ∨
    ∃ e place, failure = .raised e ∧ Reaches hooks start cs place ∧ RaisesAt hooks place e

variable {hooks}

/-- What begins with a number is no string, no name and no collection. -/
theorem number_lead {cs literal rest : List Char} {isFloat : Bool}
    (h : scanNumber cs = some (literal, isFloat, rest)) :
    (∀ tail, cs ≠ '"' :: tail) ∧ opening cs = none ∧
      ((names : List (String × HookJson ν)).findSome? fun (name, v) =>
        (dropName name.toList cs).map fun rest => (v, rest)) = none := by
  obtain ⟨c, ds, hc, hcs⟩ := scanNumber_lead h
  have hne : ∀ d, isDecimal d = false → c ≠ d := by
    intro d hd heq
    rw [heq, hd] at hc
    cases hc
  have hbracket : c ≠ '[' ∧ c ≠ '{' ∧ c ≠ '"' :=
    ⟨hne _ (by decide), hne _ (by decide), hne _ (by decide)⟩
  obtain ⟨harray, hobject, hquote⟩ := hbracket
  rcases hcs with rfl | rfl
  · refine ⟨fun tail heq => hquote (List.cons.inj heq).1, ?_, ?_⟩
    · unfold opening
      split
      · next heq => exact absurd (List.cons.inj heq).1 harray
      · next heq => exact absurd (List.cons.inj heq).1 hobject
      · rfl
    · simp [names, dropName, Ne.symm (hne 'n' rfl), Ne.symm (hne 't' rfl), Ne.symm (hne 'f' rfl),
        Ne.symm (hne 'N' rfl), Ne.symm (hne 'I' rfl), Ne.symm (hne '-' rfl)]
  · refine ⟨fun tail heq => absurd (List.cons.inj heq).1 (by decide), rfl, ?_⟩
    simp [names, dropName, Ne.symm (hne 'I' rfl)]

theorem readScalar_raised_iff {cs : List Char} {e : ε} :
    readScalar hooks cs = .error (.raised e) ↔ RaisesAt hooks cs e := by
  constructor
  · intro h
    unfold readScalar at h
    split at h
    · split at h <;> cases h
    · split at h
      · cases h
      · split at h
        · cases h
        · next hscan =>
            split at h
            · cases h
            · next hhook =>
                cases h
                exact ⟨_, _, _, hscan, hhook⟩
  · intro ⟨literal, isFloat, rest, hscan, hhook⟩
    obtain ⟨hquote, -, hname⟩ := @number_lead ν _ _ _ _ hscan
    rw [readScalar.eq_def]
    split
    · exact absurd rfl (hquote _)
    · rw [hname]
      simp only [hscan, hhook]

/-- A scalar is read, or its failure has a reason. -/
theorem explained_readScalar {cs : List Char} {failure : ReadFailure ε}
    (h : readScalar hooks cs = .error failure) : Explained hooks none cs failure := by
  cases failure with
  | decodeError => exact .inl rfl
  | raised e => exact .inr ⟨e, cs, rfl, .here cs, readScalar_raised_iff.mp h⟩
  | exhausted =>
      unfold readScalar at h
      split at h
      · split at h <;> cases h
      · split at h
        · cases h
        · split at h
          · cases h
          · split at h <;> cases h

theorem explained_scanOnce {cs : List Char} {failure : ReadFailure ε}
    (ih : ∀ bracket inner failure, inner.length < cs.length →
      scanEntries hooks bracket inner = .error failure →
      Explained hooks (some bracket) inner failure)
    (h : scanOnce hooks cs = .error failure) : Explained hooks none cs failure := by
  rw [scanOnce_eq] at h
  split at h
  · exact explained_readScalar h
  · next bracket inner hopening =>
      split at h
      · cases h
      · next hnonempty =>
          rcases Except.bind_eq_error_iff.mp h with hentries | ⟨found, -, h⟩
          · rcases ih bracket inner failure (opening_length hopening) hentries with
              hdecode | ⟨e, place, hraised, hreaches, hraises⟩
            · exact .inl hdecode
            · exact .inr ⟨e, place, hraised, .enter hopening hnonempty hreaches, hraises⟩
          · cases h

/-- **Every failure has a reason**; in particular the fuel is enough. -/
theorem explained_scanEntries {bracket : Bracket} {cs : List Char} {failure : ReadFailure ε}
    (h : scanEntries hooks bracket cs = .error failure) :
    Explained hooks (some bracket) cs failure := by
  induction hlength : cs.length using Nat.strong_induction_on generalizing bracket cs failure with
  | _ n ih =>
  subst hlength
  rw [scanEntries_eq] at h
  split at h
  · cases h
    exact .inl rfl
  · next key value hhead =>
      have hvalue := readHead_length hhead
      rcases Except.bind_eq_error_iff.mp h with hfails | ⟨⟨v, after⟩, hread, h⟩
      · have hexplained := explained_scanOnce
          (fun bracket inner failure hlt hentries => ih _ (hlt.trans_le hvalue) hentries rfl) hfails
        rcases hexplained with hdecode | ⟨e, place, hraised, hreaches, hraises⟩
        · exact .inl hdecode
        · exact .inr ⟨e, place, hraised, .entry hhead hreaches, hraises⟩
      · simp only at h
        split at h
        · cases h
          exact .inl rfl
        · next c more heq =>
            split_ifs at h with hclose hcomma
            · cases h
            · rcases Except.bind_eq_error_iff.mp h with hentries | ⟨found, -, h⟩
              · have hafter := scanOnce_length hread
                have hspace := skipSpace_length after
                rw [heq, List.length_cons] at hspace
                have hmore := skipSpace_length more
                rcases ih _ (by omega) hentries rfl with
                  hdecode | ⟨e, place, hraised, hreaches, hraises⟩
                · exact .inl hdecode
                · rw [hcomma] at heq
                  exact .inr ⟨e, place, hraised, .next hhead hread heq hreaches, hraises⟩
              · cases h
            · cases h
              exact .inl rfl

/-- What a hook raises at a place that is reached ends the reading. -/
theorem raised_of_reaches {start : Option Bracket} {cs place : List Char} {e : ε}
    (hreaches : Reaches hooks start cs place) (hraises : RaisesAt hooks place e) :
    match start with
      | none => scanOnce hooks cs = .error (.raised e)
      | some bracket => scanEntries hooks bracket cs = .error (.raised e) := by
  induction hreaches with
  | here cs =>
      have hscalar := readScalar_raised_iff.mpr hraises
      obtain ⟨literal, isFloat, rest, hscan, -⟩ := hraises
      show scanOnce hooks cs = _
      rw [scanOnce_eq, (@number_lead ν _ _ _ _ hscan).2.1]
      exact hscalar
  | @enter cs inner place bracket hopening hnonempty hinner ih =>
      show scanOnce hooks cs = _
      rw [scanOnce_eq, hopening]
      simp only [hnonempty, if_false]
      rw [ih hraises, Except.error_bind]
  | @entry cs value place bracket key hhead hvalue ih =>
      show scanEntries hooks bracket cs = _
      rw [scanEntries_eq, hhead]
      simp only
      rw [ih hraises, Except.error_bind]
  | @next cs value after more place bracket key v hhead hread hcomma hmore ih =>
      have hopen : ',' ≠ bracket.close := by cases bracket <;> decide
      show scanEntries hooks bracket cs = _
      rw [scanEntries_eq, hhead]
      simp only [hread, Except.ok_bind, hcomma, hopen, if_false, if_true]
      rw [ih hraises, Except.error_bind]

theorem explained_loads {cs : List Char} {failure : ReadFailure ε}
    (h : loads hooks cs = .error failure) : Explained hooks none (skipSpace cs) failure := by
  rw [loads] at h
  split at h
  · cases h
    exact .inl rfl
  · rcases Except.bind_eq_error_iff.mp h with hfails | ⟨⟨v, rest⟩, -, h⟩
    · exact explained_scanOnce (fun _ _ _ _ hentries => explained_scanEntries hentries) hfails
    · simp only at h
      split at h
      · cases h
      · cases h
        exact .inl rfl

/-- A byte order mark is no beginning of a value either. -/
theorem scanOnce_mark (ds : List Char) :
    scanOnce hooks ('\uFEFF' :: ds) = .error .decodeError := by
  have hnumber : scanNumber ('\uFEFF' :: ds) = none := by
    simp [scanNumber, scanSign, scanDigits, isDecimal]
  have hname : ((names : List (String × HookJson ν)).findSome? fun (name, v) =>
      (dropName name.toList ('\uFEFF' :: ds)).map fun rest => (v, rest)) = none := by
    simp [names, dropName]
  have hopening : opening ('\uFEFF' :: ds) = none := by
    simp [opening]
  rw [scanOnce_eq, hopening]
  show readScalar hooks ('\uFEFF' :: ds) = _
  rw [readScalar.eq_def]
  split
  · next heq => exact absurd (List.cons.inj heq).1 (by decide)
  · rw [hname]
    simp only [hnumber]

/-- **The reader raises what a hook raises exactly if it gets to a number for which the hook
does.** -/
theorem loads_raised_iff {cs : List Char} {e : ε} :
    loads hooks cs = .error (.raised e) ↔
      ∃ place, Reaches hooks none (skipSpace cs) place ∧ RaisesAt hooks place e := by
  constructor
  · intro h
    rcases explained_loads h with hdecode | ⟨e', place, hraised, hreaches, hraises⟩
    · cases hdecode
    · cases hraised
      exact ⟨place, hreaches, hraises⟩
  · intro ⟨place, hreaches, hraises⟩
    have hscan : scanOnce hooks (skipSpace cs) = .error (.raised e) :=
      raised_of_reaches hreaches hraises
    have hmark : cs.head? ≠ some '\uFEFF' := by
      intro hhead
      obtain ⟨ds, rfl⟩ := List.head?_eq_some_iff.mp hhead
      have hspace : skipSpace ('\uFEFF' :: ds) = '\uFEFF' :: ds := rfl
      rw [hspace, scanOnce_mark] at hscan
      cases hscan
    rw [loads, if_neg hmark, hscan, Except.error_bind]

end Reader

end HookJson

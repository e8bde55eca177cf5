import Vrl.Lib.Text
import Mathlib.Data.List.Sort

/-!
# Vrl.Lib.Json

JSON values without floating-point numbers, and their compact text.

The text depends on how string characters are escaped, which differs between
the encoders in use. A `StringCode` is such an escaping together with a reader
that inverts it, so whatever is proved here of the text holds for every encoder.
The main fact is `Json.text_append_inj`: the text of a value delimits itself,
hence determines the value.
-/

open TextCodec

/-! ### String escaping -/

/-- A way to write the characters of a string literal. The reader takes one
written character off the front and stops at the closing quote. -/
structure StringCode where
  escape : Char → List Char
  read : List Char → Option (Char × List Char)
  read_escape : ∀ c r, read (escape c ++ r) = some (c, r)
  read_quote : ∀ r, read ('"' :: r) = none

namespace StringCode

variable (code : StringCode)

/-- The characters of a string literal followed by its closing quote. -/
def body : List Char → List Char
  | [] => ['"']
  | c :: cs => code.escape c ++ body cs

/-- A string literal. -/
def quoted (s : String) : List Char := '"' :: code.body s.toList

theorem body_append_inj {cs ds r s : List Char} (h : code.body cs ++ r = code.body ds ++ s) :
    cs = ds ∧ r = s := by
  induction cs generalizing ds with
  | nil =>
      cases ds with
      | nil => exact ⟨rfl, by simpa [body] using h⟩
      | cons d ds =>
          have hr := code.read_quote r
          simp only [body, List.cons_append, List.nil_append, List.append_assoc] at h
          rw [h, code.read_escape] at hr
          cases hr
  | cons c cs ih =>
      cases ds with
      | nil =>
          have hs := code.read_quote s
          simp only [body, List.cons_append, List.nil_append, List.append_assoc] at h
          rw [← h, code.read_escape] at hs
          cases hs
      | cons d ds =>
          simp only [body, List.append_assoc] at h
          have hc := code.read_escape c (code.body cs ++ r)
          rw [h, code.read_escape, Option.some.injEq, Prod.mk.injEq] at hc
          obtain ⟨rfl, hrest⟩ := ih hc.2.symm
          exact ⟨by rw [hc.1], hrest⟩

theorem quoted_append_inj {a b : String} {r s : List Char}
    (h : code.quoted a ++ r = code.quoted b ++ s) : a = b ∧ r = s := by
  simp only [quoted, List.cons_append, List.cons.injEq, true_and] at h
  obtain ⟨hab, hrs⟩ := code.body_append_inj h
  exact ⟨String.toList_inj.mp hab, hrs⟩

end StringCode

/-! ### The escaping that leaves only printable ASCII -/

/-- Backslash, `u` and four hexadecimal digits. -/
def unicodeEscape (n : Nat) : List Char := '\\' :: 'u' :: hexFixed 4 n

/-- One character of a string literal, with everything outside printable ASCII
escaped and characters beyond the basic plane written as surrogate pairs. -/
def asciiEscape (c : Char) : List Char :=
  if c = '"' then ['\\', '"']
  else if c = '\\' then ['\\', '\\']
  else if c = '\n' then ['\\', 'n']
  else if c = '\r' then ['\\', 'r']
  else if c = '\t' then ['\\', 't']
  else if c = '\x08' then ['\\', 'b']
  else if c = '\x0c' then ['\\', 'f']
  else if ' ' ≤ c ∧ c ≤ '~' then [c]
  else if c.toNat < 0x10000 then unicodeEscape c.toNat
  else
    unicodeEscape (0xd800 + (c.toNat - 0x10000) / 0x400) ++
      unicodeEscape (0xdc00 + (c.toNat - 0x10000) % 0x400)

/-- The code unit written by `unicodeEscape` at the front of a text. -/
def readUnicode : List Char → Option (Nat × List Char)
  | '\\' :: 'u' :: r => (readHex 0 (r.take 4)).map fun n => (n, r.drop 4)
  | _ => none

/-- The character a short escape stands for. -/
def shortEscape : Char → Option Char
  | '"' => some '"'
  | '\\' => some '\\'
  | 'n' => some '\n'
  | 'r' => some '\r'
  | 't' => some '\t'
  | 'b' => some '\x08'
  | 'f' => some '\x0c'
  | _ => none

/-- A character from its code unit, taking the second half of a surrogate pair
from the text that follows. -/
def joinSurrogates (n : Nat) (r : List Char) : Option (Char × List Char) :=
  if 0xd800 ≤ n ∧ n < 0xdc00 then
    (readUnicode r).map fun (m, r') =>
      (Char.ofNat (0x10000 + (n - 0xd800) * 0x400 + (m - 0xdc00)), r')
  else some (Char.ofNat n, r)

/-- The reader that inverts `asciiEscape`. -/
def asciiRead : List Char → Option (Char × List Char)
  | '"' :: _ => none
  | '\\' :: e :: r =>
    match shortEscape e with
    | some c => some (c, r)
    | none => (readUnicode ('\\' :: e :: r)).bind fun (n, r') => joinSurrogates n r'
  | c :: r => some (c, r)
  | [] => none

theorem readUnicode_unicodeEscape {n : Nat} (h : n < 0x10000) (r : List Char) :
    readUnicode (unicodeEscape n ++ r) = some (n, r) := by
  have htake : (hexFixed 4 n ++ r).take 4 = hexFixed 4 n := by
    rw [List.take_append_of_le_length (by simp), List.take_of_length_le (by simp)]
  have hdrop : (hexFixed 4 n ++ r).drop 4 = r := by
    rw [List.drop_append_of_le_length (by simp), List.drop_of_length_le (by simp), List.nil_append]
  simp only [unicodeEscape, List.cons_append, readUnicode, htake, hdrop]
  rw [readHex_hexFixed 4 (by simpa using h) 0]
  simp

/-- A text that starts with a Unicode escape is read as that code unit. -/
theorem asciiRead_unicodeEscape {n : Nat} (h : n < 0x10000) (r : List Char) :
    asciiRead (unicodeEscape n ++ r) = joinSurrogates n r := by
  have hu := readUnicode_unicodeEscape h r
  simp only [unicodeEscape, List.cons_append] at hu ⊢
  have hshort : shortEscape 'u' = none := rfl
  simp only [asciiRead, hshort, hu, Option.bind_some]

theorem asciiRead_of_plain {c : Char} (hq : c ≠ '"') (hb : c ≠ '\\') (r : List Char) :
    asciiRead (c :: r) = some (c, r) := by
  unfold asciiRead
  split
  · next heq => exact absurd (List.cons.inj heq).1 hq
  · next heq => exact absurd (List.cons.inj heq).1 hb
  · next heq =>
      obtain ⟨rfl, rfl⟩ := List.cons.inj heq
      rfl
  · next heq => cases heq

theorem char_not_surrogate (c : Char) : c.toNat < 0xd800 ∨ 0xdfff < c.toNat := by
  have h := c.valid
  simp only [UInt32.isValidChar, Nat.isValidChar] at h
  simp only [Char.toNat]
  omega

theorem char_lt_max (c : Char) : c.toNat < 0x110000 := by
  have h := c.valid
  simp only [UInt32.isValidChar, Nat.isValidChar] at h
  simp only [Char.toNat]
  omega

theorem asciiRead_asciiEscape (c : Char) (r : List Char) :
    asciiRead (asciiEscape c ++ r) = some (c, r) := by
  unfold asciiEscape
  split_ifs with h1 h2 h3 h4 h5 h6 h7 h8 h9
  -- the seven short escapes
  · subst h1; rfl
  · subst h2; rfl
  · subst h3; rfl
  · subst h4; rfl
  · subst h5; rfl
  · subst h6; rfl
  · subst h7; rfl
  · exact asciiRead_of_plain h1 h2 r
  · rw [asciiRead_unicodeEscape h9]
    have hs := char_not_surrogate c
    rw [joinSurrogates, if_neg (by omega), Char.ofNat_toNat]
  · have hlt := char_lt_max c
    rw [List.append_assoc, asciiRead_unicodeEscape (by omega), joinSurrogates,
      if_pos (by omega), readUnicode_unicodeEscape (by omega), Option.map_some]
    have hval : 0x10000 + (0xd800 + (c.toNat - 0x10000) / 0x400 - 0xd800) * 0x400 +
        (0xdc00 + (c.toNat - 0x10000) % 0x400 - 0xdc00) = c.toNat := by
      have := Nat.div_add_mod (c.toNat - 0x10000) 0x400
      omega
    simp only [hval, Char.ofNat_toNat]

theorem asciiRead_quote (r : List Char) : asciiRead ('"' :: r) = none := rfl

/-- The escaping that leaves only printable ASCII, as a string code. -/
def asciiCode : StringCode where
  escape := asciiEscape
  read := asciiRead
  read_escape := asciiRead_asciiEscape
  read_quote := asciiRead_quote

theorem unicodeEscape_isPrintable (n : Nat) : IsPrintable (unicodeEscape n) :=
  isPrintable_cons.mpr ⟨by decide, isPrintable_cons.mpr
    ⟨by decide, isPrintable_of_isLowerHex (hexFixed_isLowerHex 4 n)⟩⟩

theorem asciiEscape_isPrintable (c : Char) : IsPrintable (asciiEscape c) := by
  unfold asciiEscape
  split_ifs with h1 h2 h3 h4 h5 h6 h7 h8 h9
  any_goals decide
  · refine isPrintable_cons.mpr ⟨?_, isPrintable_nil⟩
    simp only [Char.le_def, UInt32.le_iff_toNat_le] at h8
    have hs : ' '.val.toNat = 32 := rfl
    have ht : '~'.val.toNat = 126 := rfl
    simp only [Char.toNat]
    omega
  · exact unicodeEscape_isPrintable _
  · exact isPrintable_append.mpr ⟨unicodeEscape_isPrintable _, unicodeEscape_isPrintable _⟩

theorem asciiCode_quoted_isPrintable (s : String) : IsPrintable (asciiCode.quoted s) := by
  refine isPrintable_cons.mpr ⟨by decide, ?_⟩
  induction s.toList with
  | nil => decide
  | cons c cs ih => exact isPrintable_append.mpr ⟨asciiEscape_isPrintable c, ih⟩

/-! ### Values and their text -/

/-- A JSON value without floating-point numbers. The members of an object keep
the order in which they are written. -/
inductive Json where
  | null
  | bool (b : Bool)
  | int (i : Int)
  | str (s : String)
  | arr (items : List Json)
  | obj (members : List (String × Json))

namespace Json

mutual
/-- The compact text of a value. -/
def text (code : StringCode) : Json → List Char
  | .null => ['n', 'u', 'l', 'l']
  | .bool true => ['t', 'r', 'u', 'e']
  | .bool false => ['f', 'a', 'l', 's', 'e']
  | .int i => intText i
  | .str s => code.quoted s
  | .arr items => '[' :: itemsText code items
  | .obj members => '{' :: membersText code members

/-- The items of an array and its closing bracket. -/
def itemsText (code : StringCode) : List Json → List Char
  | [] => [']']
  | [v] => text code v ++ [']']
  | v :: w :: vs => text code v ++ ',' :: itemsText code (w :: vs)

/-- The members of an object and its closing brace. -/
def membersText (code : StringCode) : List (String × Json) → List Char
  | [] => ['}']
  | [(k, v)] => code.quoted k ++ ':' :: (text code v ++ ['}'])
  | (k, v) :: m :: ms => code.quoted k ++ ':' :: (text code v ++ ',' :: membersText code (m :: ms))
end

/-! ### The text determines the value -/

/-- The constructor a text was written by, told from its first character. -/
def leadIndex (c : Char) : Nat :=
  if c = 'n' then 0
  else if c = 't' ∨ c = 'f' then 1
  else if c = '"' then 3
  else if c = '[' then 4
  else if c = '{' then 5
  else 2

/-- The number of a value's constructor. -/
def ctorIndex : Json → Nat
  | .null => 0
  | .bool _ => 1
  | .int _ => 2
  | .str _ => 3
  | .arr _ => 4
  | .obj _ => 5

theorem leadIndex_of_isDecimal {c : Char} (h : isDecimal c = true) : leadIndex c = 2 := by
  unfold leadIndex
  rw [if_neg, if_neg, if_neg, if_neg, if_neg]
  all_goals
    intro hc
    first
      | (subst hc; exact absurd h (by decide))
      | (rcases hc with hc | hc <;> (subst hc; exact absurd h (by decide)))

theorem text_lead (code : StringCode) (v : Json) :
    ∃ c cs, text code v = c :: cs ∧ leadIndex c = v.ctorIndex := by
  cases v with
  | null => exact ⟨_, _, rfl, by decide⟩
  | bool b => cases b <;> exact ⟨_, _, rfl, by decide⟩
  | int i =>
      cases i with
      | ofNat n =>
          cases hn : natText n with
          | nil => exact absurd hn (natText_ne_nil n)
          | cons c cs =>
              have hc := natText_isDecimal n c (by rw [hn]; exact List.mem_cons_self ..)
              refine ⟨c, cs, ?_, leadIndex_of_isDecimal hc⟩
              rw [text]
              exact hn
      | negSucc n => exact ⟨'-', natText (n + 1), by rw [text]; rfl, rfl⟩
  | str s => exact ⟨_, _, by rw [text, StringCode.quoted], rfl⟩
  | arr items => exact ⟨_, _, by rw [text], rfl⟩
  | obj members => exact ⟨_, _, by rw [text], rfl⟩

/-- Equal texts were written by the same constructor. -/
theorem ctorIndex_eq_of_text_append {code : StringCode} {v w : Json} {r s : List Char}
    (h : text code v ++ r = text code w ++ s) : v.ctorIndex = w.ctorIndex := by
  obtain ⟨c, cs, hv, hc⟩ := text_lead code v
  obtain ⟨d, ds, hw, hd⟩ := text_lead code w
  rw [hv, hw, List.cons_append, List.cons_append, List.cons.injEq] at h
  rw [← hc, ← hd, h.1]

/-- No value's text starts with a closing bracket or brace. -/
theorem text_append_ne {code : StringCode} {v : Json} {r s : List Char} {c : Char}
    (hc : c = ']' ∨ c = '}') : text code v ++ r ≠ c :: s := by
  intro h
  obtain ⟨d, ds, hv, hd⟩ := text_lead code v
  rw [hv, List.cons_append, List.cons.injEq] at h
  have hint : v.ctorIndex = 2 := by
    rw [← hd, h.1]
    rcases hc with rfl | rfl <;> decide
  cases v with
  | int i =>
      cases i with
      | ofNat n =>
          have hdec : isDecimal d = true := by
            rw [text, intText] at hv
            exact natText_isDecimal n d (by rw [hv]; exact List.mem_cons_self ..)
          rw [h.1] at hdec
          rcases hc with rfl | rfl <;> exact absurd hdec (by decide)
      | negSucc n =>
          rw [text, intText, List.cons.injEq] at hv
          rw [← hv.1] at h
          rcases hc with rfl | rfl <;> exact absurd h.1 (by decide)
  | _ => simp [ctorIndex] at hint

mutual
/-- The text of a value delimits itself: whatever follows, the value and the
rest are recovered. The induction is on the first value. -/
theorem text_append_inj {code : StringCode} : ∀ (v w : Json) {r s : List Char},
    NoDigitHead r → NoDigitHead s → text code v ++ r = text code w ++ s → v = w ∧ r = s
  | .null, w, r, s, _, _, h => by
      have hk := ctorIndex_eq_of_text_append h
      cases w with
      | null => exact ⟨rfl, List.append_cancel_left h⟩
      | _ => simp [ctorIndex] at hk
  | .bool a, w, r, s, _, _, h => by
      have hk := ctorIndex_eq_of_text_append h
      cases w with
      | bool b => cases a <;> cases b <;> simp_all [text]
      | _ => simp [ctorIndex] at hk
  | .int i, w, r, s, hr, hs, h => by
      have hk := ctorIndex_eq_of_text_append h
      cases w with
      | int j =>
          simp only [text] at h
          obtain ⟨rfl, rfl⟩ := intText_append_inj hr hs h
          exact ⟨rfl, rfl⟩
      | _ => simp [ctorIndex] at hk
  | .str a, w, r, s, _, _, h => by
      have hk := ctorIndex_eq_of_text_append h
      cases w with
      | str b =>
          simp only [text] at h
          obtain ⟨rfl, rfl⟩ := code.quoted_append_inj h
          exact ⟨rfl, rfl⟩
      | _ => simp [ctorIndex] at hk
  | .arr vs, w, r, s, _, _, h => by
      have hk := ctorIndex_eq_of_text_append h
      cases w with
      | arr ws =>
          simp only [text, List.cons_append, List.cons.injEq, true_and] at h
          obtain ⟨rfl, rfl⟩ := itemsText_append_inj vs ws h
          exact ⟨rfl, rfl⟩
      | _ => simp [ctorIndex] at hk
  | .obj ms, w, r, s, _, _, h => by
      have hk := ctorIndex_eq_of_text_append h
      cases w with
      | obj ns =>
          simp only [text, List.cons_append, List.cons.injEq, true_and] at h
          obtain ⟨rfl, rfl⟩ := membersText_append_inj ms ns h
          exact ⟨rfl, rfl⟩
      | _ => simp [ctorIndex] at hk

theorem itemsText_append_inj {code : StringCode} : ∀ (vs ws : List Json) {r s : List Char},
    itemsText code vs ++ r = itemsText code ws ++ s → vs = ws ∧ r = s
  | [], ws, r, s, h => by
      match ws with
      | [] => exact ⟨rfl, List.append_cancel_left h⟩
      | [w] =>
          rw [itemsText, itemsText, List.append_assoc] at h
          exact absurd h.symm (text_append_ne (.inl rfl))
      | w :: w' :: ws =>
          rw [itemsText, itemsText, List.append_assoc] at h
          exact absurd h.symm (text_append_ne (.inl rfl))
  | [v], ws, r, s, h => by
      match ws with
      | [] =>
          rw [itemsText, itemsText, List.append_assoc] at h
          exact absurd h (text_append_ne (.inl rfl))
      | [w] =>
          rw [itemsText, itemsText, List.append_assoc, List.append_assoc] at h
          obtain ⟨rfl, hrs⟩ := text_append_inj v w (noDigitHead_cons (by decide))
            (noDigitHead_cons (by decide)) h
          exact ⟨rfl, (List.cons.inj hrs).2⟩
      | w :: w' :: ws =>
          rw [itemsText, itemsText, List.append_assoc, List.append_assoc] at h
          obtain ⟨-, hrs⟩ := text_append_inj v w (noDigitHead_cons (by decide))
            (noDigitHead_cons (by decide)) h
          exact absurd (List.cons.inj hrs).1 (by decide)
  | v :: v' :: vs, ws, r, s, h => by
      match ws with
      | [] =>
          rw [itemsText, itemsText, List.append_assoc] at h
          exact absurd h (text_append_ne (.inl rfl))
      | [w] =>
          rw [itemsText, itemsText, List.append_assoc, List.append_assoc] at h
          obtain ⟨-, hrs⟩ := text_append_inj v w (noDigitHead_cons (by decide))
            (noDigitHead_cons (by decide)) h
          exact absurd (List.cons.inj hrs).1 (by decide)
      | w :: w' :: ws =>
          rw [itemsText, itemsText, List.append_assoc, List.append_assoc] at h
          obtain ⟨rfl, hrs⟩ := text_append_inj v w (noDigitHead_cons (by decide))
            (noDigitHead_cons (by decide)) h
          obtain ⟨htail, rfl⟩ := itemsText_append_inj (v' :: vs) (w' :: ws) (List.cons.inj hrs).2
          exact ⟨by rw [htail], rfl⟩

theorem membersText_append_inj {code : StringCode} :
    ∀ (ms ns : List (String × Json)) {r s : List Char},
    membersText code ms ++ r = membersText code ns ++ s → ms = ns ∧ r = s
  | [], ns, r, s, h => by
      match ns with
      | [] => exact ⟨rfl, List.append_cancel_left h⟩
      | [(k, w)] => simp [membersText, StringCode.quoted] at h
      | (k, w) :: n :: ns => simp [membersText, StringCode.quoted] at h
  | [(j, v)], ns, r, s, h => by
      match ns with
      | [] => simp [membersText, StringCode.quoted] at h
      | [(k, w)] =>
          simp only [membersText, List.append_assoc, List.cons_append, List.nil_append] at h
          obtain ⟨rfl, hkv⟩ := code.quoted_append_inj h
          obtain ⟨rfl, hrs⟩ := text_append_inj v w (noDigitHead_cons (by decide))
            (noDigitHead_cons (by decide)) (List.cons.inj hkv).2
          exact ⟨rfl, (List.cons.inj hrs).2⟩
      | (k, w) :: n :: ns =>
          simp only [membersText, List.append_assoc, List.cons_append, List.nil_append] at h
          obtain ⟨-, hkv⟩ := code.quoted_append_inj h
          obtain ⟨-, hrs⟩ := text_append_inj v w (noDigitHead_cons (by decide))
            (noDigitHead_cons (by decide)) (List.cons.inj hkv).2
          exact absurd (List.cons.inj hrs).1 (by decide)
  | (j, v) :: m :: ms, ns, r, s, h => by
      match ns with
      | [] => simp [membersText, StringCode.quoted] at h
      | [(k, w)] =>
          simp only [membersText, List.append_assoc, List.cons_append, List.nil_append] at h
          obtain ⟨-, hkv⟩ := code.quoted_append_inj h
          obtain ⟨-, hrs⟩ := text_append_inj v w (noDigitHead_cons (by decide))
            (noDigitHead_cons (by decide)) (List.cons.inj hkv).2
          exact absurd (List.cons.inj hrs).1 (by decide)
      | (k, w) :: n :: ns =>
          simp only [membersText, List.append_assoc, List.cons_append] at h
          obtain ⟨rfl, hkv⟩ := code.quoted_append_inj h
          obtain ⟨rfl, hrs⟩ := text_append_inj v w (noDigitHead_cons (by decide))
            (noDigitHead_cons (by decide)) (List.cons.inj hkv).2
          obtain ⟨htail, rfl⟩ := membersText_append_inj (m :: ms) (n :: ns) (List.cons.inj hrs).2
          exact ⟨by rw [htail], rfl⟩
end

theorem text_injective {code : StringCode} {v w : Json} (h : text code v = text code w) :
    v = w := by
  have happ : text code v ++ [] = text code w ++ [] := by rw [h]
  exact (text_append_inj v w noDigitHead_nil noDigitHead_nil happ).1

/-! ### Sorted members -/

/-- Members ordered by key, by code points. -/
def sortMembers {α : Type} (ms : List (String × α)) : List (String × α) :=
  ms.insertionSort fun m n => m.1 ≤ n.1

theorem mem_sortMembers {α : Type} {ms : List (String × α)} {m : String × α} :
    m ∈ sortMembers ms ↔ m ∈ ms :=
  List.mem_insertionSort _

mutual
/-- The same value with the members of every object sorted. -/
def sortKeys : Json → Json
  | .null => .null
  | .bool b => .bool b
  | .int i => .int i
  | .str s => .str s
  | .arr items => .arr (sortKeysItems items)
  | .obj members => .obj (sortMembers (sortKeysMembers members))

def sortKeysItems : List Json → List Json
  | [] => []
  | v :: vs => sortKeys v :: sortKeysItems vs

def sortKeysMembers : List (String × Json) → List (String × Json)
  | [] => []
  | (k, v) :: ms => (k, sortKeys v) :: sortKeysMembers ms
end

/-- The compact text with sorted members: what `json.dumps` with `sort_keys`
and the separators `,` and `:` returns. -/
def sortedText (code : StringCode) (v : Json) : List Char := text code (sortKeys v)

theorem sortKeys_eq_of_sortedText_eq (code : StringCode) {v w : Json}
    (h : sortedText code v = sortedText code w) : sortKeys v = sortKeys w :=
  text_injective h

mutual
/-- A text keeps to one line. -/
theorem text_isPrintable : ∀ v : Json, IsPrintable (text asciiCode v)
  | .null => by rw [text]; decide
  | .bool true => by rw [text]; decide
  | .bool false => by rw [text]; decide
  | .int i => by rw [text]; exact intText_isPrintable i
  | .str s => by rw [text]; exact asciiCode_quoted_isPrintable s
  | .arr vs => by rw [text]; exact isPrintable_cons.mpr ⟨by decide, itemsText_isPrintable vs⟩
  | .obj ms => by rw [text]; exact isPrintable_cons.mpr ⟨by decide, membersText_isPrintable ms⟩

theorem itemsText_isPrintable : ∀ vs : List Json, IsPrintable (itemsText asciiCode vs)
  | [] => by rw [itemsText]; decide
  | [v] => by rw [itemsText]; exact isPrintable_append.mpr ⟨text_isPrintable v, by decide⟩
  | v :: w :: vs => by
      rw [itemsText]
      exact isPrintable_append.mpr ⟨text_isPrintable v,
        isPrintable_cons.mpr ⟨by decide, itemsText_isPrintable (w :: vs)⟩⟩

theorem membersText_isPrintable : ∀ ms : List (String × Json),
    IsPrintable (membersText asciiCode ms)
  | [] => by rw [membersText]; decide
  | [(k, v)] => by
      rw [membersText]
      exact isPrintable_append.mpr ⟨asciiCode_quoted_isPrintable k,
        isPrintable_cons.mpr ⟨by decide, isPrintable_append.mpr ⟨text_isPrintable v, by decide⟩⟩⟩
  | (k, v) :: m :: ms => by
      rw [membersText]
      exact isPrintable_append.mpr ⟨asciiCode_quoted_isPrintable k,
        isPrintable_cons.mpr ⟨by decide, isPrintable_append.mpr ⟨text_isPrintable v,
          isPrintable_cons.mpr ⟨by decide, membersText_isPrintable (m :: ms)⟩⟩⟩⟩
end

theorem text_isAscii (v : Json) : IsAscii (text asciiCode v) := (text_isPrintable v).isAscii

end Json

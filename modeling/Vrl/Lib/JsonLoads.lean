import Vrl.Lib.JsonValue
import Vrl.Lib.PyStd
import Mathlib.Data.List.TakeWhile

/-!
# Vrl.Lib.JsonLoads

Python's JSON reader, and that it reads back what a writer wrote.

The reader is total: it descends with fuel, of which the length of the text is enough.
Whatever the layout, the text of a well-formed value is read as that value
(**`JsonValue.loads_text`**). A surrogate without its other half is no character here,
and the reader refuses it.
-/

open TextCodec

/-! ### Characters of a string literal -/

/-- A code unit written as four hexadecimal digits of either case. -/
def readUnit (cs : List Char) : Option (Nat × List Char) :=
  if (cs.take 4).length = 4 then
    (readHex 0 ((cs.take 4).map Char.toLower)).map fun n => (n, cs.drop 4)
  else none

/-- The character of a surrogate pair, from its first half and the text that follows. -/
def joinLow (high : Nat) : List Char → Option (Char × List Char)
  | '\\' :: 'u' :: cs =>
      (readUnit cs).bind fun (low, rest) =>
        if 0xdc00 ≤ low ∧ low < 0xe000 then
          some (Char.ofNat (0x10000 + (high - 0xd800) * 0x400 + (low - 0xdc00)), rest)
        else none
  | _ => none

/-- The character that a code unit stands for. -/
def joinUnits (n : Nat) (cs : List Char) : Option (Char × List Char) :=
  if 0xd800 ≤ n ∧ n < 0xdc00 then joinLow n cs
  else if 0xdc00 ≤ n ∧ n < 0xe000 then none
  else some (Char.ofNat n, cs)

/-- The characters that a backslash may stand before, besides `u`. -/
def loadsEscape (c : Char) : Option Char := if c = '/' then some '/' else shortEscape c

/-- One character off the front of the rest of a string literal. There is none at the
closing quote, and control characters are refused. -/
def loadsRead : List Char → Option (Char × List Char)
  | [] => none
  | '"' :: _ => none
  | '\\' :: 'u' :: cs => (readUnit cs).bind fun (n, rest) => joinUnits n rest
  | '\\' :: c :: cs => (loadsEscape c).map fun d => (d, cs)
  | c :: cs => if c.toNat < 0x20 ∨ c = '\\' then none else some (c, cs)

theorem readUnit_hexFixed {n : Nat} (h : n < 0x10000) (r : List Char) :
    readUnit (hexFixed 4 n ++ r) = some (n, r) := by
  have htake : (hexFixed 4 n ++ r).take 4 = hexFixed 4 n := by
    rw [List.take_append_of_le_length (by simp), List.take_of_length_le (by simp)]
  have hdrop : (hexFixed 4 n ++ r).drop 4 = r := by
    rw [List.drop_append_of_le_length (by simp), List.drop_of_length_le (by simp), List.nil_append]
  have hlower : (hexFixed 4 n).map Char.toLower = hexFixed 4 n := by
    conv_rhs => rw [← List.map_id (hexFixed 4 n)]
    refine List.map_congr_left fun c hc => ?_
    obtain ⟨d, hd, rfl⟩ := exists_hexDigit_of_isLowerHex (hexFixed_isLowerHex 4 n c hc)
    exact toLower_hexDigit hd
  rw [readUnit, htake, hdrop, if_pos (by simp), hlower, readHex_hexFixed 4 (by simpa using h) 0]
  simp

theorem loadsRead_unicodeEscape {n : Nat} (h : n < 0x10000) (r : List Char) :
    loadsRead (unicodeEscape n ++ r) = joinUnits n r := by
  rw [unicodeEscape, List.cons_append, List.cons_append, loadsRead, readUnit_hexFixed h]
  rfl

theorem joinLow_unicodeEscape {high low : Nat} (h : 0xdc00 ≤ low ∧ low < 0xe000) (r : List Char) :
    joinLow high (unicodeEscape low ++ r) =
      some (Char.ofNat (0x10000 + (high - 0xd800) * 0x400 + (low - 0xdc00)), r) := by
  rw [unicodeEscape, List.cons_append, List.cons_append, joinLow, readUnit_hexFixed (by omega),
    Option.bind_some]
  exact if_pos h

theorem loadsRead_of_plain {c : Char} (hq : c ≠ '"') (hb : c ≠ '\\') (hc : 0x20 ≤ c.toNat)
    (r : List Char) : loadsRead (c :: r) = some (c, r) := by
  unfold loadsRead
  split
  · next heq => cases heq
  · next heq => exact absurd (List.cons.inj heq).1 hq
  · next heq => exact absurd (List.cons.inj heq).1 hb
  · next heq => exact absurd (List.cons.inj heq).1 hb
  · next heq =>
      obtain ⟨rfl, rfl⟩ := List.cons.inj heq
      rw [if_neg]
      rw [not_or]
      exact ⟨by omega, hb⟩

theorem loadsRead_asciiEscape (c : Char) (r : List Char) :
    loadsRead (asciiEscape c ++ r) = some (c, r) := by
  unfold asciiEscape
  split_ifs with h1 h2 h3 h4 h5 h6 h7 h8 h9
  -- the seven short escapes
  · subst h1; rfl
  · subst h2; rfl
  · subst h3; rfl
  · subst h4; rfl
  · subst h5; rfl
  · subst h6; rfl
  · subst h7; rfl
  · have hge : 0x20 ≤ c.toNat := by
      have hspace := h8.1
      rw [Char.le_def, UInt32.le_iff_toNat_le] at hspace
      exact hspace
    exact loadsRead_of_plain h1 h2 hge r
  · rw [loadsRead_unicodeEscape h9]
    have hs := char_not_surrogate c
    rw [joinUnits, if_neg (by omega), if_neg (by omega), Char.ofNat_toNat]
  · have hlt := char_lt_max c
    rw [List.append_assoc, loadsRead_unicodeEscape (by omega), joinUnits, if_pos (by omega),
      joinLow_unicodeEscape (by omega)]
    have hval : 0x10000 + (0xd800 + (c.toNat - 0x10000) / 0x400 - 0xd800) * 0x400 +
        (0xdc00 + (c.toNat - 0x10000) % 0x400 - 0xdc00) = c.toNat := by
      have := Nat.div_add_mod (c.toNat - 0x10000) 0x400
      omega
    rw [hval, Char.ofNat_toNat]

/-- The rest of a string literal after its opening quote. -/
def readString : Nat → List Char → Option (List Char × List Char)
  | 0, _ => none
  | fuel + 1, cs =>
      match cs with
      | '"' :: rest => some ([], rest)
      | _ =>
          (loadsRead cs).bind fun (c, rest) =>
            (readString fuel rest).map fun (text, rest) => (c :: text, rest)

/-- A string literal is read as what it was written from. -/
theorem readString_body : ∀ (cs r : List Char) {fuel : Nat}, cs.length < fuel →
    readString fuel (asciiCode.body cs ++ r) = some (cs, r)
  | [], r, fuel + 1, _ => by rw [StringCode.body, List.singleton_append, readString]
  | c :: cs, r, fuel + 1, h => by
      have hrest : readString fuel (asciiCode.body cs ++ r) = some (cs, r) :=
        readString_body cs r (by simpa using h)
      have hread := loadsRead_asciiEscape c (asciiCode.body cs ++ r)
      rw [StringCode.body, List.append_assoc]
      show readString (fuel + 1) (asciiEscape c ++ (asciiCode.body cs ++ r)) = _
      rw [readString, hread, Option.bind_some]
      · show (readString fuel (asciiCode.body cs ++ r)).map _ = _
        rw [hrest]
        rfl
      · -- no escape begins with the closing quote
        intro rest heq
        rw [heq] at hread
        cases hread

/-! ### Numbers -/

/-- A text after which a number cannot go on. -/
def NumberEnd (r : List Char) : Prop :=
  ∀ c cs, r = c :: cs →
    isDecimal c = false ∧ c ≠ '.' ∧ c ≠ 'e' ∧ c ≠ 'E' ∧ c ≠ '+' ∧ c ≠ '-'

/-- The sign of a number. -/
def scanSign : List Char → List Char × List Char
  | '-' :: cs => (['-'], cs)
  | cs => ([], cs)

/-- The digits before the point: a zero alone, or digits that begin with another. -/
def scanDigits : List Char → Option (List Char × List Char)
  | [] => none
  | c :: cs =>
      if c = '0' then some ([c], cs)
      else if isDecimal c then some (c :: cs.takeWhile isDecimal, cs.dropWhile isDecimal)
      else none

/-- A point with digits after it, if there is one. -/
def scanFraction : List Char → List Char × List Char
  | '.' :: cs =>
      if cs.takeWhile isDecimal = [] then ([], '.' :: cs)
      else ('.' :: cs.takeWhile isDecimal, cs.dropWhile isDecimal)
  | cs => ([], cs)

/-- The sign of an exponent. -/
def scanExponentSign : List Char → List Char × List Char
  | '+' :: cs => (['+'], cs)
  | '-' :: cs => (['-'], cs)
  | cs => ([], cs)

/-- An exponent with digits, if there is one. -/
def scanExponent : List Char → List Char × List Char
  | [] => ([], [])
  | c :: cs =>
      if c = 'e' ∨ c = 'E' then
        let (sign, rest) := scanExponentSign cs
        if rest.takeWhile isDecimal = [] then ([], c :: cs)
        else (c :: (sign ++ rest.takeWhile isDecimal), rest.dropWhile isDecimal)
      else ([], c :: cs)

/-- The literal of a number at the front of a text, and whether it is a float. -/
def scanNumber (cs : List Char) : Option (List Char × Bool × List Char) :=
  let (sign, cs) := scanSign cs
  (scanDigits cs).map fun (digits, cs) =>
    let (fraction, cs) := scanFraction cs
    let (exponent, cs) := scanExponent cs
    (sign ++ digits ++ fraction ++ exponent, !fraction.isEmpty || !exponent.isEmpty, cs)

/-- The integer that a literal denotes. -/
def readInt : List Char → Int
  | '-' :: cs => -(readNat cs : Int)
  | cs => readNat cs

section Append

variable {r : List Char} (hr : NumberEnd r)
include hr

theorem takeWhile_append_numberEnd (cs : List Char) :
    (cs ++ r).takeWhile isDecimal = cs.takeWhile isDecimal ∧
      (cs ++ r).dropWhile isDecimal = cs.dropWhile isDecimal ++ r := by
  induction cs with
  | nil =>
      cases r with
      | nil => exact ⟨rfl, rfl⟩
      | cons c r => simp [(hr c r rfl).1]
  | cons c cs ih =>
      by_cases hc : isDecimal c = true
      · simp [hc, ih]
      · simp [hc]

theorem scanDigits_append {cs digits rest : List Char} (h : scanDigits cs = some (digits, rest)) :
    scanDigits (cs ++ r) = some (digits, rest ++ r) := by
  cases cs with
  | nil => cases h
  | cons c cs =>
      obtain ⟨htake, hdrop⟩ := takeWhile_append_numberEnd hr cs
      rw [scanDigits] at h
      rw [List.cons_append, scanDigits, htake, hdrop]
      split_ifs at h ⊢ <;> simp_all

theorem scanSign_append (cs : List Char) :
    scanSign (cs ++ r) = ((scanSign cs).1, (scanSign cs).2 ++ r) := by
  have hend : scanSign r = ([], r) := by
    unfold scanSign
    split
    · next rest => exact absurd rfl (hr '-' rest rfl).2.2.2.2.2
    · rfl
  cases cs with
  | nil => exact hend
  | cons c cs =>
      by_cases hc : c = '-'
      · subst hc
        rfl
      · have hplain : ∀ ds : List Char, scanSign (c :: ds) = ([], c :: ds) := by
          intro ds
          unfold scanSign
          split
          · next heq => exact absurd (List.cons.inj heq).1 hc
          · rfl
        rw [List.cons_append, hplain, hplain]
        rfl

theorem scanExponentSign_append (cs : List Char) :
    scanExponentSign (cs ++ r) = ((scanExponentSign cs).1, (scanExponentSign cs).2 ++ r) := by
  have hend : scanExponentSign r = ([], r) := by
    unfold scanExponentSign
    split
    · next rest => exact absurd rfl (hr '+' rest rfl).2.2.2.2.1
    · next rest => exact absurd rfl (hr '-' rest rfl).2.2.2.2.2
    · rfl
  cases cs with
  | nil => exact hend
  | cons c cs =>
      by_cases hplus : c = '+'
      · subst hplus
        rfl
      · by_cases hminus : c = '-'
        · subst hminus
          rfl
        · have hplain : ∀ ds : List Char, scanExponentSign (c :: ds) = ([], c :: ds) := by
            intro ds
            unfold scanExponentSign
            split
            · next heq => exact absurd (List.cons.inj heq).1 hplus
            · next heq => exact absurd (List.cons.inj heq).1 hminus
            · rfl
          rw [List.cons_append, hplain, hplain]
          rfl

theorem scanFraction_append (cs : List Char) :
    scanFraction (cs ++ r) = ((scanFraction cs).1, (scanFraction cs).2 ++ r) := by
  have hend : scanFraction r = ([], r) := by
    unfold scanFraction
    split
    · next rest => exact absurd rfl (hr '.' rest rfl).2.1
    · rfl
  cases cs with
  | nil => exact hend
  | cons c cs =>
      by_cases hc : c = '.'
      · subst hc
        obtain ⟨htake, hdrop⟩ := takeWhile_append_numberEnd hr cs
        rw [List.cons_append, scanFraction, scanFraction, htake, hdrop]
        split_ifs <;> rfl
      · have hplain : ∀ ds : List Char, scanFraction (c :: ds) = ([], c :: ds) := by
          intro ds
          unfold scanFraction
          split
          · next heq => exact absurd (List.cons.inj heq).1 hc
          · rfl
        rw [List.cons_append, hplain, hplain]
        rfl

theorem scanExponent_append (cs : List Char) :
    scanExponent (cs ++ r) = ((scanExponent cs).1, (scanExponent cs).2 ++ r) := by
  cases cs with
  | nil =>
      cases r with
      | nil => rfl
      | cons c r =>
          obtain ⟨-, -, he, hE, -⟩ := hr c r rfl
          rw [List.nil_append, scanExponent]
          show (if c = 'e' ∨ c = 'E' then _ else _) = _
          rw [if_neg (not_or.mpr ⟨he, hE⟩)]
          rfl
  | cons c cs =>
      rw [List.cons_append, scanExponent, scanExponent]
      by_cases hc : c = 'e' ∨ c = 'E'
      · rw [if_pos hc, if_pos hc, scanExponentSign_append hr]
        obtain ⟨htake, hdrop⟩ := takeWhile_append_numberEnd hr (scanExponentSign cs).2
        simp only [htake, hdrop]
        split_ifs <;> rfl
      · rw [if_neg hc, if_neg hc]
        rfl

/-- A number is scanned alike whatever follows that cannot go on with it. -/
theorem scanNumber_append {cs literal rest : List Char} {isFloat : Bool}
    (h : scanNumber cs = some (literal, isFloat, rest)) :
    scanNumber (cs ++ r) = some (literal, isFloat, rest ++ r) := by
  simp only [scanNumber] at h ⊢
  rw [scanSign_append hr]
  obtain ⟨⟨digits, cs'⟩, hdigits, h⟩ := Option.map_eq_some_iff.mp h
  rw [scanDigits_append hr hdigits, Option.map_some]
  simp only [scanFraction_append hr, scanExponent_append hr] at h ⊢
  simp_all

end Append

/-! ### The literals of integers -/

theorem scanDigits_natText (n : Nat) : scanDigits (natText n) = some (natText n, []) := by
  rcases natText_lead n with h | ⟨c, cs, h, hne, hc, hcs⟩
  · rw [h]
    rfl
  · rw [h, scanDigits, if_neg hne, if_pos hc, List.dropWhile_eq_nil_iff.mpr hcs,
      List.takeWhile_eq_self_iff.mpr hcs]

/-- The text of an integer is scanned whole, as an integer. -/
theorem scanNumber_intText (i : Int) : scanNumber (intText i) = some (intText i, false, []) := by
  cases i with
  | ofNat n =>
      have hsign : scanSign (natText n) = ([], natText n) := by
        unfold scanSign
        split
        · next heq =>
            have hminus := natText_isDecimal n '-' (by rw [heq]; exact List.mem_cons_self ..)
            exact absurd hminus (by decide)
        · rfl
      simp only [intText, scanNumber, hsign, scanDigits_natText, Option.map_some, scanFraction,
        scanExponent]
      simp
  | negSucc n =>
      simp only [intText, scanNumber, scanSign, scanDigits_natText, Option.map_some, scanFraction,
        scanExponent]
      simp

theorem readInt_intText (i : Int) : readInt (intText i) = i := by
  cases i with
  | ofNat n =>
      have hplain : readInt (natText n) = readNat (natText n) := by
        unfold readInt
        split
        · next heq =>
            have hminus := natText_isDecimal n '-' (by rw [heq]; exact List.mem_cons_self ..)
            exact absurd hminus (by decide)
        · rfl
      rw [intText, hplain, readNat_natText]
      rfl
  | negSucc n =>
      rw [intText, readInt, readNat_natText]
      rfl

namespace JsonValue

/-! ### The reader -/

/-- Reading a float and writing it again gives a literal that is read as the same float. -/
structure FloatText where
  normal : String → String
  normal_normal : ∀ s, normal (normal s) = normal s

/-- Literals that are kept as they are. -/
theorem FloatText.id_id (s : String) : id (id s) = id s := rfl

/-- The text without white space in front. -/
def skipSpace (cs : List Char) : List Char := cs.dropWhile isSpace

/-- The names that stand for values. -/
def constants : List (String × JsonValue) :=
  [("null", .null), ("true", .bool true), ("false", .bool false), ("NaN", .float "NaN"),
    ("Infinity", .float "Infinity"), ("-Infinity", .float "-Infinity")]

/-- What follows a name at the front of a text. -/
def dropName (name : List Char) (cs : List Char) : Option (List Char) :=
  if name.isPrefixOf cs then some (cs.drop name.length) else none

section Reader

variable (floats : FloatText)

/-- A name or a number. -/
def parseLiteral (cs : List Char) : Option (JsonValue × List Char) :=
  match constants.findSome? fun (name, v) => (dropName name.toList cs).map fun rest => (v, rest) with
  | some found => some found
  | none =>
      (scanNumber cs).map fun (literal, isFloat, rest) =>
        if isFloat then (.float (floats.normal (String.ofList literal)), rest)
        else (.int (readInt literal), rest)

mutual
/-- `scan_once`: a value at the front of a text. -/
def parseValue : Nat → List Char → Option (JsonValue × List Char)
  | 0, _ => none
  | fuel + 1, cs =>
      match cs with
      | '"' :: cs => (readString (cs.length + 1) cs).map fun (s, rest) =>
          (.str (String.ofList s), rest)
      | '{' :: cs =>
          match skipSpace cs with
          | '}' :: rest => some (.obj [], rest)
          | cs => (parseMembers fuel cs).map fun (ms, rest) => (.obj (dictOf ms), rest)
      | '[' :: cs =>
          match skipSpace cs with
          | ']' :: rest => some (.arr [], rest)
          | cs => (parseItems fuel cs).map fun (vs, rest) => (.arr vs, rest)
      | cs => parseLiteral floats cs

/-- The items of an array up to its closing bracket. -/
def parseItems : Nat → List Char → Option (List JsonValue × List Char)
  | 0, _ => none
  | fuel + 1, cs =>
      (parseValue fuel cs).bind fun (v, rest) =>
        match skipSpace rest with
        | ']' :: rest => some ([v], rest)
        | ',' :: rest => (parseItems fuel (skipSpace rest)).map fun (vs, rest) => (v :: vs, rest)
        | _ => none

/-- The members of an object up to its closing brace. -/
def parseMembers : Nat → List Char → Option (List (String × JsonValue) × List Char)
  | 0, _ => none
  | fuel + 1, cs =>
      match cs with
      | '"' :: cs =>
          (readString (cs.length + 1) cs).bind fun (k, rest) =>
            match skipSpace rest with
            | ':' :: rest =>
                (parseValue fuel (skipSpace rest)).bind fun (v, rest) =>
                  match skipSpace rest with
                  | '}' :: rest => some ([(String.ofList k, v)], rest)
                  | ',' :: rest => (parseMembers fuel (skipSpace rest)).map fun (ms, rest) =>
                      ((String.ofList k, v) :: ms, rest)
                  | _ => none
            | _ => none
      | _ => none
end

/-- `json.loads`. There is no value when the text is not JSON, or goes on after it. -/
def loads (s : String) : Option JsonValue :=
  match parseValue floats (s.toList.length + 1) (skipSpace s.toList) with
  | some (v, rest) => if skipSpace rest = [] then some v else none
  | none => none

end Reader

/-! ### Well-formed values -/

/-- The literal of a float, as a writer writes it. -/
def FloatText.IsFloat (floats : FloatText) (literal : String) : Prop :=
  literal = "NaN" ∨ literal = "Infinity" ∨ literal = "-Infinity" ∨
    (scanNumber literal.toList = some (literal.toList, true, []) ∧
      floats.normal literal = literal)

mutual
/-- The floats of a value are floats, and no key occurs twice in an object. -/
def WellFormed (floats : FloatText) : JsonValue → Prop
  | .null => True
  | .bool _ => True
  | .int _ => True
  | .float literal => floats.IsFloat literal
  | .str _ => True
  | .arr items => WellFormedItems floats items
  | .obj members => (members.map (·.1)).Nodup ∧ WellFormedMembers floats members

def WellFormedItems (floats : FloatText) : List JsonValue → Prop
  | [] => True
  | v :: vs => WellFormed floats v ∧ WellFormedItems floats vs

def WellFormedMembers (floats : FloatText) : List (String × JsonValue) → Prop
  | [] => True
  | (_, v) :: ms => WellFormed floats v ∧ WellFormedMembers floats ms
end

/-! ### Tokens -/

theorem skipSpace_append {space : List Char} (hspace : ∀ c ∈ space, isSpace c = true) {c : Char}
    (hc : isSpace c = false) (r : List Char) : skipSpace (space ++ c :: r) = c :: r := by
  rw [skipSpace, List.dropWhile_append_of_pos hspace, List.dropWhile_cons_of_neg (by simp [hc])]

theorem numberEnd_nil : NumberEnd [] := by
  intro c cs h
  cases h

/-- White space and brackets end a number. -/
theorem numberEnd_append {space : List Char} (hspace : ∀ c ∈ space, isSpace c = true) {c : Char}
    (hc : c = ',' ∨ c = ']' ∨ c = '}') (r : List Char) : NumberEnd (space ++ c :: r) := by
  intro d ds h
  cases space with
  | nil =>
      obtain ⟨rfl, -⟩ := List.cons.inj h
      rcases hc with rfl | rfl | rfl <;> decide
  | cons e space =>
      obtain ⟨rfl, -⟩ := List.cons.inj h
      have he := hspace e (List.mem_cons_self ..)
      simp only [isSpace, Bool.or_eq_true, decide_eq_true_eq] at he
      rcases he with ((rfl | rfl) | rfl) | rfl <;> decide

/-- A number begins with a digit, perhaps after a minus. -/
theorem scanNumber_lead {cs literal rest : List Char} {isFloat : Bool}
    (h : scanNumber cs = some (literal, isFloat, rest)) :
    ∃ c ds, isDecimal c = true ∧ (cs = c :: ds ∨ cs = '-' :: c :: ds) := by
  have hdigits : ∀ {ds : List Char} {x : List Char × List Char}, scanDigits ds = some x →
      ∃ c es, isDecimal c = true ∧ ds = c :: es := by
    intro ds x hx
    cases ds with
    | nil => cases hx
    | cons c ds =>
        refine ⟨c, ds, ?_, rfl⟩
        rw [scanDigits] at hx
        by_cases hzero : c = '0'
        · rw [hzero]
          decide
        · rw [if_neg hzero] at hx
          by_contra hc
          rw [if_neg hc] at hx
          cases hx
  simp only [scanNumber] at h
  obtain ⟨x, hx, -⟩ := Option.map_eq_some_iff.mp h
  obtain ⟨c, ds, hc, hsplit⟩ := hdigits hx
  refine ⟨c, ds, hc, ?_⟩
  unfold scanSign at hsplit
  split at hsplit
  · exact .inr (by rw [← hsplit])
  · exact .inl hsplit

/-- What is scanned as a number is no name. -/
theorem parseLiteral_of_scanNumber (floats : FloatText) {cs literal rest : List Char}
    {isFloat : Bool} (h : scanNumber cs = some (literal, isFloat, rest)) :
    parseLiteral floats cs =
      some (if isFloat then .float (floats.normal (String.ofList literal))
        else .int (readInt literal), rest) := by
  obtain ⟨c, ds, hc, hcs⟩ := scanNumber_lead h
  have hne : ∀ d, isDecimal d = false → c ≠ d := by
    rintro d hd rfl
    rw [hc] at hd
    cases hd
  have hnone : (constants.findSome? fun (name, v) =>
      (dropName name.toList cs).map fun rest => (v, rest)) = none := by
    rcases hcs with rfl | rfl
    · simp [constants, dropName, Ne.symm (hne 'n' rfl), Ne.symm (hne 't' rfl),
        Ne.symm (hne 'f' rfl), Ne.symm (hne 'N' rfl), Ne.symm (hne 'I' rfl),
        Ne.symm (hne '-' rfl)]
    · simp [constants, dropName, Ne.symm (hne 'I' rfl)]
  rw [parseLiteral, hnone]
  simp only [h, Option.map_some]
  cases isFloat <;> rfl

/-! ### What is written is read back -/

section RoundTrip

variable (floats : FloatText) (layout : Layout)

/-- The first character of a text decides how the reader goes on. -/
theorem text_lead {v : JsonValue} (hv : WellFormed floats v) (level : Nat) :
    ∃ c cs, text asciiCode layout level v = c :: cs ∧ isSpace c = false ∧ c ≠ ']' ∧ c ≠ '}' := by
  have hnumber : ∀ {cs literal rest : List Char} {isFloat : Bool},
      scanNumber cs = some (literal, isFloat, rest) →
      ∃ c ds, cs = c :: ds ∧ isSpace c = false ∧ c ≠ ']' ∧ c ≠ '}' := by
    intro cs literal rest isFloat h
    obtain ⟨c, ds, hc, hcs⟩ := scanNumber_lead h
    have hne : ∀ d, isDecimal d = false → c ≠ d := by
      rintro d hd rfl
      rw [hc] at hd
      cases hd
    rcases hcs with rfl | rfl
    · refine ⟨c, ds, rfl, ?_, hne _ (by decide), hne _ (by decide)⟩
      simp [isSpace, hne ' ' (by decide), hne '\t' (by decide), hne '\n' (by decide),
        hne '\r' (by decide)]
    · exact ⟨'-', c :: ds, rfl, by decide, by decide, by decide⟩
  cases v with
  | null => exact ⟨'n', _, by rw [text], by decide, by decide, by decide⟩
  | bool b =>
      cases b with
      | true => exact ⟨'t', _, by rw [text], by decide, by decide, by decide⟩
      | false => exact ⟨'f', _, by rw [text], by decide, by decide, by decide⟩
  | int i =>
      rw [text]
      exact hnumber (scanNumber_intText i)
  | float literal =>
      rw [WellFormed] at hv
      rw [text]
      rcases hv with rfl | rfl | rfl | ⟨hscan, -⟩
      · exact ⟨'N', _, rfl, by decide, by decide, by decide⟩
      · exact ⟨'I', _, rfl, by decide, by decide, by decide⟩
      · exact ⟨'-', _, rfl, by decide, by decide, by decide⟩
      · exact hnumber hscan
  | str s => exact ⟨'"', _, by rw [text, StringCode.quoted], by decide, by decide, by decide⟩
  | arr items => exact ⟨'[', _, by rw [text], by decide, by decide, by decide⟩
  | obj members => exact ⟨'{', _, by rw [text], by decide, by decide, by decide⟩

theorem readString_quoted (s : String) (r : List Char) :
    readString ((asciiCode.body s.toList ++ r).length + 1) (asciiCode.body s.toList ++ r) =
      some (s.toList, r) := by
  refine readString_body s.toList r ?_
  have hle : ∀ cs : List Char, cs.length ≤ (asciiCode.body cs).length := by
    intro cs
    induction cs with
    | nil => exact Nat.zero_le _
    | cons c cs ih =>
        have hne : asciiEscape c ≠ [] := by
          intro hnil
          have hread := loadsRead_asciiEscape c []
          rw [hnil] at hread
          cases hread
        have hpos : 0 < (asciiCode.escape c).length := List.length_pos_iff.mpr hne
        rw [StringCode.body, List.length_append, List.length_cons]
        omega
  rw [List.length_append]
  have := hle s.toList
  omega

/-- A name or a number is no bracket, brace or quote. -/
theorem parseValue_of_literal {fuel : Nat} {cs : List Char} {v : JsonValue} {rest : List Char}
    (h : parseLiteral floats cs = some (v, rest))
    (hlead : ∀ c ds, cs = c :: ds → c ≠ '"' ∧ c ≠ '{' ∧ c ≠ '[') :
    parseValue floats (fuel + 1) cs = some (v, rest) := by
  rw [parseValue]
  · exact h
  · intro ds heq
    exact absurd rfl (hlead _ _ heq).1
  · intro ds heq
    exact absurd rfl (hlead _ _ heq).2.1
  · intro ds heq
    exact absurd rfl (hlead _ _ heq).2.2

/-- The name of a constant is read as the constant, whatever follows. -/
theorem parseValue_of_constant {name : String} {v : JsonValue} (h : (name, v) ∈ constants)
    (fuel : Nat) (r : List Char) :
    parseValue floats (fuel + 1) (name.toList ++ r) = some (v, r) := by
  simp only [constants, List.mem_cons, Prod.mk.injEq, List.not_mem_nil, or_false] at h
  obtain ⟨rfl, rfl⟩ | ⟨rfl, rfl⟩ | ⟨rfl, rfl⟩ | ⟨rfl, rfl⟩ | ⟨rfl, rfl⟩ | ⟨rfl, rfl⟩ := h <;>
    exact parseValue_of_literal floats rfl fun c ds heq => by
      obtain ⟨rfl, -⟩ := List.cons.inj heq
      decide

/-- The number at the front of a text is read, whatever follows that ends it. -/
theorem parseValue_of_scanNumber {fuel : Nat} {cs r : List Char} {isFloat : Bool}
    (h : scanNumber cs = some (cs, isFloat, [])) (hr : NumberEnd r) :
    parseValue floats (fuel + 1) (cs ++ r) =
      some (if isFloat then .float (floats.normal (String.ofList cs)) else .int (readInt cs),
        r) := by
  refine parseValue_of_literal floats
    (parseLiteral_of_scanNumber floats (scanNumber_append hr h)) ?_
  intro d ds heq
  obtain ⟨c, es, hc, hcs⟩ := scanNumber_lead h
  rcases hcs with hcs | hcs
  · rw [hcs, List.cons_append] at heq
    obtain ⟨rfl, -⟩ := List.cons.inj heq
    refine ⟨?_, ?_, ?_⟩
    all_goals
      rintro rfl
      exact absurd hc (by decide)
  · rw [hcs, List.cons_append] at heq
    obtain ⟨rfl, -⟩ := List.cons.inj heq
    decide

/-! One lemma for each way the reader goes on inside brackets and braces. -/

theorem parseValue_arr {fuel : Nat} {cs r ds : List Char} {c : Char} {vs : List JsonValue}
    (hlead : skipSpace cs = c :: ds) (hc : c ≠ ']')
    (hitems : parseItems floats fuel (skipSpace cs) = some (vs, r)) :
    parseValue floats (fuel + 1) ('[' :: cs) = some (.arr vs, r) := by
  rw [parseValue]
  split
  · next heq =>
      rw [hlead] at heq
      exact absurd (List.cons.inj heq).1 hc
  · rw [hitems]
    rfl

theorem parseValue_obj {fuel : Nat} {cs r ds : List Char} {c : Char}
    {ms : List (String × JsonValue)} (hlead : skipSpace cs = c :: ds) (hc : c ≠ '}')
    (hmembers : parseMembers floats fuel (skipSpace cs) = some (ms, r)) :
    parseValue floats (fuel + 1) ('{' :: cs) = some (.obj (dictOf ms), r) := by
  rw [parseValue]
  split
  · next heq =>
      rw [hlead] at heq
      exact absurd (List.cons.inj heq).1 hc
  · rw [hmembers]
    rfl

theorem parseItems_last {fuel : Nat} {cs rest r : List Char} {v : JsonValue}
    (hv : parseValue floats fuel cs = some (v, rest)) (hend : skipSpace rest = ']' :: r) :
    parseItems floats (fuel + 1) cs = some ([v], r) := by
  rw [parseItems, hv, Option.bind_some]
  simp only [hend]

theorem parseItems_more {fuel : Nat} {cs rest rest' r : List Char} {v : JsonValue}
    {vs : List JsonValue} (hv : parseValue floats fuel cs = some (v, rest))
    (hcomma : skipSpace rest = ',' :: rest')
    (hvs : parseItems floats fuel (skipSpace rest') = some (vs, r)) :
    parseItems floats (fuel + 1) cs = some (v :: vs, r) := by
  rw [parseItems, hv, Option.bind_some]
  simp only [hcomma, hvs, Option.map_some]

section Member

variable {fuel : Nat} {k : String} {v : JsonValue} {cs rest r : List Char}
  (hcolon : skipSpace cs = ':' :: rest)
  (hv : parseValue floats fuel (skipSpace rest) = some (v, r))

include hcolon hv

theorem parseMembers_last {r' : List Char} (hend : skipSpace r = '}' :: r') :
    parseMembers floats (fuel + 1) (asciiCode.quoted k ++ cs) = some ([(k, v)], r') := by
  rw [StringCode.quoted, List.cons_append, parseMembers, readString_quoted, Option.bind_some]
  simp only [hcolon, hv, Option.bind_some, hend, String.ofList_toList]

theorem parseMembers_more {r' r'' : List Char} {ms : List (String × JsonValue)}
    (hcomma : skipSpace r = ',' :: r')
    (hms : parseMembers floats fuel (skipSpace r') = some (ms, r'')) :
    parseMembers floats (fuel + 1) (asciiCode.quoted k ++ cs) = some ((k, v) :: ms, r'') := by
  rw [StringCode.quoted, List.cons_append, parseMembers, readString_quoted, Option.bind_some]
  simp only [hcolon, hv, Option.bind_some, hcomma, hms, Option.map_some, String.ofList_toList]

end Member

/-- White space before a value is skipped. -/
theorem skipSpace_text {v : JsonValue} (hv : WellFormed floats v) (level : Nat)
    {space : List Char} (hspace : ∀ c ∈ space, isSpace c = true) (r : List Char) :
    skipSpace (space ++ (text asciiCode layout level v ++ r)) =
      text asciiCode layout level v ++ r := by
  obtain ⟨c, cs, htext, hc, -⟩ := text_lead floats layout hv level
  rw [htext, List.cons_append, skipSpace_append hspace hc]

theorem itemsText_lead {v : JsonValue} (vs : List JsonValue) (hv : WellFormed floats v)
    (level : Nat) (r : List Char) : ∃ c ds,
    skipSpace (itemsText asciiCode layout level (v :: vs) ++ r) = c :: ds ∧ c ≠ ']' := by
  obtain ⟨c, cs, htext, -, hc, -⟩ := text_lead floats layout hv (level + 1)
  have hspace := layout.isSpace_lineBreak (level + 1)
  cases vs with
  | nil =>
      rw [itemsText, List.append_assoc, List.append_assoc, skipSpace_text floats layout hv _ hspace,
        htext]
      exact ⟨c, _, rfl, hc⟩
  | cons w vs =>
      rw [itemsText, List.append_assoc, List.append_assoc, skipSpace_text floats layout hv _ hspace,
        htext]
      exact ⟨c, _, rfl, hc⟩

theorem membersText_lead (m : String × JsonValue) (ms : List (String × JsonValue)) (level : Nat)
    (r : List Char) : ∃ ds,
    skipSpace (membersText asciiCode layout level (m :: ms) ++ r) = '"' :: ds := by
  have hspace := layout.isSpace_lineBreak (level + 1)
  cases ms with
  | nil =>
      rw [membersText, List.append_assoc, StringCode.quoted, List.cons_append, List.cons_append,
        skipSpace_append hspace (by decide)]
      exact ⟨_, rfl⟩
  | cons n ms =>
      rw [membersText, List.append_assoc, StringCode.quoted, List.cons_append, List.cons_append,
        skipSpace_append hspace (by decide)]
      exact ⟨_, rfl⟩

mutual
/-- The text of a value is read as the value, whatever follows that ends a number. The
induction is on the value; the fuel only has to exceed the length of its text. -/
theorem parseValue_text : ∀ (v : JsonValue) (level : Nat) {r : List Char} {fuel : Nat},
    WellFormed floats v → NumberEnd r → (text asciiCode layout level v).length < fuel →
    parseValue floats fuel (text asciiCode layout level v ++ r) = some (v, r)
  | .null, level, r, fuel + 1, _, _, _ => by
      rw [text]
      exact parseValue_of_constant floats (show ("null", .null) ∈ constants by simp [constants]) _ _
  | .bool true, level, r, fuel + 1, _, _, _ => by
      rw [text]
      exact parseValue_of_constant floats
        (show ("true", .bool true) ∈ constants by simp [constants]) _ _
  | .bool false, level, r, fuel + 1, _, _, _ => by
      rw [text]
      exact parseValue_of_constant floats
        (show ("false", .bool false) ∈ constants by simp [constants]) _ _
  | .int i, level, r, fuel + 1, _, hr, _ => by
      rw [text, parseValue_of_scanNumber floats (scanNumber_intText i) hr, readInt_intText]
      rfl
  | .float literal, level, r, fuel + 1, hv, hr, _ => by
      rw [WellFormed] at hv
      rw [text]
      rcases hv with rfl | rfl | rfl | ⟨hscan, hnormal⟩
      · exact parseValue_of_constant floats (by simp [constants]) _ _
      · exact parseValue_of_constant floats (by simp [constants]) _ _
      · exact parseValue_of_constant floats (by simp [constants]) _ _
      · rw [parseValue_of_scanNumber floats hscan hr, String.ofList_toList, hnormal]
        rfl
  | .str s, level, r, fuel + 1, _, _, _ => by
      rw [text, StringCode.quoted, List.cons_append, parseValue, readString_quoted,
        Option.map_some]
      simp only [String.ofList_toList]
  | .arr [], level, r, fuel + 1, _, _, _ => by
      rw [text, itemsText]
      rfl
  | .arr (v :: vs), level, r, fuel + 1, hv, _, hfuel => by
      rw [WellFormed] at hv
      -- the bracket takes one unit of the fuel, and the items the rest
      rw [text, List.length_cons] at hfuel
      rw [text, List.cons_append]
      obtain ⟨c, ds, hlead, hc⟩ := itemsText_lead floats layout vs hv.1 level r
      exact parseValue_arr floats hlead hc
        (parseItems_text (v :: vs) (List.cons_ne_nil _ _) level hv (by omega))
  | .obj [], level, r, fuel + 1, _, _, _ => by
      rw [text, membersText]
      rfl
  | .obj (m :: ms), level, r, fuel + 1, hv, _, hfuel => by
      rw [WellFormed] at hv
      rw [text, List.length_cons] at hfuel
      rw [text, List.cons_append]
      obtain ⟨ds, hlead⟩ := membersText_lead layout m ms level r
      rw [parseValue_obj floats hlead (by decide)
        (parseMembers_text (m :: ms) (List.cons_ne_nil _ _) level hv.2 (by omega)),
        dictOf_of_nodup hv.1]

/-- The items of an array are read up to the bracket that closes it. -/
theorem parseItems_text : ∀ (vs : List JsonValue), vs ≠ [] → ∀ (level : Nat) {r : List Char}
    {fuel : Nat}, WellFormedItems floats vs → (itemsText asciiCode layout level vs).length < fuel →
    parseItems floats fuel (skipSpace (itemsText asciiCode layout level vs ++ r)) = some (vs, r)
  | [v], _, level, r, fuel + 1, hv, hfuel => by
      rw [WellFormedItems] at hv
      rw [itemsText] at hfuel ⊢
      simp only [List.length_append, List.length_cons, List.length_nil] at hfuel
      have hspace := layout.isSpace_lineBreak level
      rw [List.append_assoc, List.append_assoc,
        skipSpace_text floats layout hv.1 _ (layout.isSpace_lineBreak (level + 1)),
        List.append_assoc, List.singleton_append]
      exact parseItems_last floats
        (parseValue_text v (level + 1) hv.1 (numberEnd_append hspace (by decide) r) (by omega))
        (skipSpace_append hspace (by decide) r)
  | v :: w :: vs, _, level, r, fuel + 1, hv, hfuel => by
      rw [WellFormedItems] at hv
      rw [itemsText] at hfuel ⊢
      simp only [List.length_append, List.length_cons] at hfuel
      have hnil : ∀ c ∈ ([] : List Char), isSpace c = true := by simp
      rw [List.append_assoc, List.append_assoc,
        skipSpace_text floats layout hv.1 _ (layout.isSpace_lineBreak (level + 1)),
        List.cons_append]
      exact parseItems_more floats
        (parseValue_text v (level + 1) hv.1 (numberEnd_append hnil (by decide) _) (by omega))
        (skipSpace_append hnil (by decide) _)
        (parseItems_text (w :: vs) (List.cons_ne_nil _ _) level hv.2 (by omega))

/-- The members of an object are read up to the brace that closes it. -/
theorem parseMembers_text : ∀ (ms : List (String × JsonValue)), ms ≠ [] → ∀ (level : Nat)
    {r : List Char} {fuel : Nat}, WellFormedMembers floats ms →
    (membersText asciiCode layout level ms).length < fuel →
    parseMembers floats fuel (skipSpace (membersText asciiCode layout level ms ++ r)) =
      some (ms, r)
  | [(k, v)], _, level, r, fuel + 1, hv, hfuel => by
      rw [WellFormedMembers] at hv
      rw [membersText] at hfuel ⊢
      simp only [List.length_append, List.length_cons, List.length_nil] at hfuel
      have hspace := layout.isSpace_lineBreak level
      have hquote : ∀ rest, skipSpace (layout.lineBreak (level + 1) ++
          (asciiCode.quoted k ++ rest)) = asciiCode.quoted k ++ rest := by
        intro rest
        rw [StringCode.quoted, List.cons_append,
          skipSpace_append (layout.isSpace_lineBreak (level + 1)) (by decide)]
      simp only [List.append_assoc, List.cons_append, List.nil_append]
      rw [hquote]
      refine parseMembers_last floats (show skipSpace _ = ':' :: (layout.afterColon ++
        (text asciiCode layout (level + 1) v ++ (layout.lineBreak level ++ '}' :: r))) from rfl) ?_
        (skipSpace_append hspace (by decide) r)
      rw [skipSpace_text floats layout hv.1 _ layout.isSpace_afterColon]
      exact parseValue_text v (level + 1) hv.1 (numberEnd_append hspace (by decide) r) (by omega)
  | (k, v) :: m :: ms, _, level, r, fuel + 1, hv, hfuel => by
      rw [WellFormedMembers] at hv
      rw [membersText] at hfuel ⊢
      simp only [List.length_append, List.length_cons] at hfuel
      have hnil : ∀ c ∈ ([] : List Char), isSpace c = true := by simp
      have hquote : ∀ rest, skipSpace (layout.lineBreak (level + 1) ++
          (asciiCode.quoted k ++ rest)) = asciiCode.quoted k ++ rest := by
        intro rest
        rw [StringCode.quoted, List.cons_append,
          skipSpace_append (layout.isSpace_lineBreak (level + 1)) (by decide)]
      simp only [List.append_assoc, List.cons_append]
      rw [hquote]
      refine parseMembers_more floats (show skipSpace _ = ':' :: (layout.afterColon ++
        (text asciiCode layout (level + 1) v ++ ',' ::
          (membersText asciiCode layout level (m :: ms) ++ r))) from rfl) ?_
        (skipSpace_append hnil (by decide) _)
        (parseMembers_text (m :: ms) (List.cons_ne_nil _ _) level hv.2 (by omega))
      rw [skipSpace_text floats layout hv.1 _ layout.isSpace_afterColon]
      exact parseValue_text v (level + 1) hv.1 (numberEnd_append hnil (by decide) _) (by omega)
end

/-- **What a writer wrote, the reader reads back**, in whatever layout. -/
theorem loads_text {v : JsonValue} (hv : WellFormed floats v) :
    loads floats (String.ofList (text asciiCode layout 0 v)) = some v := by
  have hnil : ∀ c ∈ ([] : List Char), isSpace c = true := by simp
  have hskip := skipSpace_text floats layout hv 0 hnil []
  have hparse := parseValue_text floats layout v 0 hv numberEnd_nil
    (Nat.lt_succ_self (text asciiCode layout 0 v).length)
  rw [List.nil_append, List.append_nil] at hskip
  rw [List.append_nil] at hparse
  rw [loads, String.toList_ofList, hskip, hparse]
  exact if_pos rfl

end RoundTrip

end JsonValue

import Mathlib.Data.Nat.Digits.Lemmas
import Mathlib.Data.List.Basic
import Mathlib.Tactic.IntervalCases

/-!
# Vrl.Lib.Text

Numbers as text: hexadecimal digits, fixed-width hexadecimal, decimal integers,
and the character classes that go with them. Everything works on `List Char`,
which the kernel computes on directly; a `String` is only made at the end.

Each writer comes with its reader, and the two facts every user of the text
needs: the characters it can contain, and that reading back gives the number.
-/

namespace TextCodec

/-! ### Character classes -/

/-- A lower-case hexadecimal digit. -/
def isLowerHex (c : Char) : Bool := ('0' ≤ c && c ≤ '9') || ('a' ≤ c && c ≤ 'f')

/-- A hexadecimal digit in either case. -/
def isHexAnyCase (c : Char) : Bool := isLowerHex c || ('A' ≤ c && c ≤ 'F')

/-- An ASCII decimal digit. -/
def isDecimal (c : Char) : Bool := '0' ≤ c && c ≤ '9'

/-- A seven-bit character. -/
def isAsciiChar (c : Char) : Bool := c.toNat < 128

/-- The members of a list are tried, not all characters that there are. -/
instance decidableForallMem {p : Char → Prop} [DecidablePred p] (cs : List Char) :
    Decidable (∀ c ∈ cs, p c) :=
  List.decidableBAll p cs

/-- Text of seven-bit characters only. -/
def IsAscii (cs : List Char) : Prop := ∀ c ∈ cs, isAsciiChar c = true

instance (cs : List Char) : Decidable (IsAscii cs) :=
  decidable_of_iff (cs.all isAsciiChar = true) List.all_eq_true

theorem isAscii_nil : IsAscii [] := fun _ h => absurd h List.not_mem_nil

theorem isAscii_cons {c : Char} {cs : List Char} :
    IsAscii (c :: cs) ↔ isAsciiChar c = true ∧ IsAscii cs := by
  simp [IsAscii]

theorem isAscii_append {cs ds : List Char} :
    IsAscii (cs ++ ds) ↔ IsAscii cs ∧ IsAscii ds := by
  simp [IsAscii, or_imp, forall_and]

theorem isAsciiChar_of_isLowerHex {c : Char} (h : isLowerHex c = true) :
    isAsciiChar c = true := by
  simp only [isLowerHex, Bool.or_eq_true, Bool.and_eq_true, decide_eq_true_eq, Char.le_def,
    UInt32.le_iff_toNat_le] at h
  have h9 : '9'.val.toNat = 57 := rfl
  have hf : 'f'.val.toNat = 102 := rfl
  simp only [isAsciiChar, decide_eq_true_eq, Char.toNat]
  omega

theorem isAsciiChar_of_isDecimal {c : Char} (h : isDecimal c = true) : isAsciiChar c = true := by
  refine isAsciiChar_of_isLowerHex ?_
  show (isDecimal c || ('a' ≤ c && c ≤ 'f')) = true
  rw [h, Bool.true_or]

/-- Text of printable ASCII characters only: no control character, in particular no end of line. -/
def IsPrintable (cs : List Char) : Prop := ∀ c ∈ cs, 32 ≤ c.toNat ∧ c.toNat < 127

instance (cs : List Char) : Decidable (IsPrintable cs) := decidableForallMem cs

theorem isPrintable_nil : IsPrintable [] := fun _ h => absurd h List.not_mem_nil

theorem isPrintable_cons {c : Char} {cs : List Char} :
    IsPrintable (c :: cs) ↔ (32 ≤ c.toNat ∧ c.toNat < 127) ∧ IsPrintable cs :=
  List.forall_mem_cons

theorem isPrintable_append {cs ds : List Char} :
    IsPrintable (cs ++ ds) ↔ IsPrintable cs ∧ IsPrintable ds :=
  List.forall_mem_append

theorem IsPrintable.isAscii {cs : List Char} (h : IsPrintable cs) : IsAscii cs := by
  intro c hc
  have hlt := (h c hc).2
  simp only [isAsciiChar, decide_eq_true_eq]
  omega

theorem isPrintable_of_isLowerHex {cs : List Char} (h : ∀ c ∈ cs, isLowerHex c = true) :
    IsPrintable cs := by
  intro c hc
  have hhex := h c hc
  simp only [isLowerHex, Bool.or_eq_true, Bool.and_eq_true, decide_eq_true_eq, Char.le_def,
    UInt32.le_iff_toNat_le] at hhex
  have h0 : '0'.val.toNat = 48 := rfl
  have h9 : '9'.val.toNat = 57 := rfl
  have ha : 'a'.val.toNat = 97 := rfl
  have hf : 'f'.val.toNat = 102 := rfl
  simp only [Char.toNat]
  omega

theorem isPrintable_of_isDecimal {cs : List Char} (h : ∀ c ∈ cs, isDecimal c = true) :
    IsPrintable cs := by
  refine isPrintable_of_isLowerHex fun c hc => ?_
  show (isDecimal c || ('a' ≤ c && c ≤ 'f')) = true
  rw [h c hc, Bool.true_or]

theorem not_capital_of_isLowerHex {c : Char} (h : isLowerHex c = true) :
    (!('A' ≤ c && c ≤ 'Z')) = true := by
  simp only [isLowerHex, Bool.or_eq_true, Bool.and_eq_true, decide_eq_true_eq, Char.le_def,
    UInt32.le_iff_toNat_le] at h
  have h9 : '9'.val.toNat = 57 := rfl
  have ha : 'a'.val.toNat = 97 := rfl
  have hA : 'A'.val.toNat = 65 := rfl
  have hZ : 'Z'.val.toNat = 90 := rfl
  simp only [Bool.not_eq_true', Bool.and_eq_false_iff, decide_eq_false_iff_not, Char.le_def,
    UInt32.le_iff_toNat_le]
  omega

/-- The digit of value `d < 16`, lower case. -/
def hexDigit (d : Nat) : Char :=
  if d < 10 then Char.ofNat (48 + d) else Char.ofNat (87 + d)

/-- The value of a lower-case hexadecimal digit; other characters have none. -/
def hexVal (c : Char) : Option Nat :=
  if '0' ≤ c ∧ c ≤ '9' then some (c.toNat - 48)
  else if 'a' ≤ c ∧ c ≤ 'f' then some (c.toNat - 87)
  else none

theorem hexVal_hexDigit {d : Nat} (h : d < 16) : hexVal (hexDigit d) = some d := by
  interval_cases d <;> decide

theorem isLowerHex_hexDigit {d : Nat} (h : d < 16) : isLowerHex (hexDigit d) = true := by
  interval_cases d <;> decide

theorem isDecimal_hexDigit {d : Nat} (h : d < 10) : isDecimal (hexDigit d) = true := by
  interval_cases d <;> decide

theorem toLower_hexDigit {d : Nat} (h : d < 16) : (hexDigit d).toLower = hexDigit d := by
  interval_cases d <;> decide

theorem hexVal_toLower_hexDigit {d : Nat} (h : d < 16) :
    hexVal (hexDigit d).toLower = some d := by
  rw [toLower_hexDigit h, hexVal_hexDigit h]

theorem isLowerHex_cases (n : Fin 0x80) : isLowerHex (Char.ofNat n) = true →
    ∃ d : Fin 16, Char.ofNat n = hexDigit d := by
  revert n
  decide +kernel

/-- Every hexadecimal digit is that of a value. -/
theorem exists_hexDigit_of_isLowerHex {c : Char} (h : isLowerHex c = true) :
    ∃ d < 16, c = hexDigit d := by
  have hlt : c.toNat < 0x80 := of_decide_eq_true (isAsciiChar_of_isLowerHex h)
  have hcases := isLowerHex_cases ⟨c.toNat, hlt⟩
  rw [Char.ofNat_toNat] at hcases
  obtain ⟨d, hd⟩ := hcases h
  exact ⟨d, d.isLt, hd⟩

/-! ### Fixed-width hexadecimal -/

/-- The last `w` hexadecimal digits of `n`, most significant first. -/
def hexFixed : Nat → Nat → List Char
  | 0, _ => []
  | w + 1, n => hexFixed w (n / 16) ++ [hexDigit (n % 16)]

/-- The number a text of hexadecimal digits denotes, accumulated from the left. -/
def readHex : Nat → List Char → Option Nat
  | acc, [] => some acc
  | acc, c :: cs => (hexVal c).bind fun d => readHex (16 * acc + d) cs

@[simp] theorem hexFixed_length (w n : Nat) : (hexFixed w n).length = w := by
  induction w generalizing n with
  | zero => rfl
  | succ w ih => simp [hexFixed, ih]

theorem hexFixed_isLowerHex (w n : Nat) : ∀ c ∈ hexFixed w n, isLowerHex c = true := by
  induction w generalizing n with
  | zero => intro c hc; exact absurd hc List.not_mem_nil
  | succ w ih =>
      intro c hc
      simp only [hexFixed, List.mem_append, List.mem_singleton] at hc
      rcases hc with hc | rfl
      · exact ih _ c hc
      · exact isLowerHex_hexDigit (Nat.mod_lt _ (by norm_num))

theorem readHex_append (acc : Nat) (cs ds : List Char) :
    readHex acc (cs ++ ds) = (readHex acc cs).bind fun a => readHex a ds := by
  induction cs generalizing acc with
  | nil => rfl
  | cons c cs ih =>
      simp only [List.cons_append, readHex]
      cases hexVal c with
      | none => rfl
      | some d => exact ih _

/-- Reading back `w` fixed digits shifts the accumulator and adds the number. -/
theorem readHex_hexFixed (w : Nat) : ∀ {n : Nat}, n < 16 ^ w → ∀ acc,
    readHex acc (hexFixed w n) = some (16 ^ w * acc + n) := by
  induction w with
  | zero =>
      intro n h acc
      have hn : n = 0 := by simpa using h
      simp [hexFixed, readHex, hn]
  | succ w ih =>
      intro n h acc
      have hq : n / 16 < 16 ^ w := by
        rw [pow_succ] at h
        omega
      rw [hexFixed, readHex_append, ih hq acc, Option.bind_some]
      simp only [readHex, hexVal_hexDigit (Nat.mod_lt n (by norm_num : 0 < 16)), Option.bind_some]
      congr 1
      rw [pow_succ]
      have := Nat.div_add_mod n 16
      ring_nf
      omega

theorem hexFixed_injective {w m n : Nat} (hm : m < 16 ^ w) (hn : n < 16 ^ w)
    (h : hexFixed w m = hexFixed w n) : m = n := by
  have hm' := readHex_hexFixed w hm 0
  rw [h, readHex_hexFixed w hn 0] at hm'
  simpa using hm'.symm

/-- A text with every character written as eight hexadecimal digits. -/
def hexEncode : List Char → List Char
  | [] => []
  | c :: cs => hexFixed 8 c.toNat ++ hexEncode cs

theorem hexEncode_length (cs : List Char) : (hexEncode cs).length = 8 * cs.length := by
  induction cs with
  | nil => rfl
  | cons c cs ih =>
      rw [hexEncode, List.length_append, hexFixed_length, ih, List.length_cons]
      omega

theorem hexEncode_isLowerHex (cs : List Char) : ∀ c ∈ hexEncode cs, isLowerHex c = true := by
  induction cs with
  | nil => intro c hc; exact absurd hc List.not_mem_nil
  | cons d cs ih =>
      intro c hc
      rcases List.mem_append.mp hc with hc | hc
      · exact hexFixed_isLowerHex 8 _ c hc
      · exact ih c hc

theorem hexEncode_injective {cs ds : List Char} (h : hexEncode cs = hexEncode ds) : cs = ds := by
  induction cs generalizing ds with
  | nil =>
      have hlen := congrArg List.length h
      rw [hexEncode_length, hexEncode_length, List.length_nil] at hlen
      exact (List.length_eq_zero_iff.mp (by omega)).symm
  | cons c cs ih =>
      cases ds with
      | nil =>
          have hlen := congrArg List.length h
          rw [hexEncode_length, hexEncode_length, List.length_nil, List.length_cons] at hlen
          omega
      | cons d ds =>
          obtain ⟨hcd, hrest⟩ := List.append_inj h (by simp)
          have hlt : ∀ x : Char, x.toNat < 16 ^ 8 := fun x =>
            Nat.lt_of_lt_of_le x.val.toNat_lt (by norm_num)
          have hval := hexFixed_injective (hlt c) (hlt d) hcd
          rw [ih hrest, ← Char.ofNat_toNat c, hval, Char.ofNat_toNat]

/-! ### Decimal integers -/

/-- The decimal digits of a natural number, without leading zeros. -/
def natText (n : Nat) : List Char :=
  if n = 0 then ['0'] else ((Nat.digits 10 n).map hexDigit).reverse

/-- The decimal text of an integer, as `str` writes it. -/
def intText : Int → List Char
  | .ofNat n => natText n
  | .negSucc n => '-' :: natText (n + 1)

/-- The number a text of decimal digits denotes. -/
def readNat (cs : List Char) : Nat :=
  Nat.ofDigits 10 (cs.reverse.map fun c => c.toNat - 48)

theorem natText_isDecimal (n : Nat) : ∀ c ∈ natText n, isDecimal c = true := by
  intro c hc
  unfold natText at hc
  split at hc
  · rw [List.mem_singleton] at hc
    subst hc
    decide
  · simp only [List.mem_reverse, List.mem_map] at hc
    obtain ⟨d, hd, rfl⟩ := hc
    exact isDecimal_hexDigit (Nat.digits_lt_base (by norm_num) hd)

theorem natText_ne_nil (n : Nat) : natText n ≠ [] := by
  unfold natText
  split
  · simp
  · next h => simpa using Nat.digits_ne_nil_iff_ne_zero.mpr h

theorem toNat_hexDigit {d : Nat} (h : d < 10) : (hexDigit d).toNat - 48 = d := by
  interval_cases d <;> decide

theorem readNat_natText (n : Nat) : readNat (natText n) = n := by
  unfold readNat natText
  split
  · next h => subst h; decide
  · rw [List.reverse_reverse, List.map_map]
    have hid : (Nat.digits 10 n).map ((fun c => c.toNat - 48) ∘ hexDigit) =
        (Nat.digits 10 n).map id :=
      List.map_congr_left fun d hd => toNat_hexDigit (Nat.digits_lt_base (by norm_num) hd)
    rw [hid, List.map_id, Nat.ofDigits_digits]

theorem natText_injective {m n : Nat} (h : natText m = natText n) : m = n := by
  rw [← readNat_natText m, h, readNat_natText]

/-- Only zero is written with a leading zero. -/
theorem natText_lead (n : Nat) : natText n = ['0'] ∨
    ∃ c cs, natText n = c :: cs ∧ c ≠ '0' ∧ isDecimal c = true ∧ ∀ d ∈ cs, isDecimal d = true := by
  by_cases hn : n = 0
  · left
    rw [natText, if_pos hn]
  · right
    have hdecimal := natText_isDecimal n
    rw [natText, if_neg hn] at hdecimal ⊢
    have hne : Nat.digits 10 n ≠ [] := Nat.digits_ne_nil_iff_ne_zero.mpr hn
    have hlast := Nat.getLast_digit_ne_zero 10 hn
    have hsplit := List.dropLast_append_getLast hne
    rw [← hsplit, List.map_append, List.reverse_append] at hdecimal ⊢
    simp only [List.map_cons, List.map_nil, List.reverse_singleton, List.singleton_append,
      List.forall_mem_cons] at hdecimal ⊢
    refine ⟨_, _, rfl, ?_, hdecimal.1, hdecimal.2⟩
    have hlt := Nat.digits_lt_base (by norm_num : 1 < 10) (List.getLast_mem hne)
    generalize (Nat.digits 10 n).getLast hne = d at hlast hlt
    interval_cases d
    · exact absurd rfl hlast
    all_goals decide

theorem intText_isPrintable (i : Int) : IsPrintable (intText i) := by
  cases i with
  | ofNat n => exact isPrintable_of_isDecimal (natText_isDecimal n)
  | negSucc n =>
      exact isPrintable_cons.mpr ⟨by decide, isPrintable_of_isDecimal (natText_isDecimal _)⟩

/-- What follows a number in a text does not continue it. -/
def NoDigitHead (r : List Char) : Prop := ∀ c cs, r = c :: cs → isDecimal c = false

theorem noDigitHead_nil : NoDigitHead [] := by
  intro c cs h
  cases h

theorem noDigitHead_cons {c : Char} {r : List Char} (h : isDecimal c = false) :
    NoDigitHead (c :: r) := by
  intro c' cs h'
  cases h'
  exact h

theorem takeWhile_natText_append (n : Nat) {r : List Char} (hr : NoDigitHead r) :
    (natText n ++ r).takeWhile isDecimal = natText n := by
  rw [List.takeWhile_append_of_pos (natText_isDecimal n)]
  cases r with
  | nil => simp
  | cons c cs => simp [hr c cs rfl]

/-- A decimal number is recovered from any text it begins. -/
theorem natText_append_inj {m n : Nat} {r s : List Char} (hr : NoDigitHead r)
    (hs : NoDigitHead s) (h : natText m ++ r = natText n ++ s) : m = n ∧ r = s := by
  have hmn : natText m = natText n := by
    rw [← takeWhile_natText_append m hr, h, takeWhile_natText_append n hs]
  refine ⟨natText_injective hmn, ?_⟩
  rw [hmn] at h
  exact List.append_cancel_left h

theorem intText_append_inj {i j : Int} {r s : List Char} (hr : NoDigitHead r)
    (hs : NoDigitHead s) (h : intText i ++ r = intText j ++ s) : i = j ∧ r = s := by
  have hminus : ∀ (n : Nat) (r' : List Char) (s' : List Char),
      natText n ++ r' ≠ '-' :: s' := by
    intro n r' s' heq
    cases hn : natText n with
    | nil => exact natText_ne_nil n hn
    | cons c cs =>
        rw [hn, List.cons_append, List.cons.injEq] at heq
        have hc := natText_isDecimal n c (by rw [hn]; exact List.mem_cons_self ..)
        rw [heq.1] at hc
        exact absurd hc (by decide)
  cases i with
  | ofNat m =>
      cases j with
      | ofNat n =>
          obtain ⟨rfl, rfl⟩ := natText_append_inj hr hs h
          exact ⟨rfl, rfl⟩
      | negSucc n => exact absurd h (hminus _ _ _)
  | negSucc m =>
      cases j with
      | ofNat n => exact absurd h.symm (hminus _ _ _)
      | negSucc n =>
          simp only [intText, List.cons_append, List.cons.injEq, true_and] at h
          obtain ⟨hmn, rfl⟩ := natText_append_inj hr hs h
          exact ⟨by omega, rfl⟩

/-! ### Lines -/

/-- The lines of a text, without the characters that end them. The last line may lack its end. -/
def lines : List Char → List (List Char)
  | [] => []
  | c :: cs =>
      if c = '\n' then [] :: lines cs
      else match lines cs with
        | [] => [[c]]
        | line :: rest => (c :: line) :: rest

/-- Every line with an end of its own. -/
def ofLines (ls : List (List Char)) : List Char := ls.flatMap fun line => line ++ ['\n']

theorem ofLines_concat (ls : List (List Char)) (line : List Char) :
    ofLines (ls ++ [line]) = ofLines ls ++ (line ++ ['\n']) := by
  simp [ofLines]

theorem lines_append_newline {line : List Char} (h : '\n' ∉ line) (cs : List Char) :
    lines (line ++ '\n' :: cs) = line :: lines cs := by
  induction line with
  | nil => exact if_pos rfl
  | cons c line ih =>
      rw [List.mem_cons, not_or] at h
      rw [List.cons_append, lines, if_neg (Ne.symm h.1), ih h.2]

/-- What is written line by line is read line by line. -/
theorem lines_ofLines {ls : List (List Char)} (h : ∀ line ∈ ls, '\n' ∉ line) :
    lines (ofLines ls) = ls := by
  induction ls with
  | nil => rfl
  | cons line ls ih =>
      rw [List.forall_mem_cons] at h
      have htext : ofLines (line :: ls) = line ++ '\n' :: ofLines ls := by
        rw [ofLines, List.flatMap_cons, List.append_assoc, List.singleton_append, ofLines]
      rw [htext, lines_append_newline h.1, ih h.2]

theorem IsPrintable.no_newline {cs : List Char} (h : IsPrintable cs) : '\n' ∉ cs := by
  intro hmem
  exact absurd (h _ hmem).1 (by decide)

end TextCodec

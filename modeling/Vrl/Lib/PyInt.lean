import Mathlib.Data.List.TakeWhile
import Vrl.Lib.Text

/-!
# Vrl.Lib.PyInt

The texts that Python's `int` accepts, and the numbers it reads.

It is a number format for people: white space around it, a sign, a prefix `0x`,
single underscores between digits, capital letters and the decimal digits of
every script are all allowed. `uuid.UUID` reads its digits with it.
-/

namespace PyInt

open TextCodec

/-! ### Characters -/

/-- White space in the sense of C's `isspace`. -/
def isCSpace (c : Char) : Bool := c = ' ' || (9 ≤ c.toNat && c.toNat ≤ 13)

/-- White space outside ASCII. -/
def isUnicodeSpace (c : Char) : Bool :=
  [0x85, 0xa0, 0x1680, 0x2028, 0x2029, 0x202f, 0x205f, 0x3000].contains c.toNat ||
    (0x2000 ≤ c.toNat && c.toNat ≤ 0x200a)

/-- The code points of the zeros of Unicode's decimal digit blocks outside ASCII. -/
def digitZeros : List Nat :=
  [0x660, 0x6f0, 0x7c0, 0x966, 0x9e6, 0xa66, 0xae6, 0xb66, 0xbe6, 0xc66, 0xce6, 0xd66, 0xde6,
    0xe50, 0xed0, 0xf20, 0x1040, 0x1090, 0x17e0, 0x1810, 0x1946, 0x19d0, 0x1a80, 0x1a90, 0x1b50,
    0x1bb0, 0x1c40, 0x1c50, 0xa620, 0xa8d0, 0xa900, 0xa9d0, 0xa9f0, 0xaa50, 0xabf0, 0xff10,
    0x104a0, 0x10d30, 0x11066, 0x110f0, 0x11136, 0x111d0, 0x112f0, 0x11450, 0x114d0, 0x11650,
    0x116c0, 0x11730, 0x118e0, 0x11950, 0x11c50, 0x11d50, 0x11da0, 0x16a60, 0x16ac0, 0x16b50,
    0x1d7ce, 0x1d7d8, 0x1d7e2, 0x1d7ec, 0x1d7f6, 0x1e140, 0x1e2f0, 0x1e950, 0x1fbf0]

/-- A character as `int` reads it: a digit of any script is the ASCII digit of its
value, any white space is a space, anything else beyond ASCII is no digit. -/
def asciiDigit (c : Char) : Char :=
  if c.toNat < 127 then c
  else if isUnicodeSpace c then ' '
  else
    match digitZeros.find? fun z => z ≤ c.toNat && c.toNat ≤ z + 9 with
    | some z => hexDigit (c.toNat - z)
    | none => '?'

/-- Text of ASCII characters is read as it is. -/
def asciiDigits (cs : List Char) : List Char :=
  if cs.all isAsciiChar then cs else cs.map asciiDigit

/-! ### The reader -/

/-- Reads digits with single underscores between them, and returns what follows.
There is none after an underscore that no digit follows. -/
def digitRun : Bool → List Char → Option (List Char)
  | afterUnderscore, [] => if afterUnderscore then none else some []
  | afterUnderscore, c :: cs =>
      if c = '_' then if afterUnderscore then none else digitRun true cs
      else if isHexAnyCase c then digitRun false cs
      else if afterUnderscore then none
      else some (c :: cs)

/-- The text without its sign. -/
def dropSign : List Char → List Char
  | '+' :: cs => cs
  | '-' :: cs => cs
  | cs => cs

/-- The text without the prefix `0x` and the underscore that may follow it. -/
def dropPrefix : List Char → List Char
  | '0' :: x :: cs =>
      if x = 'x' ∨ x = 'X' then
        match cs with
        | '_' :: cs => cs
        | cs => cs
      else '0' :: x :: cs
  | cs => cs

/-- Some digits, and nothing but white space after them. -/
def isDigitsThenSpace (cs : List Char) : Bool :=
  match cs with
  | [] => false
  | c :: _ =>
      isHexAnyCase c &&
        match digitRun false cs with
        | some rest => rest.all isCSpace
        | none => false

/-- `int(text, 16)` succeeds. -/
def parsesBase16 (cs : List Char) : Bool :=
  isDigitsThenSpace (dropPrefix (dropSign ((asciiDigits cs).dropWhile isCSpace)))

/-! ### Values -/

/-- The value of a hexadecimal digit in either case. -/
def hexValue (c : Char) : Nat := (hexVal c.toLower).getD 0

/-- The digits of a number: what is left of its text without underscores and the white
space at the end. -/
def digitsOf (cs : List Char) : List Char :=
  (cs.takeWhile fun c => !isCSpace c).filter (· ≠ '_')

/-- The text is negative. -/
def isNegative (cs : List Char) : Bool := cs.head? == some '-'

/-- A value with a sign. -/
def withSign (negative : Bool) (n : Nat) : Int := if negative then -(n : Int) else n

/-- `int(text, 16)`. -/
def readBase16 (cs : List Char) : Option Int :=
  let text := (asciiDigits cs).dropWhile isCSpace
  let digits := digitsOf (dropPrefix (dropSign text))
  if parsesBase16 cs then
    some (withSign (isNegative text) (digits.foldl (fun n c => 16 * n + hexValue c) 0))
  else none

/-- `int(text)`. -/
def readBase10 (cs : List Char) : Option Int :=
  let text := (asciiDigits cs).dropWhile isCSpace
  let digits := digitsOf (dropSign text)
  if isDigitsThenSpace (dropSign text) && digits.all isDecimal then
    some (withSign (isNegative text) (readNat digits))
  else none

/-! ### UUIDs -/

/-- `text.replace(pattern, "")` for a non-empty pattern; `skip` characters of an
occurrence are still to be dropped. -/
def removeAll (pattern : List Char) : Nat → List Char → List Char
  | _, [] => []
  | skip + 1, _ :: cs => removeAll pattern skip cs
  | 0, c :: cs =>
      if pattern.isPrefixOf (c :: cs) then removeAll pattern (pattern.length - 1) cs
      else c :: removeAll pattern 0 cs

/-- `text.strip("{}")`. -/
def stripBraces (cs : List Char) : List Char :=
  let isBrace := fun c => c = '{' || c = '}'
  ((cs.dropWhile isBrace).reverse.dropWhile isBrace).reverse

/-- `uuid.UUID(text)` succeeds. -/
def parsesUuid (text : String) : Bool :=
  let hex := removeAll ['u', 'u', 'i', 'd', ':'] 0 (removeAll ['u', 'r', 'n', ':'] 0 text.toList)
  let hex := removeAll ['-'] 0 (stripBraces hex)
  hex.length = 32 && parsesBase16 hex

/-! ### Plain digits -/

theorem isHexAnyCase_bounds {c : Char} (h : isHexAnyCase c = true) :
    48 ≤ c.toNat ∧ c.toNat ≤ 102 := by
  simp only [isHexAnyCase, isLowerHex, Bool.or_eq_true, Bool.and_eq_true, decide_eq_true_eq,
    Char.le_def, UInt32.le_iff_toNat_le] at h
  have h0 : '0'.val.toNat = 48 := rfl
  have h9 : '9'.val.toNat = 57 := rfl
  have ha : 'a'.val.toNat = 97 := rfl
  have hf : 'f'.val.toNat = 102 := rfl
  have hA : 'A'.val.toNat = 65 := rfl
  have hF : 'F'.val.toNat = 70 := rfl
  simp only [Char.toNat]
  omega

theorem isHexAnyCase_of_isLowerHex {c : Char} (h : isLowerHex c = true) :
    isHexAnyCase c = true := by
  rw [isHexAnyCase, h, Bool.true_or]

theorem digitRun_of_isHexAnyCase {cs : List Char} (h : ∀ c ∈ cs, isHexAnyCase c = true) :
    digitRun false cs = some [] := by
  induction cs with
  | nil => rfl
  | cons c cs ih =>
      obtain ⟨hc, hcs⟩ := List.forall_mem_cons.mp h
      have hne : c ≠ '_' := by
        rintro rfl
        exact absurd hc (by decide)
      rw [digitRun, if_neg hne, if_pos hc]
      exact ih hcs

theorem isCSpace_of_isHexAnyCase {c : Char} (h : isHexAnyCase c = true) : isCSpace c = false := by
  have hge := (isHexAnyCase_bounds h).1
  have hne : c ≠ ' ' := by
    rintro rfl
    exact absurd h (by decide)
  simp only [isCSpace, Bool.or_eq_false_iff, decide_eq_false_iff_not, Bool.and_eq_false_iff]
  exact ⟨hne, Or.inr (by omega)⟩

theorem ne_of_isHexAnyCase {c d : Char} (hc : isHexAnyCase c = true)
    (hd : isHexAnyCase d = false) : c ≠ d := by
  rintro rfl
  rw [hc] at hd
  cases hd

section HexDigits

variable {cs : List Char} (h : ∀ c ∈ cs, isHexAnyCase c = true)
include h

/-- There is nothing to skip before the digits. -/
theorem dropWhile_asciiDigits_of_isHexAnyCase : (asciiDigits cs).dropWhile isCSpace = cs := by
  have hascii : asciiDigits cs = cs := by
    refine if_pos (List.all_eq_true.mpr fun c hc => ?_)
    have hbound := (isHexAnyCase_bounds (h c hc)).2
    rw [isAsciiChar, decide_eq_true_eq]
    omega
  rw [hascii]
  cases cs with
  | nil => rfl
  | cons c cs =>
      refine List.dropWhile_cons_of_neg ?_
      rw [isCSpace_of_isHexAnyCase (h c (List.mem_cons_self ..))]
      exact Bool.false_ne_true

theorem dropSign_of_isHexAnyCase : dropSign cs = cs := by
  unfold dropSign
  split
  · next cs => exact absurd rfl (ne_of_isHexAnyCase (h '+' (List.mem_cons_self ..)) (by decide))
  · next cs => exact absurd rfl (ne_of_isHexAnyCase (h '-' (List.mem_cons_self ..)) (by decide))
  · rfl

theorem dropPrefix_of_isHexAnyCase : dropPrefix cs = cs := by
  unfold dropPrefix
  split
  · next x xs =>
      have hx : isHexAnyCase x = true := h x (List.mem_cons_of_mem _ (List.mem_cons_self ..))
      rw [if_neg]
      rintro (rfl | rfl)
      · exact absurd hx (by decide)
      · exact absurd hx (by decide)
  · rfl

theorem digitsOf_of_isHexAnyCase : digitsOf cs = cs := by
  have hspace : cs.takeWhile (fun c => !isCSpace c) = cs := by
    refine List.takeWhile_eq_self_iff.mpr ?_
    intro c hc
    rw [isCSpace_of_isHexAnyCase (h c hc)]
    rfl
  rw [digitsOf, hspace, List.filter_eq_self]
  intro c hc
  exact decide_eq_true (ne_of_isHexAnyCase (h c hc) (by decide))

theorem isNegative_of_isHexAnyCase : isNegative cs = false := by
  cases cs with
  | nil => rfl
  | cons c cs =>
      rw [isNegative, List.head?_cons, beq_eq_false_iff_ne]
      intro heq
      exact ne_of_isHexAnyCase (h c (List.mem_cons_self ..)) (by decide) (Option.some.inj heq)

/-- A non-empty text of hexadecimal digits is a number. -/
theorem parsesBase16_of_isHexAnyCase (hne : cs ≠ []) : parsesBase16 cs = true := by
  rw [parsesBase16, dropWhile_asciiDigits_of_isHexAnyCase h, dropSign_of_isHexAnyCase h,
    dropPrefix_of_isHexAnyCase h]
  cases cs with
  | nil => exact absurd rfl hne
  | cons c cs =>
      rw [isDigitsThenSpace, digitRun_of_isHexAnyCase h]
      simp [h c (List.mem_cons_self ..)]

theorem readBase16_of_isHexAnyCase (hne : cs ≠ []) :
    readBase16 cs = some ((cs.foldl (fun n c => 16 * n + hexValue c) 0 : Nat) : Int) := by
  rw [readBase16, if_pos (parsesBase16_of_isHexAnyCase h hne),
    dropWhile_asciiDigits_of_isHexAnyCase h, isNegative_of_isHexAnyCase h,
    dropSign_of_isHexAnyCase h, dropPrefix_of_isHexAnyCase h, digitsOf_of_isHexAnyCase h]
  rfl

end HexDigits

theorem hexValue_lt (c : Char) : hexValue c < 16 := by
  have h0 : '0'.val.toNat = 48 := rfl
  have h9 : '9'.val.toNat = 57 := rfl
  have ha : 'a'.val.toNat = 97 := rfl
  have hf : 'f'.val.toNat = 102 := rfl
  simp only [hexValue, hexVal, Char.le_def, UInt32.le_iff_toNat_le, Char.toNat]
  split
  · rw [Option.getD_some]
    omega
  · split
    · rw [Option.getD_some]
      omega
    · decide

/-- The number that digits make up is bounded by their count. -/
theorem foldl_hexValue_lt (cs : List Char) :
    cs.foldl (fun n c => 16 * n + hexValue c) 0 < 16 ^ cs.length := by
  induction cs using List.reverseRecOn with
  | nil => exact Nat.one_pos
  | append_singleton cs c ih =>
      have hc := hexValue_lt c
      rw [List.length_append, List.length_singleton, List.foldl_append, List.foldl_cons,
        List.foldl_nil, pow_succ]
      omega

theorem parsesBase16_of_isLowerHex {cs : List Char} (hne : cs ≠ [])
    (h : ∀ c ∈ cs, isLowerHex c = true) : parsesBase16 cs = true :=
  parsesBase16_of_isHexAnyCase (fun c hc => isHexAnyCase_of_isLowerHex (h c hc)) hne

theorem readBase16_of_isLowerHex {cs : List Char} (hne : cs ≠ [])
    (h : ∀ c ∈ cs, isLowerHex c = true) :
    readBase16 cs = some ((cs.foldl (fun n c => 16 * n + hexValue c) 0 : Nat) : Int) :=
  readBase16_of_isHexAnyCase (fun c hc => isHexAnyCase_of_isLowerHex (h c hc)) hne

theorem hexValue_hexDigit {d : Nat} (h : d < 16) : hexValue (hexDigit d) = d := by
  rw [hexValue, hexVal_toLower_hexDigit h, Option.getD_some]

/-- A text of lower-case digits is the fixed-width text of the number read from it. -/
theorem hexFixed_foldl {cs : List Char} (h : ∀ c ∈ cs, isLowerHex c = true) :
    hexFixed cs.length (cs.foldl (fun n c => 16 * n + hexValue c) 0) = cs ∧
      cs.foldl (fun n c => 16 * n + hexValue c) 0 < 16 ^ cs.length := by
  induction cs using List.reverseRecOn with
  | nil => exact ⟨rfl, Nat.one_pos⟩
  | append_singleton cs c ih =>
      rw [List.forall_mem_append] at h
      obtain ⟨hfixed, hlt⟩ := ih h.1
      obtain ⟨d, hd, rfl⟩ := exists_hexDigit_of_isLowerHex (h.2 c (List.mem_singleton.mpr rfl))
      have hdiv : ∀ n, (16 * n + d) / 16 = n := by omega
      have hmod : ∀ n, (16 * n + d) % 16 = d := by omega
      rw [List.length_append, List.length_singleton, List.foldl_append, List.foldl_cons,
        List.foldl_nil, hexFixed, hexValue_hexDigit hd, hdiv, hmod, hfixed, pow_succ]
      exact ⟨rfl, by omega⟩

/-- Texts of lower-case digits of one width are known from their numbers. -/
theorem eq_of_readBase16_eq {cs ds : List Char} (hcs : ∀ c ∈ cs, isLowerHex c = true)
    (hds : ∀ c ∈ ds, isLowerHex c = true) (hlength : cs.length = ds.length) (hne : cs ≠ [])
    (h : readBase16 cs = readBase16 ds) : cs = ds := by
  have hne' : ds ≠ [] := by
    intro hnil
    rw [hnil, List.length_nil, List.length_eq_zero_iff] at hlength
    exact hne hlength
  rw [readBase16_of_isLowerHex hne hcs, readBase16_of_isLowerHex hne' hds, Option.some.injEq,
    Nat.cast_inj] at h
  rw [← (hexFixed_foldl hcs).1, h, hlength, (hexFixed_foldl hds).1]

example : readBase16 "0x_Ff".toList = some 255 := by decide +kernel

example : parsesBase16 "1__2".toList = false := by decide +kernel

end PyInt

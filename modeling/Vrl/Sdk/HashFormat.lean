import Vrl.Lib.PyNumeral
import Vrl.Sdk.Go.Verifier
import Vrl.Sdk.VerdictAgreement

/-!
# Vrl.Sdk.HashFormat

What the three SDKs take for a hash: 64 hexadecimal digits in lower case, they say.

The Python SDK asks `int`, which reads more than digits; the TypeScript SDK looks at no
digit at all; the Go SDK takes capitals. Each agrees with the format but for strings of one
kind of its own (**`hashFormat_iff`**).
-/

open TextCodec

namespace Vrl.Sdk

/-- `_is_valid_hex_hash` of `identity.py`, which has the body of the verifier's. -/
def Python.Identity.isValidHexHash (value : String) : Bool := Python.isValidHexHash value

/-! ### Strings of each kind -/

/-- 64 characters and no capital among them, which `int` reads to the base 16, though they
are not all digits: white space, a sign, a prefix, underscores or digits of other scripts. -/
def IsLenientNumeral (value : String) : Prop :=
  value.toList.length = 64 ∧ (∀ c ∈ value.toList, ¬ ('A' ≤ c ∧ c ≤ 'Z')) ∧
    (∃ c ∈ value.toList, isLowerHex c = false) ∧
      ∃ n : PyInt.Numeral, n.text = PyInt.asciiDigits value.toList

/-- 64 code units that `toLowerCase` leaves alone, and that are not all digits. -/
def IsLowerCaseText (unicode : UnicodeData) (value : String) : Prop :=
  (utf16 value).length = 64 ∧ unicode.lower value = value ∧
    ∃ c ∈ value.toList, isLowerHex c = false

/-- 64 hexadecimal digits with a capital among them. -/
def HasCapitalDigit (value : String) : Prop :=
  value.toList.length = 64 ∧ (∀ c ∈ value.toList, isHexAnyCase c = true) ∧
    ∃ c ∈ value.toList, isLowerHex c = false

/-! ### Digits -/

theorem isHexHash_iff {value : String} : Python.isHexHash value = true ↔
    value.toList.length = 64 ∧ ∀ c ∈ value.toList, isLowerHex c = true := by
  rw [Python.isHexHash, Bool.and_eq_true, decide_eq_true_eq, List.all_eq_true]

/-- What has a character that is no digit is no hash. -/
theorem isHexHash_ne_of_mem {value : String}
    (h : ∃ c ∈ value.toList, isLowerHex c = false) : ¬ Python.isHexHash value = true := by
  obtain ⟨c, hc, hdigit⟩ := h
  intro hhash
  rw [(isHexHash_iff.mp hhash).2 c hc] at hdigit
  cases hdigit

theorem all_or_exists (cs : List Char) :
    (∀ c ∈ cs, isLowerHex c = true) ∨ ∃ c ∈ cs, isLowerHex c = false := by
  by_cases h : ∀ c ∈ cs, isLowerHex c = true
  · exact .inl h
  · simp only [not_forall, Bool.not_eq_true] at h
    obtain ⟨c, hc, hdigit⟩ := h
    exact .inr ⟨c, hc, hdigit⟩

/-- Texts in ASCII have as many bytes as characters. -/
theorem utf8ByteSize_of_isAscii {cs : List Char} (h : IsAscii cs) :
    (String.ofList cs).utf8ByteSize = cs.length := by
  induction cs with
  | nil => rfl
  | cons c cs ih =>
      obtain ⟨hc, hcs⟩ := isAscii_cons.mp h
      have hsplit : String.ofList (c :: cs) = String.singleton c ++ String.ofList cs := by
        rw [← String.toList_inj]
        simp
      have hsize : c.utf8Size = 1 := by
        rw [isAsciiChar, decide_eq_true_eq] at hc
        rw [Char.utf8Size_eq_one_iff, UInt32.le_iff_toNat_le]
        exact Nat.le_of_lt_succ hc
      rw [hsplit, String.utf8ByteSize_append, String.utf8ByteSize_singleton, ih hcs, hsize,
        List.length_cons, Nat.add_comm]

theorem isAscii_of_isHexAnyCase {cs : List Char} (h : ∀ c ∈ cs, isHexAnyCase c = true) :
    IsAscii cs := by
  intro c hc
  have hbound := (PyInt.isHexAnyCase_bounds (h c hc)).2
  rw [isAsciiChar, decide_eq_true_eq]
  omega

/-! ### What each SDK accepts -/

/-- Python takes the format, and lenient numerals. -/
theorem python_isValidHexHash_iff (value : String) : Python.isValidHexHash value = true ↔
    Python.isHexHash value = true ∨ IsLenientNumeral value := by
  constructor
  · intro h
    rw [Python.isValidHexHash, Bool.and_eq_true, Bool.and_eq_true, decide_eq_true_eq,
      List.all_eq_true, PyInt.parsesBase16_iff] at h
    obtain ⟨⟨hlength, hnumeral⟩, hlower⟩ := h
    rcases all_or_exists value.toList with hall | hother
    · exact .inl (isHexHash_iff.mpr ⟨hlength, hall⟩)
    · refine .inr ⟨hlength, fun c hc hcapital => ?_, hother, hnumeral⟩
      have hc' := hlower c hc
      simp only [hcapital.1, hcapital.2, decide_true, Bool.and_true, Bool.not_true] at hc'
      cases hc'
  · rintro (h | ⟨hlength, hlower, -, hnumeral⟩)
    · exact Python.isValidHexHash_of_isHexHash h
    · rw [Python.isValidHexHash, Bool.and_eq_true, Bool.and_eq_true, decide_eq_true_eq,
        List.all_eq_true, PyInt.parsesBase16_iff]
      refine ⟨⟨hlength, hnumeral⟩, fun c hc => ?_⟩
      rw [Bool.not_eq_true', Bool.and_eq_false_iff, decide_eq_false_iff_not,
        decide_eq_false_iff_not]
      exact not_and_or.mp (hlower c hc)

/-- TypeScript takes the format, and any other text in lower case of that length. -/
theorem typeScript_isValidHexHash_iff (unicode : UnicodeData) (value : String) :
    TypeScript.isValidHexHash unicode value = true ↔
      Python.isHexHash value = true ∨ IsLowerCaseText unicode value := by
  constructor
  · intro h
    rw [TypeScript.isValidHexHash, Bool.and_eq_true, decide_eq_true_eq, decide_eq_true_eq] at h
    obtain ⟨hlength, hlower⟩ := h
    rcases all_or_exists value.toList with hall | hother
    · have hascii : IsAscii value.toList := fun c hc => isAsciiChar_of_isLowerHex (hall c hc)
      rw [utf16_of_isAscii hascii, List.length_map] at hlength
      exact .inl (isHexHash_iff.mpr ⟨hlength, hall⟩)
    · exact .inr ⟨hlength, hlower.symm, hother⟩
  · rintro (h | ⟨hlength, hlower, -⟩)
    · exact isValidHexHash_of_isHexHash unicode h
    · rw [TypeScript.isValidHexHash, Bool.and_eq_true, decide_eq_true_eq, decide_eq_true_eq]
      exact ⟨hlength, hlower.symm⟩

/-- Go takes the format in either case. -/
theorem go_isValidSHA256_iff (value : String) : Go.isValidSHA256 value = true ↔
    Python.isHexHash value = true ∨ HasCapitalDigit value := by
  have hsize : (∀ c ∈ value.toList, isHexAnyCase c = true) →
      value.utf8ByteSize = value.toList.length := by
    intro hall
    conv_lhs => rw [← String.ofList_toList (s := value)]
    exact utf8ByteSize_of_isAscii (isAscii_of_isHexAnyCase hall)
  have hgo : Go.isValidSHA256 value = true ↔
      value.toList.length = 64 ∧ ∀ c ∈ value.toList, isHexAnyCase c = true := by
    rw [Go.isValidSHA256, Go.isValidHex, Bool.and_eq_true, Bool.and_eq_true, decide_eq_true_eq,
      decide_eq_true_eq, List.all_eq_true]
    constructor
    · rintro ⟨hlength, -, hall⟩
      exact ⟨(hsize hall).symm.trans hlength, hall⟩
    · rintro ⟨hlength, hall⟩
      refine ⟨(hsize hall).trans hlength, ?_, hall⟩
      rintro rfl
      cases hlength
  rw [hgo]
  constructor
  · rintro ⟨hlength, hall⟩
    rcases all_or_exists value.toList with hlower | hother
    · exact .inl (isHexHash_iff.mpr ⟨hlength, hlower⟩)
    · exact .inr ⟨hlength, hall, hother⟩
  · rintro (h | ⟨hlength, hall, -⟩)
    · obtain ⟨hlength, hlower⟩ := isHexHash_iff.mp h
      exact ⟨hlength, fun c hc => PyInt.isHexAnyCase_of_isLowerHex (hlower c hc)⟩
    · exact ⟨hlength, hall⟩

/-! ### Agreement on the format -/

/-- A predicate that takes the format and a kind of strings outside it is the format exactly
off that kind. -/
theorem accepts_format_iff {accepts : Bool} {value : String} {Kind : Prop}
    (haccepts : accepts = true ↔ Python.isHexHash value = true ∨ Kind)
    (hkind : Kind → ¬ Python.isHexHash value = true) :
    (accepts = true ↔ Python.isHexHash value = true) ↔ ¬ Kind := by
  rw [haccepts]
  exact ⟨fun h hk => hkind hk (h.mp (.inr hk)), fun h => or_iff_left h⟩

/-- **Every predicate takes a string for a hash exactly if it is 64 digits in lower case,
unless the string is of one of the three kinds.** -/
theorem hashFormat_iff (unicode : UnicodeData) (value : String) :
    ((Python.isValidHexHash value = true ↔ Python.isHexHash value = true) ∧
      (Python.Identity.isValidHexHash value = true ↔ Python.isHexHash value = true) ∧
      (TypeScript.isValidHexHash unicode value = true ↔ Python.isHexHash value = true) ∧
      (Go.isValidSHA256 value = true ↔ Python.isHexHash value = true)) ↔
      ¬ IsLenientNumeral value ∧ ¬ IsLowerCaseText unicode value ∧ ¬ HasCapitalDigit value := by
  have hpython := accepts_format_iff (python_isValidHexHash_iff value)
    fun h => isHexHash_ne_of_mem h.2.2.1
  have htypeScript := accepts_format_iff (typeScript_isValidHexHash_iff unicode value)
    fun h => isHexHash_ne_of_mem h.2.2
  have hgo := accepts_format_iff (go_isValidSHA256_iff value) fun h => isHexHash_ne_of_mem h.2.2
  rw [Python.Identity.isValidHexHash, hpython, htypeScript, hgo]
  exact ⟨fun h => h.2, fun h => ⟨h.1, h⟩⟩

/-- A prefix and 62 digits, 64 hyphens, and 64 capitals. -/
theorem hashFormat_of_other_texts :
    (Python.isValidHexHash (String.ofList ('0' :: 'x' :: List.replicate 62 '0')) = true ∧
      Python.Identity.isValidHexHash
        (String.ofList ('0' :: 'x' :: List.replicate 62 '0')) = true ∧
      Python.isHexHash (String.ofList ('0' :: 'x' :: List.replicate 62 '0')) = false) ∧
    (TypeScript.isValidHexHash lengthStd.toUnicodeData
        (String.ofList (List.replicate 64 '-')) = true ∧
      Python.isHexHash (String.ofList (List.replicate 64 '-')) = false) ∧
    (Go.isValidSHA256 (String.ofList (List.replicate 64 'A')) = true ∧
      Python.isHexHash (String.ofList (List.replicate 64 'A')) = false) := by
  decide +kernel

end Vrl.Sdk

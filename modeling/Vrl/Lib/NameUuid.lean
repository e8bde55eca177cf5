import Vrl.Lib.Python

/-!
# Vrl.Lib.NameUuid

Name-based UUIDs of version 5 (RFC 4122), and the way the digits of any UUID are
written.

Two of the 32 digits are not the digest's: the version, which is 5, and the variant,
which is 8, 9, a or b.
-/

open TextCodec

/-! ### Digits in groups -/

/-- Digits in groups of 8, 4, 4, 4 and 12, with hyphens between the groups. -/
def hyphenated (digits : List Char) : List Char :=
  digits.take 8 ++ '-' :: ((digits.drop 8).take 4 ++ '-' :: ((digits.drop 12).take 4 ++
    '-' :: ((digits.drop 16).take 4 ++ '-' :: (digits.drop 20).take 12)))

/-- Only 32 digits are written. -/
theorem hyphenated_take (digits : List Char) : hyphenated (digits.take 32) = hyphenated digits := by
  simp [hyphenated, List.take_take, List.drop_take]

/-- The digits are what is left once the hyphens are removed. -/
theorem filter_hyphenated {digits : List Char} (h : ∀ c ∈ digits, isLowerHex c = true) :
    (hyphenated digits).filter (· != '-') = digits.take 32 := by
  have hkeep : ∀ i j, ((digits.drop i).take j).filter (· != '-') = (digits.drop i).take j := by
    intro i j
    refine List.filter_eq_self.mpr fun c hc => ?_
    rw [bne_iff_ne]
    rintro rfl
    exact absurd (h _ (List.mem_of_mem_drop (List.mem_of_mem_take hc))) (by decide)
  have h8 := hkeep 0 8
  rw [List.drop_zero] at h8
  simp only [hyphenated, List.filter_append, List.filter_cons, bne_self_eq_false, h8, hkeep,
    Bool.false_eq_true, if_false]
  have hsplit : ∀ i j k, (digits.drop i).take j ++ (digits.drop (i + j)).take k =
      (digits.drop i).take (j + k) := by
    intro i j k
    rw [List.take_add, List.drop_drop]
  rw [hsplit 16 4 12, hsplit 12 4 16, hsplit 8 4 20]
  have hwhole := hsplit 0 8 24
  rwa [List.drop_zero] at hwhole

/-- Two texts in groups are the same exactly if their 32 digits are. -/
theorem hyphenated_inj {digits digits' : List Char} (h : ∀ c ∈ digits, isLowerHex c = true)
    (h' : ∀ c ∈ digits', isLowerHex c = true) :
    hyphenated digits = hyphenated digits' ↔ digits.take 32 = digits'.take 32 := by
  constructor
  · intro heq
    rw [← filter_hyphenated h, ← filter_hyphenated h', heq]
  · intro heq
    rw [← hyphenated_take digits, ← hyphenated_take digits', heq]

namespace Uuid

@[simp] theorem hex_length (u : Uuid) : u.hex.length = 32 := hexFixed_length 32 _

theorem hex_isLowerHex (u : Uuid) : ∀ c ∈ u.hex, isLowerHex c = true :=
  hexFixed_isLowerHex 32 _

theorem text_eq_hyphenated (u : Uuid) : u.text = hyphenated u.hex := by
  have hlast : (u.hex.drop 20).take 12 = u.hex.drop 20 := List.take_of_length_le (by simp)
  rw [text, hyphenated, hlast]

end Uuid

/-! ### Version 5 -/

/-- SHA-1: 160 bits for some bytes, as a number. -/
structure Sha1 where
  digest : List UInt8 → Fin (2 ^ 160)

/-- The 16 bytes of a UUID. -/
def Uuid.bytes (u : Uuid) : List UInt8 :=
  (List.range 16).map fun i => UInt8.ofNat (u.value / 256 ^ (15 - i))

/-- 128 bits with the variant of RFC 4122 and the version 5 set. -/
def stampVersion5 (n : Nat) : Nat :=
  let n := n / 2 ^ 64 * 2 ^ 64 + 2 * 2 ^ 62 + n % 2 ^ 62
  n / 2 ^ 80 * 2 ^ 80 + 5 * 2 ^ 76 + n % 2 ^ 76

theorem stampVersion5_lt {n : Nat} (h : n < 2 ^ 128) : stampVersion5 n < 16 ^ 32 := by
  simp only [stampVersion5]
  omega

/-- `uuid.uuid5`: the first 16 bytes of a SHA-1 over the name space and the name. -/
def uuidVersion5 (sha1 : Sha1) (nameSpace : Uuid) (name : String) : Uuid :=
  let digest := sha1.digest (nameSpace.bytes ++ name.toUTF8.data.toList)
  ⟨⟨stampVersion5 (digest / 2 ^ 32), stampVersion5_lt (by omega)⟩⟩

/-- A digit of a number. -/
theorem hexFixed_getElem? (w n i : Nat) (h : i < w) :
    (hexFixed w n)[i]? = some (hexDigit (n / 16 ^ (w - 1 - i) % 16)) := by
  induction w generalizing n with
  | zero => omega
  | succ w ih =>
      rw [hexFixed]
      by_cases hi : i < w
      · rw [List.getElem?_append_left (by simpa using hi), ih _ hi, Nat.div_div_eq_div_mul]
        have hexp : w + 1 - 1 - i = (w - 1 - i) + 1 := by omega
        rw [hexp, pow_succ, Nat.mul_comm]
      · obtain rfl : i = w := by omega
        rw [List.getElem?_append_right (by simp), hexFixed_length]
        simp

/-- The version is the 13th digit. -/
theorem uuidVersion5_version (sha1 : Sha1) (nameSpace : Uuid) (name : String) :
    (uuidVersion5 sha1 nameSpace name).hex[12]? = some '5' := by
  rw [Uuid.hex, hexFixed_getElem? _ _ _ (by decide)]
  simp only [uuidVersion5, stampVersion5]
  generalize (sha1.digest (nameSpace.bytes ++ name.toUTF8.data.toList) : Nat) / 2 ^ 32 = n
  have hdigit : (((n / 2 ^ 64 * 2 ^ 64 + 2 * 2 ^ 62 + n % 2 ^ 62) / 2 ^ 80 * 2 ^ 80 + 5 * 2 ^ 76 +
      (n / 2 ^ 64 * 2 ^ 64 + 2 * 2 ^ 62 + n % 2 ^ 62) % 2 ^ 76) / 16 ^ (32 - 1 - 12)) % 16 = 5 := by
    omega
  rw [hdigit]
  rfl

import Mathlib.Algebra.Order.Group.Int
import Mathlib.Data.Nat.Digits.Defs
import Mathlib.Data.Nat.Log
import Mathlib.Tactic.Ring

/-!
# Vrl.Lib.Binary64

Integers as 64-bit floating-point numbers hold them, and the shortest decimals that are
read back as such a number.

An integer with more than 53 bits is rounded to a multiple of a power of two
(`Binary64.nearest`). What is written for a number is read back as that number
(**`Binary64.nearest_shortest`**), and the integers up to `2 ^ 53` are kept as they are.
-/

namespace Binary64

/-! ### Rounding -/

/-- The distance between neighbours at a number: 53 bits are kept. -/
def spacing (n : Nat) : Nat := 2 ^ (Nat.log2 n - 52)

/-- A number rounded to 53 bits, to the even neighbour if it is in the middle. -/
def roundNat (n : Nat) : Nat :=
  let unit := spacing n
  if 2 * (n % unit) < unit ∨ (2 * (n % unit) = unit ∧ n / unit % 2 = 0) then n / unit * unit
  else (n / unit + 1) * unit

/-- A function of magnitudes, applied to a number with a sign. -/
def onMagnitude (f : Nat → Nat) (i : Int) : Int := i.sign * f i.natAbs

/-- An integer rounded to the nearest number of the format. -/
def nearest : Int → Int := onMagnitude roundNat

theorem onMagnitude_onMagnitude {f g : Nat → Nat} (hf : f 0 = 0) (i : Int) :
    onMagnitude f (onMagnitude g i) = onMagnitude (f ∘ g) i := by
  rcases eq_or_ne i 0 with rfl | hne
  · simp [onMagnitude]
  · rw [onMagnitude, onMagnitude, onMagnitude, Int.natAbs_mul, Int.natAbs_sign_of_ne_zero hne,
      one_mul, Int.natAbs_natCast, Int.sign_mul, Int.sign_sign, mul_assoc, Function.comp_apply]
    rcases eq_or_ne (g i.natAbs) 0 with hzero | hg
    · rw [hzero, hf, Nat.cast_zero, mul_zero]
    · rw [Int.sign_eq_one_of_pos (Int.natCast_pos.mpr (Nat.pos_of_ne_zero hg)), one_mul]

theorem spacing_pos (n : Nat) : 0 < spacing n := Nat.two_pow_pos _

/-- The multiples of the spacing are kept. -/
theorem roundNat_of_dvd {n : Nat} (h : spacing n ∣ n) : roundNat n = n := by
  rw [roundNat, Nat.mod_eq_zero_of_dvd h]
  exact (if_pos (Or.inl (spacing_pos n))).trans (Nat.div_mul_cancel h)

/-- A number of at most 53 bits times a power of two is a multiple of the spacing. -/
theorem spacing_dvd {m : Nat} (h : m ≤ 2 ^ 53) (k : Nat) : spacing (m * 2 ^ k) ∣ m * 2 ^ k := by
  rcases Nat.eq_zero_or_pos m with rfl | hm
  · rw [Nat.zero_mul]
    exact dvd_zero _
  · rcases Nat.lt_or_ge m (2 ^ 53) with hlt | hge
    · have hbits : m * 2 ^ k < 2 ^ (53 + k) := by
        rw [pow_add]
        exact Nat.mul_lt_mul_of_pos_right hlt (Nat.two_pow_pos k)
      have hlog := (Nat.log2_lt (Nat.mul_pos hm (Nat.two_pow_pos k)).ne').mpr hbits
      exact dvd_mul_of_dvd_right (pow_dvd_pow 2 (by omega)) m
    · obtain rfl : m = 2 ^ 53 := le_antisymm h hge
      rw [← pow_add, spacing, Nat.log2_two_pow]
      exact pow_dvd_pow 2 (by omega)

/-- What is rounded to has at most 53 bits. -/
theorem exists_roundNat_eq (n : Nat) : ∃ m k, m ≤ 2 ^ 53 ∧ roundNat n = m * 2 ^ k := by
  have hquotient : n / spacing n < 2 ^ 53 := by
    have hlog : n < 2 ^ (Nat.log2 n + 1) := Nat.lt_log2_self
    rw [Nat.div_lt_iff_lt_mul (spacing_pos n), spacing, ← pow_add]
    exact lt_of_lt_of_le hlog (Nat.pow_le_pow_right (by norm_num) (by omega))
  rw [roundNat]
  split_ifs
  · exact ⟨n / spacing n, Nat.log2 n - 52, hquotient.le, rfl⟩
  · exact ⟨n / spacing n + 1, Nat.log2 n - 52, hquotient, rfl⟩

/-- A number that was rounded is in the format. -/
theorem roundNat_roundNat (n : Nat) : roundNat (roundNat n) = roundNat n := by
  obtain ⟨m, k, hm, h⟩ := exists_roundNat_eq n
  rw [h]
  exact roundNat_of_dvd (spacing_dvd hm k)

theorem roundNat_of_le {n : Nat} (h : n ≤ 2 ^ 53) : roundNat n = n := by
  have hdvd := spacing_dvd h 0
  rw [pow_zero, Nat.mul_one] at hdvd
  exact roundNat_of_dvd hdvd

theorem roundNat_zero : roundNat 0 = 0 := roundNat_of_le (by norm_num)

theorem nearest_nearest (i : Int) : nearest (nearest i) = nearest i := by
  rw [nearest, onMagnitude_onMagnitude roundNat_zero]
  exact congrArg (fun f => onMagnitude f i) (funext roundNat_roundNat)

/-- The integers up to `2 ^ 53` are in the format. -/
theorem nearest_of_le {i : Int} (h : i.natAbs ≤ 2 ^ 53) : nearest i = i := by
  rw [nearest, onMagnitude, roundNat_of_le h]
  exact Int.sign_mul_natAbs i

/-! ### Shortest decimals -/

/-- The multiple of `10 ^ k` that is written for a number of the format, if one is read
back as it: the nearer of its two neighbours, and the even one in the middle. -/
def shortestAt (n k : Nat) : Option Nat :=
  let unit := 10 ^ k
  let down := n / unit * unit
  let up := down + unit
  if roundNat down = n then
    if roundNat up = n ∧ (unit < 2 * (n - down) ∨ (2 * (n - down) = unit ∧ n / unit % 2 = 1)) then
      some up
    else some down
  else if roundNat up = n then some up
  else none

/-- The decimal with the fewest digits that is read back as a number of the format. -/
def shortestNat (n : Nat) : Nat :=
  ((List.range ((Nat.digits 10 n).length + 1)).reverse.findSome? (shortestAt n)).getD n

/-- The integer whose decimal text is written for a number of the format. -/
def shortest : Int → Int := onMagnitude shortestNat

theorem roundNat_of_shortestAt {n k m : Nat} (h : shortestAt n k = some m) : roundNat m = n := by
  dsimp only [shortestAt] at h
  split_ifs at h with hdown hup hup
  · obtain rfl := Option.some.inj h
    exact hup.1
  · obtain rfl := Option.some.inj h
    exact hdown
  · obtain rfl := Option.some.inj h
    exact hup

/-- What is written for a number of the format is read back as it. -/
theorem roundNat_shortestNat {n : Nat} (h : roundNat n = n) : roundNat (shortestNat n) = n := by
  rw [shortestNat]
  cases hfound : ((List.range ((Nat.digits 10 n).length + 1)).reverse.findSome? (shortestAt n)) with
  | none => exact h
  | some m =>
      obtain ⟨k, -, hk⟩ := List.exists_of_findSome?_eq_some hfound
      exact roundNat_of_shortestAt hk

/-- Writing the nearest number of an integer and reading it back gives that number. -/
theorem nearest_shortest (i : Int) : nearest (shortest (nearest i)) = nearest i := by
  have hzero : (roundNat ∘ shortestNat) 0 = 0 := roundNat_shortestNat roundNat_zero
  have hread : (roundNat ∘ shortestNat) ∘ roundNat = roundNat := by
    funext n
    rw [Function.comp_apply, Function.comp_apply, roundNat_shortestNat (roundNat_roundNat n)]
  rw [nearest, shortest, onMagnitude_onMagnitude roundNat_zero, onMagnitude_onMagnitude hzero, hread]

example : nearest (2 ^ 63 - 1) = 2 ^ 63 ∧ shortest (2 ^ 63) = 9223372036854776000 := by
  decide +kernel

end Binary64

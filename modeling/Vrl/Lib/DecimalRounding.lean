import Mathlib.Algebra.Order.Floor.Ring
import Mathlib.Data.Rat.Floor
import Mathlib.Tactic.Linarith
import Mathlib.Tactic.Positivity
import Mathlib.Tactic.Ring
import Vrl.Lib.DecimalText

/-!
# Vrl.Lib.DecimalRounding

What rounding does to values.

Both rounding modes are monotone and do not depend on the unit (**`Rounding.div_mono`**,
**`Rounding.div_scale`**). A context rounds every exact result to its `significant` digits
(**`fix_value`**), which is monotone as well, and rescaling sees nothing but the value
(**`rescale_eq_div`**). Rounding to significant digits first and to a number of places
afterwards differs from rounding once exactly for the values in `RoundsTwice`
(**`div_significant_eq_iff`**).
-/

open TextCodec

namespace PyDecimal

/-! ### Rounded quotients -/

namespace Rounding

variable (mode : Rounding) {n m d k : Nat}

theorem le_div (n d : Nat) : n / d ≤ mode.div n d := by
  unfold Rounding.div
  simp only
  split
  · exact le_rfl
  · split
    · exact Nat.le_succ _
    · cases mode <;> simp only <;> omega

theorem div_le (n d : Nat) : mode.div n d ≤ n / d + 1 := by
  unfold Rounding.div
  simp only
  split
  · exact Nat.le_succ _
  · split
    · exact le_rfl
    · cases mode <;> simp only <;> omega

/-- A multiple stays as it is. -/
theorem div_mul_cancel (n : Nat) (hd : 0 < d) : mode.div (n * d) d = n := by
  have hrest : n * d % d = 0 := Nat.mul_mod_left n d
  unfold Rounding.div
  simp only [hrest, Nat.mul_zero, if_pos hd, Nat.mul_div_cancel n hd]

theorem div_one (n : Nat) : mode.div n 1 = n := by
  have h := div_mul_cancel mode n Nat.one_pos
  rwa [Nat.mul_one] at h

/-- **Rounding is monotone.** -/
theorem div_mono (d : Nat) (h : n ≤ m) : mode.div n d ≤ mode.div m d := by
  have hquotient : n / d ≤ m / d := Nat.div_le_div_right h
  rcases Nat.lt_or_ge (n / d) (m / d) with hlt | hge
  · exact (mode.div_le n d).trans ((Nat.succ_le_of_lt hlt).trans (mode.le_div m d))
  · -- with the same quotient the remainders are in order
    have hsame : n / d = m / d := le_antisymm hquotient hge
    have hrest : n % d ≤ m % d := by
      have hn := Nat.div_add_mod n d
      have hm := Nat.div_add_mod m d
      rw [hsame] at hn
      omega
    unfold Rounding.div
    simp only [hsame]
    cases mode <;> simp only <;> split_ifs <;> omega

/-- **The unit does not matter.** -/
theorem div_scale (hk : 0 < k) : mode.div (n * k) (d * k) = mode.div n d := by
  have hquotient : n * k / (d * k) = n / d := Nat.mul_div_mul_right n d hk
  have hrest : n * k % (d * k) = n % d * k := Nat.mul_mod_mul_right k n d
  have hbelow : 2 * (n % d * k) < d * k ↔ 2 * (n % d) < d := by
    rw [← Nat.mul_assoc]
    exact Nat.mul_lt_mul_right hk
  have habove : d * k < 2 * (n % d * k) ↔ d < 2 * (n % d) := by
    rw [← Nat.mul_assoc]
    exact Nat.mul_lt_mul_right hk
  unfold Rounding.div
  simp only [hquotient, hrest, hbelow, habove]

/-- Half up is the floor of the quotient and a half. -/
theorem halfUp_div (n : Nat) (hd : 0 < d) : halfUp.div n d = (2 * n + d) / (2 * d) := by
  have hsplit := Nat.div_add_mod n d
  have hrest := Nat.mod_lt n hd
  have hdouble : 2 * n = 2 * (d * (n / d)) + 2 * (n % d) := by omega
  symm
  unfold Rounding.div
  simp only
  split
  · next hbelow =>
      refine Nat.div_eq_of_lt_le ?_ ?_
      · have hcomm : n / d * (2 * d) = 2 * (d * (n / d)) := by ring
        omega
      · have hcomm : (n / d + 1) * (2 * d) = 2 * (d * (n / d)) + 2 * d := by ring
        omega
  · next hbelow =>
      have hbounds : (2 * n + d) / (2 * d) = n / d + 1 := by
        refine Nat.div_eq_of_lt_le ?_ ?_
        · have hcomm : (n / d + 1) * (2 * d) = 2 * (d * (n / d)) + 2 * d := by ring
          omega
        · have hcomm : (n / d + 1 + 1) * (2 * d) = 2 * (d * (n / d)) + 4 * d := by ring
          omega
      rw [hbounds, ite_self]

/-- Half even goes up past the middle, and at the middle from an odd quotient. -/
theorem halfEven_div (n d : Nat) : halfEven.div n d =
    if d < 2 * (n % d) ∨ (2 * (n % d) = d ∧ n / d % 2 = 1) then n / d + 1 else n / d := by
  unfold Rounding.div
  simp only
  split_ifs <;> omega

end Rounding

/-- **Rescaling sees only the value.** -/
theorem rescale_eq_div (mode : Rounding) {coeff n : Nat} {exp e exp' : Int} (he : e ≤ exp)
    (he' : e ≤ exp') (hvalue : coeff * 10 ^ (exp - e).toNat = n) :
    rescale mode coeff exp exp' = mode.div n (10 ^ (exp' - e).toNat) := by
  unfold rescale
  split
  · have hpow : (exp - e).toNat = (exp - exp').toNat + (exp' - e).toNat := by omega
    rw [← hvalue, hpow, Nat.pow_add, ← Nat.mul_assoc]
    exact (mode.div_mul_cancel _ (Nat.pow_pos (by decide))).symm
  · have hpow : (exp' - e).toNat = (exp' - exp).toNat + (exp - e).toNat := by omega
    rw [← hvalue, hpow, Nat.pow_add]
    exact (mode.div_scale (Nat.pow_pos (by decide))).symm

/-! ### Significant digits -/

/-- `n` to a number of significant digits, a tie to the even one. -/
def significant (prec n : Nat) : Nat :=
  let unit := 10 ^ (numDigits n - prec)
  Rounding.halfEven.div n unit * unit

section Significant

variable {prec n m : Nat}

theorem lt_pow_numDigits (n : Nat) : n < 10 ^ numDigits n := lt_of_numDigits_le le_rfl

theorem pow_le_of_lt_numDigits {k : Nat} (hk : 1 ≤ k) (h : k < numDigits n) : 10 ^ k ≤ n := by
  by_contra hlt
  exact absurd (numDigits_le_of_lt hk (Nat.lt_of_not_le hlt)) (Nat.not_le_of_lt h)

theorem numDigits_mono (h : n ≤ m) : numDigits n ≤ numDigits m :=
  numDigits_le_of_lt (one_le_numDigits m) (lt_of_le_of_lt h (lt_pow_numDigits m))

/-- A number that has no other digits is not changed. -/
theorem significant_of_dvd (h : 10 ^ (numDigits n - prec) ∣ n) : significant prec n = n := by
  obtain ⟨q, hq⟩ := h
  have hunit : 0 < 10 ^ (numDigits n - prec) := Nat.pow_pos (by decide)
  unfold significant
  simp only
  generalize 10 ^ (numDigits n - prec) = unit at hq hunit
  rw [hq, Nat.mul_comm unit q, Rounding.div_mul_cancel _ _ hunit]

theorem significant_of_le (h : numDigits n ≤ prec) : significant prec n = n := by
  refine significant_of_dvd ?_
  rw [Nat.sub_eq_zero_of_le h, Nat.pow_zero]
  exact Nat.one_dvd n

/-- Zeros at the end are no significant digits. -/
theorem significant_mul_pow (hprec : 1 ≤ prec) (k : Nat) (h : n < 10 ^ prec) :
    significant prec (n * 10 ^ k) = n * 10 ^ k := by
  have hsize : numDigits (n * 10 ^ k) ≤ prec + k := by
    refine numDigits_le_of_lt (by omega) ?_
    rw [Nat.pow_add]
    exact Nat.mul_lt_mul_of_pos_right h (Nat.pow_pos (by decide))
  refine significant_of_dvd (Dvd.dvd.mul_left (Nat.pow_dvd_pow 10 ?_) n)
  omega

theorem numDigits_mul_pow (hn : 0 < n) (k : Nat) : numDigits (n * 10 ^ k) = numDigits n + k := by
  refine le_antisymm (numDigits_le_of_lt (by have := one_le_numDigits n; omega) ?_) ?_
  · rw [Nat.pow_add]
    exact Nat.mul_lt_mul_of_pos_right (lt_pow_numDigits n) (Nat.pow_pos (by decide))
  · by_contra hlt
    have hdigits : numDigits n = numDigits n - 1 + 1 := by have := one_le_numDigits n; omega
    have hlow : 10 ^ (numDigits n - 1) ≤ n := by
      rcases Nat.eq_zero_or_pos (numDigits n - 1) with hzero | hpos
      · rw [hzero]
        exact hn
      · exact pow_le_of_lt_numDigits hpos (by omega)
    have hupper := lt_of_numDigits_le (k := numDigits n - 1 + k) (n := n * 10 ^ k) (by omega)
    rw [Nat.pow_add] at hupper
    exact absurd hlow (Nat.not_le_of_lt (Nat.lt_of_mul_lt_mul_right hupper))

/-- **The unit does not matter for significant digits either.** -/
theorem significant_scale (hprec : 1 ≤ prec) (n k : Nat) :
    significant prec (n * 10 ^ k) = significant prec n * 10 ^ k := by
  rcases Nat.lt_or_ge (numDigits n) prec with hlt | hge
  · have hn : n < 10 ^ prec := lt_of_numDigits_le hlt.le
    rw [significant_mul_pow hprec k hn, significant_of_le hlt.le]
  · rcases Nat.eq_zero_or_pos n with rfl | hn
    · have hzero : significant prec 0 = 0 := significant_of_le hprec
      simp [hzero]
    · have hdigits : numDigits n + k - prec = (numDigits n - prec) + k := by omega
      unfold significant
      simp only [numDigits_mul_pow hn, hdigits, Nat.pow_add,
        Rounding.div_scale _ (Nat.pow_pos (n := k) (show 0 < 10 by decide)), Nat.mul_assoc]

/-- The digits that are kept. -/
theorem div_unit_le (h : prec ≤ numDigits n) :
    Rounding.halfEven.div n (10 ^ (numDigits n - prec)) ≤ 10 ^ prec := by
  have hpow : 10 ^ numDigits n = 10 ^ prec * 10 ^ (numDigits n - prec) := by
    rw [← Nat.pow_add, Nat.add_sub_cancel' h]
  calc Rounding.halfEven.div n (10 ^ (numDigits n - prec))
      ≤ Rounding.halfEven.div (10 ^ numDigits n) (10 ^ (numDigits n - prec)) :=
        Rounding.div_mono _ _ (lt_pow_numDigits n).le
    _ = 10 ^ prec := by
        rw [hpow, Rounding.div_mul_cancel _ _ (Nat.pow_pos (by decide))]

theorem significant_le_pow (n prec : Nat) : significant prec n ≤ 10 ^ numDigits n := by
  rcases Nat.le_total (numDigits n) prec with h | h
  · rw [significant_of_le h]
    exact (lt_pow_numDigits n).le
  · calc significant prec n ≤ 10 ^ prec * 10 ^ (numDigits n - prec) :=
          Nat.mul_le_mul_right _ (div_unit_le h)
      _ = 10 ^ numDigits n := by rw [← Nat.pow_add, Nat.add_sub_cancel' h]

theorem pow_le_significant {k : Nat} (hprec : 1 ≤ prec) (h : 10 ^ k ≤ n) :
    10 ^ k ≤ significant prec n := by
  rcases Nat.lt_or_ge k (numDigits n - prec) with hlt | hge
  · -- the unit alone is larger, and one of it is left
    have hunit : 10 ^ (numDigits n - prec) ≤ n :=
      pow_le_of_lt_numDigits (by omega) (by omega)
    calc 10 ^ k ≤ 10 ^ (numDigits n - prec) := Nat.pow_le_pow_right (by decide) hlt.le
      _ = 1 * 10 ^ (numDigits n - prec) := (Nat.one_mul _).symm
      _ ≤ significant prec n := Nat.mul_le_mul_right _
          (((Nat.one_le_div_iff (Nat.pow_pos (by decide))).mpr hunit).trans
            (Rounding.le_div _ _ _))
  · have hpow : 10 ^ k = 10 ^ (k - (numDigits n - prec)) * 10 ^ (numDigits n - prec) := by
      rw [← Nat.pow_add, Nat.sub_add_cancel hge]
    calc 10 ^ k
        = Rounding.halfEven.div (10 ^ k) (10 ^ (numDigits n - prec)) *
            10 ^ (numDigits n - prec) := by
          rw [hpow, Rounding.div_mul_cancel _ _ (Nat.pow_pos (by decide))]
      _ ≤ significant prec n := Nat.mul_le_mul_right _ (Rounding.div_mono _ _ h)

/-- **Rounding to significant digits is monotone.** -/
theorem significant_mono (hprec : 1 ≤ prec) (h : n ≤ m) :
    significant prec n ≤ significant prec m := by
  rcases (numDigits_mono h).lt_or_eq with hlt | heq
  · -- a power of ten lies between numbers of different lengths
    exact (significant_le_pow n prec).trans (pow_le_significant hprec
      (pow_le_of_lt_numDigits (one_le_numDigits n) hlt))
  · unfold significant
    simp only [heq]
    exact Nat.mul_le_mul_right _ (Rounding.div_mono _ _ h)

end Significant

/-! ### Contexts -/

/-- The number is `n` units of `10 ^ unit`. -/
inductive IsUnits (unit : Int) (n : Nat) : PyDecimal → Prop where
  | intro {neg : Bool} {coeff : Nat} {exp : Int} (hunit : unit ≤ exp)
      (hvalue : coeff * 10 ^ (exp - unit).toNat = n) (hsign : neg = true → n = 0) :
      IsUnits unit n (.finite neg coeff exp)

/-- An exact result other than zero keeps its significant digits. -/
theorem fix_value {ctx : DecimalContext} {neg : Bool} {coeff : Nat} {exp : Int} {d : PyDecimal}
    (hprec : 1 ≤ ctx.prec) (hetiny : ctx.etiny ≤ exp) (hcoeff : 0 < coeff)
    (h : fix ctx neg coeff exp = .ok d) :
    ∃ coeff' exp', d = .finite neg coeff' exp' ∧ exp ≤ exp' ∧
      coeff' * 10 ^ (exp' - exp).toNat = significant ctx.prec coeff := by
  unfold fix at h
  rw [if_neg hcoeff.ne'] at h
  split at h
  · cases h
  · simp only at h
    split at h
    · next hexp =>
        -- the digits fit
        cases h
        rw [adjusted] at hexp
        refine ⟨coeff, exp, rfl, le_rfl, ?_⟩
        rw [significant_of_le (by omega), Int.sub_self, Int.toNat_zero, Nat.pow_zero, Nat.mul_one]
    · next hexp =>
        rw [adjusted] at hexp h
        have hmin : max ((numDigits coeff : Int) + exp - 1 + 1 - ctx.prec) ctx.etiny =
            exp + (numDigits coeff - ctx.prec : Nat) := by omega
        have hdropped : (exp + (numDigits coeff - ctx.prec : Nat) - exp).toNat =
            numDigits coeff - ctx.prec := by omega
        have hlong : ctx.prec ≤ numDigits coeff := by omega
        have hkept := div_unit_le hlong
        rw [hmin, hdropped] at h
        split at h
        · next hcarry =>
            split at h
            · cases h
            · -- the digits are carried to a power of ten
              cases h
              have heq := le_antisymm hkept (pow_le_of_lt_numDigits hprec hcarry)
              obtain ⟨p, hp⟩ : ∃ p, ctx.prec = p + 1 := ⟨ctx.prec - 1, by omega⟩
              refine ⟨_, _, rfl, by omega, ?_⟩
              have hshift : (exp + (numDigits coeff - ctx.prec : Nat) + 1 - exp).toNat =
                  (numDigits coeff - ctx.prec) + 1 := by omega
              unfold significant
              simp only [heq, hshift]
              rw [hp, Nat.pow_succ, Nat.mul_div_cancel _ (by decide)]
              ring
        · cases h
          refine ⟨_, _, rfl, by omega, ?_⟩
          rw [hdropped]
          rfl

section Units

variable {ctx : DecimalContext} {unit unit' : Int} {n m : Nat} {a b d : PyDecimal}

/-- The exponents of a context that a unit may have. -/
structure HasUnit (ctx : DecimalContext) (unit : Int) : Prop where
  prec : 1 ≤ ctx.prec
  etiny : ctx.etiny ≤ unit
  emax : unit ≤ ctx.emax

/-- **An exact result is rounded to its significant digits**, in every unit. -/
theorem fix_units (hctx : HasUnit ctx unit) {neg : Bool} {coeff : Nat} {exp : Int}
    (hunit : unit ≤ exp) (hvalue : coeff * 10 ^ (exp - unit).toNat = n)
    (hsign : neg = true → n = 0) (h : fix ctx neg coeff exp = .ok d) :
    IsUnits unit (significant ctx.prec n) d := by
  rcases Nat.eq_zero_or_pos coeff with rfl | hcoeff
  · rw [Nat.zero_mul] at hvalue
    subst hvalue
    rw [fix, if_pos rfl] at h
    cases h
    have hzero : significant ctx.prec 0 = 0 := significant_of_le hctx.prec
    have hemax := hctx.emax
    rw [hzero]
    exact .intro (by omega) (Nat.zero_mul _) fun _ => rfl
  · obtain ⟨coeff', exp', rfl, hle, hfixed⟩ := fix_value hctx.prec (hctx.etiny.trans hunit) hcoeff h
    have hshift : (exp' - unit).toNat = (exp' - exp).toNat + (exp - unit).toNat := by omega
    refine .intro (hunit.trans hle) ?_ fun hneg => ?_
    · rw [hshift, Nat.pow_add, ← Nat.mul_assoc, hfixed, ← hvalue, significant_scale hctx.prec]
    · rw [hsign hneg]
      exact significant_of_le hctx.prec

/-- A number of units, aligned to an exponent between the unit and its own. -/
theorem signed_units {neg : Bool} {coeff : Nat} {exp exp' : Int} (hunit : unit ≤ exp')
    (hle : exp' ≤ exp) (hvalue : coeff * 10 ^ (exp - unit).toNat = n)
    (hsign : neg = true → n = 0) :
    ∃ aligned : Nat, signed neg coeff exp exp' = aligned ∧
      aligned * 10 ^ (exp' - unit).toNat = n := by
  have hshift : (exp - unit).toNat = (exp - exp').toNat + (exp' - unit).toNat := by omega
  refine ⟨coeff * 10 ^ (exp - exp').toNat, ?_, ?_⟩
  · cases neg with
    | false => simp [signed]
    | true =>
        rw [hsign rfl, Nat.mul_eq_zero] at hvalue
        have hzero : coeff = 0 := hvalue.resolve_right (Nat.pow_pos (by decide)).ne'
        simp [signed, hzero]
  · rw [← hvalue, hshift, Nat.pow_add, Nat.mul_assoc]

/-- **A sum is rounded to its significant digits.** -/
theorem add_units (hctx : HasUnit ctx unit) (ha : IsUnits unit n a) (hb : IsUnits unit m b)
    (h : a.add ctx b = .ok d) : IsUnits unit (significant ctx.prec (n + m)) d := by
  obtain ⟨hunitA, hvalueA, hsignA⟩ := ha
  obtain ⟨hunitB, hvalueB, hsignB⟩ := hb
  rename_i negA coeffA expA negB coeffB expB
  have hmin : unit ≤ min expA expB := le_min hunitA hunitB
  obtain ⟨x, hx, hvalueX⟩ := signed_units hmin (min_le_left _ _) hvalueA hsignA
  obtain ⟨y, hy, hvalueY⟩ := signed_units hmin (min_le_right _ _) hvalueB hsignB
  have hnone : checkNans ctx [.finite negA coeffA expA, .finite negB coeffB expB] = none := rfl
  have hnonneg : ¬ ((x : Int) + y < 0) := by omega
  have hsum : ((x : Int) + y).natAbs = x + y := by omega
  simp only [add, hnone, hx, hy, hnonneg, hsum, decide_false] at h
  refine fix_units hctx hmin (by rw [Nat.add_mul, hvalueX, hvalueY]) (fun hneg => ?_) h
  split at hneg
  · simp only [Bool.and_eq_true] at hneg
    rw [hsignA hneg.1, hsignB hneg.2]
  · cases hneg

/-- **A product is rounded to its significant digits.** -/
theorem mul_units (hctx : HasUnit ctx (unit + unit')) (ha : IsUnits unit n a)
    (hb : IsUnits unit' m b) (h : a.mul ctx b = .ok d) :
    IsUnits (unit + unit') (significant ctx.prec (n * m)) d := by
  obtain ⟨hunitA, hvalueA, hsignA⟩ := ha
  obtain ⟨hunitB, hvalueB, hsignB⟩ := hb
  rename_i negA coeffA expA negB coeffB expB
  have hshift : (expA + expB - (unit + unit')).toNat =
      (expA - unit).toNat + (expB - unit').toNat := by omega
  refine fix_units hctx (by omega) ?_ (fun hneg => ?_) h
  · rw [hshift, Nat.pow_add, ← hvalueA, ← hvalueB]
    ring
  · cases negA with
    | true => rw [hsignA rfl, Nat.zero_mul]
    | false =>
        cases negB with
        | true => rw [hsignB rfl, Nat.mul_zero]
        | false => cases hneg

/-- Numbers of units are compared by their number. -/
theorem lt_units (ha : IsUnits unit n a) (hb : IsUnits unit m b) :
    a.lt b = .ok (decide (n < m)) := by
  obtain ⟨hunitA, hvalueA, hsignA⟩ := ha
  obtain ⟨hunitB, hvalueB, hsignB⟩ := hb
  rename_i negA coeffA expA negB coeffB expB
  have hmin : unit ≤ min expA expB := le_min hunitA hunitB
  obtain ⟨x, hx, hvalueX⟩ := signed_units hmin (min_le_left _ _) hvalueA hsignA
  obtain ⟨y, hy, hvalueY⟩ := signed_units hmin (min_le_right _ _) hvalueB hsignB
  have hpos : 0 < 10 ^ (min expA expB - unit).toNat := Nat.pow_pos (by decide)
  have hiff : ((x : Int) < y) = (n < m) := by
    rw [← hvalueX, ← hvalueY, Nat.mul_lt_mul_right hpos, Int.ofNat_lt]
  simp only [lt, hx, hy, hiff]

/-- **Quantizing rounds to the exponent**, and refuses what has too many digits. -/
theorem quantize_units {mode : Rounding} {exp : Int} (hprec : 1 ≤ ctx.prec) (hexp : unit ≤ exp)
    (ha : IsUnits unit n a) (h : a.quantize ctx mode exp = .ok d) :
    ∃ neg, d = .finite neg (mode.div n (10 ^ (exp - unit).toNat)) exp ∧ (neg = true → n = 0) ∧
      numDigits (mode.div n (10 ^ (exp - unit).toNat)) ≤ ctx.prec := by
  obtain ⟨hunit, hvalue, hsign⟩ := ha
  rename_i neg coeff exp'
  have hnone : checkNans ctx [.finite neg coeff exp'] = none := rfl
  have hrescale : rescale mode coeff exp' exp = mode.div n (10 ^ (exp - unit).toNat) :=
    rescale_eq_div mode hunit hexp hvalue
  simp only [quantize, hnone, hrescale] at h
  split at h
  · next hzero =>
      rw [hzero, Nat.zero_mul] at hvalue
      cases h
      have hdiv := mode.div_mul_cancel 0 (Nat.pow_pos (n := (exp - unit).toNat)
        (show 0 < 10 by decide))
      rw [Nat.zero_mul] at hdiv
      rw [← hvalue, hdiv]
      exact ⟨neg, rfl, fun _ => rfl, hprec⟩
  · split at h
    · cases h
    · split at h
      · cases h
      · next hdigits =>
          cases h
          exact ⟨neg, rfl, hsign, Nat.le_of_not_lt hdigits⟩

/-- The integer that a number of units is rounded to. -/
theorem toInt_units {mode : Rounding} (hunit : unit ≤ 0) (ha : IsUnits unit n a) :
    a.toInt mode = .ok (mode.div n (10 ^ (-unit).toNat) : Int) := by
  obtain ⟨hle, hvalue, hsign⟩ := ha
  have hzero : mode.div 0 (10 ^ (-unit).toNat) = 0 := by
    have h := mode.div_mul_cancel 0 (Nat.pow_pos (n := (-unit).toNat) (show 0 < 10 by decide))
    rwa [Nat.zero_mul] at h
  rw [toInt, rescale_eq_div mode hle hunit hvalue, zero_sub]
  split
  · next hneg => rw [hsign hneg, hzero, Int.natCast_zero, Int.neg_zero]
  · rfl

end Units

/-! ### Rounding twice -/

/-- `n` lies so close below a half of the last place that rounding it to `prec` significant
digits first reaches the half; or it is that half, and an even number is below it. -/
def RoundsTwice (prec places n : Nat) : Prop :=
  let dropped := numDigits n - prec
  let half := 5 * 10 ^ (places - 1)
  let rest := n % 10 ^ places
  (0 < dropped ∧ dropped < places ∧ rest < half ∧ (half < rest + 5 * 10 ^ (dropped - 1) ∨
      half = rest + 5 * 10 ^ (dropped - 1) ∧ dropped + 1 ≠ places)) ∨
    (0 < dropped ∧ dropped = places ∧ rest = half ∧ n / 10 ^ places % 2 = 0)

instance (prec places n : Nat) : Decidable (RoundsTwice prec places n) := by
  unfold RoundsTwice
  infer_instance

/-- Half up to a larger unit sees only the quotient by an even divisor of it. -/
theorem halfUp_div_even (m : Nat) {rest d k : Nat} (hrest : rest < d) (hk : k % 2 = 0)
    (hpos : 0 < k) :
    Rounding.halfUp.div (d * m + rest) (d * k) = Rounding.halfUp.div m k := by
  have hd : 0 < d := by omega
  rw [Rounding.halfUp_div _ (Nat.mul_pos hd hpos), Rounding.halfUp_div _ hpos]
  obtain ⟨j, rfl⟩ := Nat.dvd_of_mod_eq_zero hk
  have hnum : 2 * (d * m + rest) + d * (2 * j) = 2 * (d * (m + j) + rest) := by ring
  have hnum' : 2 * m + 2 * j = 2 * (m + j) := by ring
  rw [hnum, hnum', Nat.mul_div_mul_left _ _ (by decide), Nat.mul_div_mul_left _ _ (by decide),
    ← Nat.div_div_eq_div_mul, Nat.mul_add_div hd, Nat.div_eq_of_lt hrest, Nat.add_zero]

/-- One more makes a difference exactly below the half. -/
theorem halfUp_div_succ (m : Nat) {j : Nat} (hj : 0 < j) :
    Rounding.halfUp.div (m + 1) (2 * j) = Rounding.halfUp.div m (2 * j) ↔
      m % (2 * j) + 1 ≠ j := by
  have hsplit := Nat.div_add_mod m (2 * j)
  have hrest := Nat.mod_lt m (show 0 < 2 * j by omega)
  rw [Rounding.halfUp_div _ (by omega), Rounding.halfUp_div _ (by omega)]
  generalize hq : m / (2 * j) = q at hsplit
  generalize m % (2 * j) = r at hsplit hrest
  have hlow : 2 * m + 2 * j = 2 * (2 * j) * q + 2 * (r + j) := by rw [← hsplit]; ring
  have hhigh : 2 * (m + 1) + 2 * j = 2 * (2 * j) * q + 2 * (r + 1 + j) := by rw [← hsplit]; ring
  have hpos : 0 < 2 * (2 * j) := by omega
  rw [hlow, hhigh, Nat.mul_add_div hpos, Nat.mul_add_div hpos, Nat.add_right_inj,
    Nat.mul_div_mul_left _ _ (by decide), Nat.mul_div_mul_left _ _ (by decide)]
  rcases Nat.lt_or_ge (r + 1) j with hlt | hge
  · rw [Nat.div_eq_of_lt (by omega), Nat.div_eq_of_lt (by omega)]
    omega
  · rcases hge.eq_or_lt with heq | hgt
    · rw [Nat.div_eq_of_lt (show r + j < 2 * j by omega)]
      have hone : (r + 1 + j) / (2 * j) = 1 := by
        rw [← heq, ← Nat.two_mul, Nat.div_self (by omega)]
      omega
    · have hone : (r + 1 + j) / (2 * j) = 1 := Nat.div_eq_of_lt_le (by omega) (by omega)
      have hone' : (r + j) / (2 * j) = 1 := Nat.div_eq_of_lt_le (by omega) (by omega)
      omega

/-- A quotient rounded to the even one and then half up: the first makes a difference exactly
if the rest reaches the half. -/
theorem halfUp_div_halfEven {q t e half : Nat} (hhalfPos : 0 < half) (hrest : t < 2 * e) :
    Rounding.halfUp.div (if 2 * e < 2 * t ∨ 2 * t = 2 * e ∧ q % 2 = 1 then q + 1 else q)
        (2 * half) = Rounding.halfUp.div q (2 * half) ↔
      ¬ (2 * e * (q % (2 * half)) + t < 2 * e * half ∧
        (2 * e * half < 2 * e * (q % (2 * half)) + t + e ∨
          2 * e * half = 2 * e * (q % (2 * half)) + t + e ∧ half % 2 = 0)) := by
  have hparity : q % (2 * half) % 2 = q % 2 := Nat.mod_mul_right_mod _ _ _
  have hsucc := halfUp_div_succ q hhalfPos
  generalize q % (2 * half) = r at *
  by_cases hnext : half = r + 1
  · -- the half is the next multiple of the unit
    have hproduct : 2 * e * half = 2 * e * r + 2 * e := by rw [hnext]; ring
    rw [hproduct]
    generalize 2 * e * r = x
    by_cases hup : 2 * e < 2 * t ∨ 2 * t = 2 * e ∧ q % 2 = 1
    · rw [if_pos hup]
      omega
    · rw [if_neg hup]
      omega
  · have hsame : Rounding.halfUp.div
        (if 2 * e < 2 * t ∨ 2 * t = 2 * e ∧ q % 2 = 1 then q + 1 else q) (2 * half) =
          Rounding.halfUp.div q (2 * half) := by
      split
      · exact hsucc.mpr (Ne.symm hnext)
      · rfl
    refine iff_of_true hsame ?_
    rintro ⟨hbelow, hreach⟩
    -- no multiple lies between the two
    have hlow : r < half := by
      by_contra hge
      have := Nat.mul_le_mul_left (2 * e) (Nat.le_of_not_lt hge)
      omega
    have hhigh : half < r + 2 := by
      by_contra hge
      have hfar := Nat.mul_le_mul_left (2 * e) (Nat.le_of_not_lt hge)
      have hexpand : 2 * e * (r + 2) = 2 * e * r + 4 * e := by ring
      omega
    omega

/-- Digits that are dropped before those behind the places. -/
theorem div_significant_of_lt {prec places n : Nat} (hdropped : 0 < numDigits n - prec)
    (hlt : numDigits n - prec < places) :
    Rounding.halfUp.div (significant prec n) (10 ^ places) =
        Rounding.halfUp.div n (10 ^ places) ↔ ¬ RoundsTwice prec places n := by
  obtain ⟨k, hk⟩ : ∃ k, numDigits n - prec = k + 1 := ⟨_, (Nat.succ_pred_eq_of_pos hdropped).symm⟩
  obtain ⟨j, hj⟩ : ∃ j, places = k + 1 + (j + 1) := ⟨places - (k + 2), by omega⟩
  have hsplit := Nat.div_add_mod n (10 ^ (k + 1))
  have hrest := Nat.mod_lt n (show 0 < 10 ^ (k + 1) from Nat.pow_pos (by decide))
  have hunit : 10 ^ places = 10 ^ (k + 1) * 10 ^ (j + 1) := by rw [hj, Nat.pow_add]
  have hhalf : 5 * 10 ^ (places - 1) = 10 ^ (k + 1) * (5 * 10 ^ j) := by
    have hpred : places - 1 = k + 1 + j := by omega
    rw [hpred, Nat.pow_add]
    ring
  have heven : (10 : Nat) ^ (j + 1) = 2 * (5 * 10 ^ j) := by ring
  have hlast : 10 ^ (k + 1) = 2 * (5 * 10 ^ k) := by ring
  have hmod : n % 10 ^ places =
      10 ^ (k + 1) * (n / 10 ^ (k + 1) % (2 * (5 * 10 ^ j))) + n % 10 ^ (k + 1) := by
    rw [hunit, Nat.mod_mul, heven, Nat.add_comm]
  have hrounds : Rounding.halfUp.div n (10 ^ places) =
      Rounding.halfUp.div (n / 10 ^ (k + 1)) (2 * (5 * 10 ^ j)) := by
    conv_lhs => rw [← hsplit, hunit, heven]
    exact halfUp_div_even _ hrest (Nat.mul_mod_right _ _) (by positivity)
  have hsignificant : ∀ q, Rounding.halfUp.div (q * 10 ^ (k + 1)) (10 ^ places) =
      Rounding.halfUp.div q (2 * (5 * 10 ^ j)) := by
    intro q
    rw [hunit, Nat.mul_comm (10 ^ (k + 1)), heven, Rounding.div_scale _ (Nat.pow_pos (by decide))]
  have hhalfEven : 5 * 10 ^ j % 2 = 0 ↔ k + 1 + 1 ≠ places := by
    cases j with
    | zero => omega
    | succ j => rw [Nat.pow_succ]; omega
  have hhalfPos : 0 < 5 * 10 ^ j := by positivity
  unfold significant RoundsTwice
  simp only [hk, Nat.add_sub_cancel, hhalf, hmod, Rounding.halfEven_div, hrounds, hsignificant]
  rw [hlast] at hrest ⊢
  rw [halfUp_div_halfEven hhalfPos hrest, hhalfEven]
  have hstrict : 0 < k + 1 ∧ k + 1 < places ∧ k + 1 ≠ places := by omega
  simp only [hstrict.1, hstrict.2.1, hstrict.2.2, true_and, false_and, and_false, or_false]

/-- **Rounding to significant digits first makes a difference for these values only.** -/
theorem div_significant_eq_iff {prec places n : Nat} (hsize : numDigits n ≤ prec + places) :
    Rounding.halfUp.div (significant prec n) (10 ^ places) =
        Rounding.halfUp.div n (10 ^ places) ↔ ¬ RoundsTwice prec places n := by
  rcases Nat.eq_zero_or_pos (numDigits n - prec) with hzero | hdropped
  · rw [significant_of_le (by omega), RoundsTwice, hzero]
    simp
  rcases Nat.lt_or_ge (numDigits n - prec) places with hlt | hge
  · exact div_significant_of_lt hdropped hlt
  · -- all places are dropped at once, by the other mode
    have heq : numDigits n - prec = places := by omega
    have hrest := Nat.mod_lt n (show 0 < 10 ^ places from Nat.pow_pos (by decide))
    have hhalf : 2 * (5 * 10 ^ (places - 1)) = 10 ^ places := by
      obtain ⟨p, rfl⟩ : ∃ p, places = p + 1 := ⟨places - 1, by omega⟩
      rw [Nat.add_sub_cancel, Nat.pow_succ]
      ring
    have hexact : Rounding.halfUp.div (significant prec n) (10 ^ places) =
        Rounding.halfEven.div n (10 ^ places) := by
      unfold significant
      simp only [heq]
      exact Rounding.div_mul_cancel _ _ (Nat.pow_pos (by decide))
    rw [hexact, Rounding.halfEven_div, Rounding.div, RoundsTwice, heq]
    simp only
    generalize n / 10 ^ places = q
    generalize 5 * 10 ^ (places - 1) = half at *
    generalize n % 10 ^ places = rest at *
    rw [← hhalf] at hrest ⊢
    have hplaces : 0 < places := by omega
    simp only [hplaces, lt_irrefl, true_and, false_and, and_false, false_or]
    split_ifs <;> omega

/-! ### Values -/

/-- The rational number that a decimal is; zero for the special values. -/
def toRat : PyDecimal → Rat
  | .finite neg coeff exp => (if neg then -1 else 1) * coeff * (10 : Rat) ^ exp
  | _ => 0

theorem toRat_units {unit : Int} {n : Nat} {d : PyDecimal} (h : IsUnits unit n d) :
    d.toRat = n * (10 : Rat) ^ unit := by
  obtain ⟨hunit, hvalue, hsign⟩ := h
  rename_i neg coeff exp
  have hpow : (10 : Rat) ^ exp = (10 : Rat) ^ (exp - unit).toNat * (10 : Rat) ^ unit := by
    rw [← zpow_natCast, ← zpow_add₀ (by decide), Int.toNat_of_nonneg (by omega), Int.sub_add_cancel]
  cases neg with
  | false =>
      rw [toRat, ← hvalue, hpow]
      push_cast
      ring
  | true =>
      have hzero : coeff = 0 := by
        rw [hsign rfl, Nat.mul_eq_zero] at hvalue
        exact hvalue.resolve_right (Nat.pow_pos (by decide)).ne'
      rw [toRat, hsign rfl, hzero]
      simp

/-! ### Powers of ten are bounds -/

theorem pow_split {e k : Int} (h : e ≤ k) :
    (10 : Rat) ^ k = ((10 ^ (k - e).toNat : Nat) : Rat) * 10 ^ e := by
  rw [Nat.cast_pow, Nat.cast_ofNat, ← zpow_natCast, ← zpow_add₀ (by decide),
    Int.toNat_of_nonneg (by omega), Int.sub_add_cancel]

theorem value_le_pow_iff {coeff : Nat} {e k : Int} (h : e ≤ k) :
    (coeff : Rat) * 10 ^ e ≤ 10 ^ k ↔ coeff ≤ 10 ^ (k - e).toNat := by
  rw [pow_split h, mul_le_mul_iff_left₀ (zpow_pos (by decide) e), Nat.cast_le]

theorem pow_le_value_iff {coeff : Nat} {e k : Int} (h : e ≤ k) :
    (10 : Rat) ^ k ≤ coeff * 10 ^ e ↔ 10 ^ (k - e).toNat ≤ coeff := by
  rw [pow_split h, mul_le_mul_iff_left₀ (zpow_pos (by decide) e), Nat.cast_le]

/-- `b` is on the same side of every power of ten from `10 ^ low` on as `a` is. -/
structure SameBounds (low : Int) (a b : Rat) : Prop where
  upper : ∀ k, low ≤ k → a ≤ 10 ^ k → b ≤ 10 ^ k
  lower : ∀ k, low ≤ k → 10 ^ k ≤ a → 10 ^ k ≤ b

/-- **Rounding to a place keeps the powers of ten from this place on as bounds.** -/
theorem sameBounds_div (mode : Rounding) (coeff : Nat) {exp e : Int} (he : exp ≤ e) :
    SameBounds e (coeff * 10 ^ exp) (mode.div coeff (10 ^ (e - exp).toNat) * 10 ^ e) := by
  have hcancel : ∀ k, e ≤ k →
      mode.div (10 ^ (k - exp).toNat) (10 ^ (e - exp).toNat) = 10 ^ (k - e).toNat := by
    intro k hk
    have hsplit : (k - exp).toNat = (k - e).toNat + (e - exp).toNat := by omega
    rw [hsplit, Nat.pow_add, mode.div_mul_cancel _ (Nat.pow_pos (by decide))]
  constructor
  · intro k hk h
    rw [value_le_pow_iff (he.trans hk)] at h
    rw [value_le_pow_iff hk, ← hcancel k hk]
    exact mode.div_mono _ h
  · intro k hk h
    rw [pow_le_value_iff (he.trans hk)] at h
    rw [pow_le_value_iff hk, ← hcancel k hk]
    exact mode.div_mono _ h

/-- **Rounding to the digits of a context keeps all powers of ten that it has as bounds.** -/
theorem fix_sameBounds {ctx : DecimalContext} (hprec : 1 ≤ ctx.prec) (hrange : ctx.etiny ≤ ctx.emax)
    {neg : Bool} {coeff : Nat} {exp : Int} {d : PyDecimal} (hcoeff : 0 < coeff)
    (h : fix ctx neg coeff exp = .ok d) :
    ∃ coeff' exp', d = .finite neg coeff' exp' ∧ numDigits coeff' ≤ ctx.prec ∧ exp' ≤ ctx.emax ∧
      SameBounds ctx.etiny (coeff * 10 ^ exp) (coeff' * 10 ^ exp') := by
  have hdigits := one_le_numDigits coeff
  unfold fix at h
  rw [if_neg hcoeff.ne'] at h
  split at h
  · cases h
  next hemax =>
  simp only at h
  generalize hmin : max (adjusted coeff exp + 1 - ctx.prec) ctx.etiny = e at h
  rw [adjusted] at hmin hemax
  split at h
  · cases h
    exact ⟨coeff, exp, rfl, by omega, by omega, fun _ _ h => h, fun _ _ h => h⟩
  next hexp =>
  have hle : exp ≤ e := by omega
  have hrounded := sameBounds_div .halfEven coeff hle
  generalize Rounding.halfEven.div coeff (10 ^ (e - exp).toNat) = q at h hrounded
  -- where the last place that is kept is above a bound, so is the digit in front
  have hlow : ∀ k, ctx.etiny ≤ k → k < e →
      (10 : Rat) ^ k < coeff * 10 ^ exp ∧ (10 : Rat) ^ k ≤ q * 10 ^ e := by
    intro k hk hlt
    have hunit : 10 ^ (e - exp).toNat ≤ coeff := by
      rcases Nat.eq_zero_or_pos (e - exp).toNat with hzero | hpos
      · rw [hzero]
        exact hcoeff
      · exact pow_le_of_lt_numDigits hpos (by omega)
    have hpow : (10 : Rat) ^ k < 10 ^ e := zpow_lt_zpow_right₀ (by norm_num) hlt
    have hexact : (10 : Rat) ^ e ≤ coeff * 10 ^ exp := (pow_le_value_iff (by omega)).mpr hunit
    exact ⟨hpow.trans_le hexact, hpow.le.trans (hrounded.lower e le_rfl hexact)⟩
  have hbounds : SameBounds ctx.etiny (coeff * 10 ^ exp) (q * 10 ^ e) := by
    constructor
    · intro k hk h
      rcases lt_or_ge k e with hlt | hge
      · exact absurd h (not_le.mpr (hlow k hk hlt).1)
      · exact hrounded.upper k hge h
    · intro k hk h
      rcases lt_or_ge k e with hlt | hge
      · exact (hlow k hk hlt).2
      · exact hrounded.lower k hge h
  split at h
  · next hcarry =>
      split at h
      · cases h
      · next hetop =>
          -- the digits are carried to a power of ten
          cases h
          have hexact : (coeff : Rat) * 10 ^ exp ≤ 10 ^ (e + ctx.prec) := by
            rw [value_le_pow_iff (by omega)]
            exact (lt_pow_numDigits coeff).le.trans (Nat.pow_le_pow_right (by decide) (by omega))
          have hfull : q ≤ 10 ^ ctx.prec := by
            have hq := hrounded.upper _ (by omega) hexact
            rw [value_le_pow_iff (by omega)] at hq
            exact hq.trans (Nat.pow_le_pow_right (by decide) (by omega))
          have heq := le_antisymm hfull (pow_le_of_lt_numDigits hprec hcarry)
          obtain ⟨p, hp⟩ : ∃ p, ctx.prec = p + 1 := ⟨ctx.prec - 1, by omega⟩
          have htenth : q / 10 = 10 ^ p := by
            rw [heq, hp, Nat.pow_succ, Nat.mul_div_cancel _ (by decide)]
          have hvalue : ((q / 10 : Nat) : Rat) * 10 ^ (e + 1) = q * 10 ^ e := by
            rw [htenth, heq, hp, zpow_add₀ (by decide)]
            push_cast
            ring
          have hetopEq : ctx.etop = ctx.emax - p := by
            rw [DecimalContext.etop, hp]
            omega
          refine ⟨q / 10, e + 1, rfl, ?_, by omega, by rwa [hvalue]⟩
          rw [htenth, hp]
          exact numDigits_le_of_lt (by omega) (Nat.pow_lt_pow_right (by decide) (by omega))
  · next hcarry =>
      cases h
      exact ⟨q, e, rfl, by omega, by omega, hbounds⟩

/-- **Rounding to an integer keeps the powers of ten as bounds**, and puts zeros behind the
digits that there are, or leaves fewer of them. -/
theorem toInt_sameBounds (mode : Rounding) (coeff : Nat) (exp : Int) :
    ∃ n : Nat, (finite false coeff exp).toInt mode = .ok (n : Int) ∧
      SameBounds 0 (coeff * 10 ^ exp) n ∧
      ∃ m j : Nat, n = m * 10 ^ j ∧ m ≤ coeff ∧ (j : Int) ≤ max exp 0 := by
  refine ⟨rescale mode coeff exp 0, rfl, ?_⟩
  unfold rescale
  split
  · next hexp =>
      have hvalue : (coeff : Rat) * 10 ^ exp = (coeff * 10 ^ (exp - 0).toNat : Nat) := by
        have hpow : exp = ((exp - 0).toNat : Int) := by omega
        conv_lhs => rw [hpow, zpow_natCast]
        push_cast
        rfl
      exact ⟨by rw [hvalue]; exact ⟨fun _ _ h => h, fun _ _ h => h⟩, coeff, _, rfl, le_rfl,
        by omega⟩
  · next hexp =>
      have hle : exp ≤ 0 := by omega
      have hbounds := sameBounds_div mode coeff hle
      rw [zpow_zero, mul_one] at hbounds
      refine ⟨hbounds, _, 0, (Nat.mul_one _).symm, ?_, by omega⟩
      -- a quotient is not larger
      calc mode.div coeff (10 ^ (0 - exp).toNat)
          ≤ mode.div (coeff * 10 ^ (0 - exp).toNat) (10 ^ (0 - exp).toNat) :=
            mode.div_mono _ (Nat.le_mul_of_pos_right _ (Nat.pow_pos (by decide)))
        _ = coeff := mode.div_mul_cancel _ (Nat.pow_pos (by decide))

/-- Half up in terms of the value: the floor of it and a half. -/
theorem halfUp_div_eq_floor (n : Nat) {d : Nat} (hd : 0 < d) :
    (Rounding.halfUp.div n d : Int) = ⌊(n : Rat) / d + 1 / 2⌋ := by
  have hd' : (d : Rat) ≠ 0 := by exact_mod_cast hd.ne'
  have hquotient : (n : Rat) / d + 1 / 2 = ((2 * n + d : Nat) : Rat) / ((2 * d : Nat) : Rat) := by
    push_cast
    field_simp
  rw [Rounding.halfUp_div n hd, hquotient, Rat.floor_natCast_div_natCast]
  rfl

/-! ### Rounding to a place -/

/-- The magnitude of a number. -/
theorem abs_toRat (neg : Bool) (coeff : Nat) (exp : Int) :
    |(finite neg coeff exp).toRat| = coeff * (10 : Rat) ^ exp := by
  have hvalue : (0 : Rat) ≤ coeff * 10 ^ exp :=
    mul_nonneg (Nat.cast_nonneg _) (zpow_pos (by decide) exp).le
  cases neg with
  | false =>
      rw [toRat, if_neg Bool.false_ne_true, one_mul]
      exact abs_of_nonneg hvalue
  | true =>
      rw [toRat, if_pos rfl, neg_one_mul, neg_mul, abs_neg]
      exact abs_of_nonneg hvalue

/-- Rescaling half up in terms of the value. -/
theorem rescale_eq_floor (coeff : Nat) (exp exp' : Int) :
    (rescale .halfUp coeff exp exp' : Int) =
      ⌊(coeff : Rat) * 10 ^ exp / 10 ^ exp' + 1 / 2⌋ := by
  have hunit : (10 : Rat) ^ min exp exp' ≠ 0 := zpow_ne_zero _ (by decide)
  rw [rescale_eq_div .halfUp (min_le_left exp exp') (min_le_right exp exp') rfl,
    halfUp_div_eq_floor _ (Nat.pow_pos (by decide)), pow_split (min_le_left exp exp'),
    pow_split (min_le_right exp exp'), ← mul_assoc, mul_div_mul_right _ _ hunit]
  push_cast
  rfl

/-- What the digits in front say already: a number with too many of them does not fit. -/
theorem pow_le_rescale {prec coeff : Nat} {exp exp' : Int} (hcoeff : coeff ≠ 0)
    (h : (prec : Int) < adjusted coeff exp + 1 - exp') :
    10 ^ prec ≤ rescale .halfUp coeff exp exp' := by
  have hdigits := one_le_numDigits coeff
  have hleading : 10 ^ (numDigits coeff - 1) ≤ coeff := by
    rcases Nat.eq_zero_or_pos (numDigits coeff - 1) with hzero | hpos
    · rw [hzero]
      exact Nat.pos_of_ne_zero hcoeff
    · exact pow_le_of_lt_numDigits hpos (by omega)
  have hvalue : (10 : Rat) ^ (exp' + prec) ≤ coeff * 10 ^ exp := by
    rw [adjusted] at h
    calc (10 : Rat) ^ (exp' + prec) ≤ 10 ^ (exp + (numDigits coeff - 1 : Nat)) :=
          zpow_le_zpow_right₀ (by norm_num) (by omega)
      _ ≤ coeff * 10 ^ exp := by
          rw [pow_le_value_iff (by omega), add_sub_cancel_left, Int.toNat_natCast]
          exact hleading
  have hfloor : ((10 ^ prec : Nat) : Int) ≤ rescale .halfUp coeff exp exp' := by
    rw [rescale_eq_floor, Int.le_floor]
    have hquotient : (10 : Rat) ^ prec ≤ coeff * 10 ^ exp / 10 ^ exp' := by
      rw [le_div_iff₀ (zpow_pos (by decide) exp'), ← zpow_natCast, ← zpow_add₀ (by decide),
        Int.add_comm]
      exact hvalue
    push_cast
    linarith
  exact_mod_cast hfloor

/-- **A number is rounded to a place exactly if what it is rounded to fits in the context.** -/
theorem quantize_ok_iff {ctx : DecimalContext} (hprec : 1 ≤ ctx.prec) {exp : Int} (neg : Bool)
    (coeff : Nat) (exp' : Int) :
    (∃ d, (finite neg coeff exp').quantize ctx .halfUp exp = .ok d) ↔
      |(finite neg coeff exp').toRat| / 10 ^ exp + 1 / 2 < 10 ^ ctx.prec := by
  have hfits : rescale .halfUp coeff exp' exp < 10 ^ ctx.prec ↔
      |(finite neg coeff exp').toRat| / 10 ^ exp + 1 / 2 < 10 ^ ctx.prec := by
    rw [abs_toRat, ← Int.ofNat_lt, rescale_eq_floor, Int.floor_lt]
    push_cast
    rfl
  rw [← hfits]
  have hnone : checkNans ctx [.finite neg coeff exp'] = none := rfl
  simp only [quantize, hnone]
  rcases Nat.eq_zero_or_pos coeff with hzero | hpos
  · have hrescale : rescale .halfUp coeff exp' exp = 0 := by
      rw [hzero]
      simp [rescale, Rounding.div]
    rw [if_pos hzero, hrescale]
    exact iff_of_true ⟨_, rfl⟩ (Nat.pow_pos (by decide))
  · rw [if_neg hpos.ne']
    split
    · next hlong => exact iff_of_false (Except.not_exists_error_eq_ok _) (pow_le_rescale hpos.ne' hlong).not_gt
    · split
      · next hdigits =>
          refine iff_of_false (Except.not_exists_error_eq_ok _) fun hlt => ?_
          exact absurd (numDigits_le_of_lt hprec hlt) (Nat.not_le_of_lt hdigits)
      · next hdigits =>
          exact iff_of_true ⟨_, rfl⟩ (lt_of_numDigits_le (Nat.le_of_not_lt hdigits))

/-- All that rounding to a place raises is `InvalidOperation`. -/
theorem kind_of_quantize {ctx : DecimalContext} {mode : Rounding} {exp : Int} {d : PyDecimal}
    {e : PyError} (h : d.quantize ctx mode exp = .error e) : e.kind = .invalidOperation := by
  cases d with
  | infinity neg =>
      cases h
      rfl
  | nan neg signaling payload =>
      cases signaling <;> cases h
      rfl
  | finite neg coeff exp' =>
      have hnone : checkNans ctx [.finite neg coeff exp'] = none := rfl
      simp only [quantize, hnone] at h
      split_ifs at h <;> cases h <;> rfl

end PyDecimal

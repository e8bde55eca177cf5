import Vrl.Core.Recalculation
import Vrl.Lib.DecimalRounding

/-!
# Vrl.Core.EngineArithmetic

The amounts of a calculation in whole cents.

`dutyCents` and its like compute on natural numbers what the engine computes on decimals:
products are rounded to the digits of the context and then to cents, sums are exact. Whatever
the engine answers are these numbers (**`areCents_of_calculation`**); in particular the
extended customs value and the landed cost are never rounded, since a value of too many digits
is refused by `money`.
-/

open PyDecimal

namespace PyDecimal

/-- The digits of a number. -/
def coefficient : PyDecimal → Nat
  | .finite _ coeff _ => coeff
  | _ => 0

/-- The digits of a number that are behind its point. -/
def places : PyDecimal → Nat
  | .finite _ _ exp => (-exp).toNat
  | _ => 0

variable {prec n : Nat}

/-- A value with no more than the significant digits has not been rounded. -/
theorem significant_eq_self (hprec : 1 ≤ prec) (h : numDigits (significant prec n) ≤ prec) :
    significant prec n = n := by
  refine significant_of_le (Nat.le_of_not_lt fun hlong => ?_)
  have hlow := pow_le_significant hprec (pow_le_of_lt_numDigits hprec hlong)
  exact absurd (lt_of_numDigits_le h) (Nat.not_lt_of_le hlow)

end PyDecimal

namespace Vrl

/-! ### Units of the server's context -/

theorem hasUnit_context {unit : Int} (hlow : -1000 ≤ unit) (hhigh : unit ≤ 1000) :
    HasUnit context unit where
  prec := by decide
  etiny := by
    have hetiny : context.etiny = -1000026 := rfl
    omega
  emax := by
    have hemax : context.emax = 999999 := rfl
    omega

/-- An amount of so many cents. -/
def IsCents (cents : Nat) (d : PyDecimal) : Prop :=
  ∃ neg, d = .finite neg cents (-2) ∧ (neg = true → cents = 0)

theorem IsCents.units {cents : Nat} {d : PyDecimal} (h : IsCents cents d) :
    IsUnits (-2) cents d := by
  obtain ⟨neg, rfl, hsign⟩ := h
  exact .intro le_rfl (by simp) hsign

theorem IsCents.numDigits_le {cents : Nat} {d : PyDecimal} (h : IsCents cents d)
    (hmoney : IsMoney d) : numDigits cents ≤ 28 := by
  obtain ⟨neg, rfl, -⟩ := h
  obtain ⟨_, _, heq, hdigits⟩ := hmoney
  cases heq
  exact hdigits

theorem IsCents.toRat {cents : Nat} {d : PyDecimal} (h : IsCents cents d) :
    d.toRat = cents / 100 := by
  rw [toRat_units h.units]
  norm_num [div_eq_mul_inv]

/-- An amount that is not negative. -/
theorem isCents_charge (d : Amount isNonNegative) : IsCents d.1.coefficient d.1 := by
  obtain ⟨d, ⟨neg, cents, rfl, hdigits⟩, hcheck⟩ := d
  refine ⟨neg, rfl, ?_⟩
  rintro rfl
  simpa [isNonNegative, lt, PyDecimal.ofInt, signed, coefficient] using hcheck

/-- A positive amount. -/
theorem isCents_customsValue (d : Amount isPositive) : IsCents d.1.coefficient d.1 := by
  obtain ⟨d, ⟨neg, cents, rfl, hdigits⟩, hcheck⟩ := d
  refine ⟨neg, rfl, ?_⟩
  rintro rfl
  exfalso
  simp [isPositive, lt, PyDecimal.ofInt, signed] at hcheck
  omega

/-! ### Operations -/

/-- **What `money` makes of a number of units.** -/
theorem money_units {unit : Int} {n : Nat} {d m : PyDecimal} (hunit : unit ≤ -2)
    (hd : IsUnits unit n d) (h : money (.decimal d) = .ok m) :
    IsCents (Rounding.halfUp.div n (10 ^ (-2 - unit).toNat)) m ∧
      numDigits (Rounding.halfUp.div n (10 ^ (-2 - unit).toNat)) ≤ 28 := by
  obtain ⟨neg, rfl, hsign, hdigits⟩ := quantize_units (by decide) hunit hd h
  refine ⟨⟨neg, rfl, fun hneg => ?_⟩, hdigits⟩
  have hzero := Rounding.halfUp.div_mul_cancel 0 (Nat.pow_pos (n := (-2 - unit).toNat)
    (show 0 < 10 by decide))
  rw [Nat.zero_mul] at hzero
  rw [hsign hneg, hzero]

/-- The product of an amount and a rate, in cents: rounded to the digits of the context, and
then half up. -/
def productCents (cents : Nat) (rate : PyDecimal) : Nat :=
  Rounding.halfUp.div (significant context.prec (cents * rate.coefficient)) (10 ^ rate.places)

/-- A rate that is not negative, with at most six places. -/
def IsRate (d : PyDecimal) : Prop :=
  ∃ coeff exp, d = .finite false coeff exp ∧ -6 ≤ exp ∧ exp ≤ 0 ∧ coeff < 10 ^ (-exp).toNat

theorem product_units {a rate d : PyDecimal} {cents : Nat} (ha : IsUnits (-2) cents a)
    (hrate : IsRate rate) (h : a.mul context rate = .ok d) :
    IsUnits (-2 - rate.places) (significant context.prec (cents * rate.coefficient)) d := by
  obtain ⟨coeff, exp, rfl, hlow, hhigh, -⟩ := hrate
  have hrateUnits : IsUnits exp coeff (.finite false coeff exp) :=
    .intro le_rfl (by simp) fun hneg => absurd hneg (by decide)
  have hplaces : (-2 : Int) - places (.finite false coeff exp) = -2 + exp := by
    simp only [places]
    omega
  rw [hplaces]
  exact mul_units (hasUnit_context (by omega) (by omega)) ha hrateUnits h

/-- **A product of an amount and a rate.** -/
theorem isCents_moneyProduct {a rate m : PyDecimal} {cents : Nat} (ha : IsUnits (-2) cents a)
    (hrate : IsRate rate) (h : moneyProduct a rate = .ok m) :
    IsCents (productCents cents rate) m ∧ numDigits (productCents cents rate) ≤ 28 := by
  obtain ⟨product, hproduct, h⟩ := Except.bind_eq_ok_iff.mp h
  have hcents := money_units (by omega) (product_units ha hrate hproduct) h
  have hplaces : (-2 - (-2 - (rate.places : Int))).toNat = rate.places := by omega
  rwa [hplaces] at hcents

/-- **A product with a quantity is exact.** -/
theorem isCents_extended {a m : PyDecimal} {cents : Nat} {i : Int} (ha : IsUnits (-2) cents a)
    (hi : 0 ≤ i) (h : moneyProduct a (.ofInt i) = .ok m) :
    IsCents (cents * i.toNat) m ∧ numDigits (cents * i.toNat) ≤ 28 := by
  obtain ⟨product, hproduct, h⟩ := Except.bind_eq_ok_iff.mp h
  have hquantity : IsUnits 0 i.toNat (.ofInt i) := by
    refine .intro le_rfl ?_ fun hneg => ?_
    · rw [Int.sub_self, Int.toNat_zero, Nat.pow_zero, Nat.mul_one]
      omega
    · exact absurd (of_decide_eq_true hneg) (not_lt.mpr hi)
  have hunits := mul_units (hasUnit_context (by decide) (by decide)) ha hquantity hproduct
  have hcents := money_units (by decide) hunits h
  have hexp : (-2 - (-2 + 0 : Int)).toNat = 0 := rfl
  rw [hexp, Nat.pow_zero, Rounding.div_one] at hcents
  have hexact : significant context.prec (cents * i.toNat) = cents * i.toNat :=
    significant_eq_self (by decide) hcents.2
  rwa [hexact] at hcents

/-- A sum with no more than the digits of the context is exact, and so are all the sums on the
way to it. -/
theorem sumFrom_units {start total : PyDecimal} {n : Nat} {summands : List PyDecimal}
    {ms : List Nat} (hstart : IsUnits (-2) n start)
    (hsummands : List.Forall₂ (IsUnits (-2)) ms summands)
    (h : sumFrom start summands = .ok total) :
    ∃ m, IsUnits (-2) m total ∧ (numDigits m ≤ 28 → m = n + ms.sum) := by
  induction hsummands generalizing start n with
  | nil =>
      cases h
      exact ⟨n, hstart, fun _ => rfl⟩
  | @cons m d ms summands hd _ ih =>
      obtain ⟨sum, hsum, h⟩ := Except.bind_eq_ok_iff.mp h
      have hunits := add_units (hasUnit_context (by decide) (by decide)) hstart hd hsum
      obtain ⟨k, htotal, hexact⟩ := ih hunits h
      refine ⟨k, htotal, fun hk => ?_⟩
      have hsplit := hexact hk
      -- the sum so far is at most the total, so it has no more digits
      have hpartial : numDigits (significant context.prec (n + m)) ≤ 28 :=
        (numDigits_mono (by omega)).trans hk
      rw [hsplit, significant_eq_self (by decide) hpartial, List.sum_cons, Nat.add_assoc]

/-- **What `clamp_money` makes of a number of units** between amounts. -/
theorem isCents_clampMoney {unit : Int} {n low high : Nat} {d lowest highest m : PyDecimal}
    (hunit : unit ≤ -2) (hd : IsUnits unit n d) (hlow : IsCents low lowest)
    (hlowMoney : IsMoney lowest) (hhigh : IsCents high highest) (hhighMoney : IsMoney highest)
    (hle : low ≤ high)
    (h : clampMoney (.decimal d) (some (.decimal lowest)) (some (.decimal highest)) = .ok m) :
    IsCents (max low (min high (Rounding.halfUp.div n (10 ^ (-2 - unit).toNat)))) m := by
  simp only [clampMoney, money_of_isMoney hlowMoney, money_of_isMoney hhighMoney, Except.ok_bind,
    Except.bind_eq_ok_iff] at h
  obtain ⟨amount, hamount, isLess, hless, h⟩ := h
  have hcents := (money_units hunit hd hamount).1
  generalize Rounding.halfUp.div n (10 ^ (-2 - unit).toNat) = cents at hcents ⊢
  rw [lt_units hcents.units hlow.units] at hless
  cases hless
  split at h
  · next hbelow =>
      have hbelow := of_decide_eq_true hbelow
      cases h
      rwa [max_eq_left (by omega)]
  · next hnot =>
      rw [lt_units hhigh.units hcents.units, Except.bind_eq_ok_iff] at h
      obtain ⟨isMore, hmore, h⟩ := h
      cases hmore
      simp only [decide_eq_true_eq] at hnot h
      split at h
      · cases h
        rwa [min_eq_left (by omega), max_eq_right hle]
      · cases h
        rwa [min_eq_right (by omega), max_eq_right (by omega)]

/-! ### Calculations -/

variable (r : ImportCalculationRequest) (rule : TariffRule)

/-- The extended customs value. -/
def extendedCents : Nat := r.customsValue.1.coefficient * r.quantity.1.toNat

/-- The duty. -/
def dutyCents : Nat := productCents (extendedCents r) rule.dutyRate

/-- The additional duty, for the listed countries of origin. -/
def section301Cents : Nat :=
  if rule.section301OriginCountries.contains r.countryOfOrigin then
    productCents (extendedCents r) rule.section301Rate
  else 0

/-- The merchandise processing fee, between its bounds. -/
def mpfCents : Nat :=
  max mpfMin.coefficient (min mpfMax.coefficient (productCents (extendedCents r) mpfRate))

/-- The harbour maintenance fee, for what comes by sea. -/
def hmfCents : Nat :=
  if r.shippingMode = .ocean then productCents (extendedCents r) hmfRate else 0

/-- The landed cost. -/
def landedCents : Nat :=
  extendedCents r + [r.freight.1.coefficient, r.insurance.1.coefficient, dutyCents r rule,
    section301Cents r rule, mpfCents r, hmfCents r].sum

/-- The amounts of a calculation, in cents. -/
structure Amounts.AreCents (amounts : Amounts) : Prop where
  extendedCustomsValue : IsCents (extendedCents r) amounts.extendedCustomsValue
  dutyAmount : IsCents (dutyCents r rule) amounts.dutyAmount
  section301Amount : IsCents (section301Cents r rule) amounts.section301Amount
  mpfAmount : IsCents (mpfCents r) amounts.mpfAmount
  hmfAmount : IsCents (hmfCents r) amounts.hmfAmount
  landedCost : IsCents (landedCents r rule) amounts.landedCost

variable {r rule}

theorem isRate_rates (hrule : rule ∈ tariffRules) :
    IsRate rule.dutyRate ∧ IsRate rule.section301Rate := by
  simp only [tariffRules, List.mem_cons, List.not_mem_nil, or_false] at hrule
  rcases hrule with rfl | rfl | rfl | rfl | rfl | rfl <;>
    exact ⟨⟨_, _, rfl, by decide, by decide, by decide⟩, _, _, rfl, by decide, by decide, by decide⟩

theorem isRate_fees : IsRate mpfRate ∧ IsRate hmfRate :=
  ⟨⟨_, _, rfl, by decide, by decide, by decide⟩, _, _, rfl, by decide, by decide, by decide⟩

/-- **The merchandise processing fee.** -/
theorem isCents_mpf {extended product m : PyDecimal} {cents : Nat} (hextended : IsCents cents extended)
    (hproduct : extended.mul context mpfRate = .ok product)
    (h : clampMoney (.decimal product) (some (.decimal mpfMin)) (some (.decimal mpfMax)) = .ok m) :
    IsCents (max mpfMin.coefficient (min mpfMax.coefficient (productCents cents mpfRate))) m := by
  have hsign : ∀ n : Nat, false = true → n = 0 := fun n h => absurd h (by decide)
  have hlow : IsCents mpfMin.coefficient mpfMin := ⟨false, rfl, hsign _⟩
  have hhigh : IsCents mpfMax.coefficient mpfMax := ⟨false, rfl, hsign _⟩
  have hlowMoney : IsMoney mpfMin := ⟨false, 3271, rfl, by decide⟩
  have hhighMoney : IsMoney mpfMax := ⟨false, 63462, rfl, by decide⟩
  have hcents := isCents_clampMoney (by omega) (product_units hextended.units isRate_fees.1 hproduct)
    hlow hlowMoney hhigh hhighMoney (by decide) h
  have hplaces : (-2 - (-2 - (mpfRate.places : Int))).toNat = mpfRate.places := by omega
  rwa [hplaces] at hcents

theorem isCents_zero {m : PyDecimal} (h : money (.str "0") = .ok m) : IsCents 0 m := by
  have hzero : money (.str "0") = .ok (.finite false 0 (-2)) := by decide +kernel
  rw [hzero] at h
  cases h
  exact ⟨false, rfl, fun h => absurd h (by decide)⟩

/-- **The engine computes these amounts.** -/
theorem areCents_of_computeAmounts (hrule : rule ∈ tariffRules) {amounts : Amounts}
    (h : computeAmounts r rule = .ok amounts) : amounts.AreCents r rule := by
  obtain ⟨hdutyRate, h301Rate⟩ := isRate_rates hrule
  obtain ⟨-, hhmfRate⟩ := isRate_fees
  obtain ⟨extended, hextended, h⟩ := Except.bind_eq_ok_iff.mp h
  obtain ⟨duty, hduty, h⟩ := Except.bind_eq_ok_iff.mp h
  obtain ⟨s301, hs301, h⟩ := Except.ite_bind_eq_ok h
  obtain ⟨mpfRaw, hmpfRaw, h⟩ := Except.bind_eq_ok_iff.mp h
  obtain ⟨mpf, hmpf, h⟩ := Except.bind_eq_ok_iff.mp h
  obtain ⟨hmf, hhmf, h⟩ := Except.ite_bind_eq_ok h
  obtain ⟨sum, hsum, h⟩ := Except.bind_eq_ok_iff.mp h
  obtain ⟨landed, hlanded, h⟩ := Except.bind_eq_ok_iff.mp h
  cases h
  have hquantity : 0 ≤ r.quantity.1 := (by decide : (0 : Int) ≤ 1).trans r.quantity.2.1
  have hvalue := (isCents_extended (isCents_customsValue r.customsValue).units hquantity
    hextended).1
  have hdutyCents := (isCents_moneyProduct hvalue.units hdutyRate hduty).1
  have h301Cents : IsCents (section301Cents r rule) s301 := by
    unfold section301Cents
    split at hs301
    · next hlisted =>
        rw [if_pos hlisted]
        exact (isCents_moneyProduct hvalue.units h301Rate hs301).1
    · next hlisted =>
        rw [if_neg hlisted]
        exact isCents_zero hs301
  have hmpfCents : IsCents (mpfCents r) mpf := isCents_mpf hvalue hmpfRaw hmpf
  have hhmfCents : IsCents (hmfCents r) hmf := by
    unfold hmfCents
    split at hhmf
    · next hocean =>
        rw [if_pos hocean]
        exact (isCents_moneyProduct hvalue.units hhmfRate hhmf).1
    · next hocean =>
        rw [if_neg hocean]
        exact isCents_zero hhmf
  have hsummands : List.Forall₂ (IsUnits (-2)) [r.freight.1.coefficient,
      r.insurance.1.coefficient, dutyCents r rule, section301Cents r rule, mpfCents r, hmfCents r]
      [r.freight.1, r.insurance.1, duty, s301, mpf, hmf] :=
    .cons (isCents_charge r.freight).units (.cons (isCents_charge r.insurance).units
      (.cons hdutyCents.units (.cons h301Cents.units (.cons hmpfCents.units
        (.cons hhmfCents.units .nil)))))
  obtain ⟨total, htotal, hexact⟩ := sumFrom_units hvalue.units hsummands hsum
  obtain ⟨hlandedCents, hdigits⟩ := money_units le_rfl htotal hlanded
  have hexp : (-2 - (-2) : Int).toNat = 0 := rfl
  rw [hexp, Nat.pow_zero, Rounding.div_one] at hlandedCents hdigits
  rw [hexact hdigits] at hlandedCents
  exact ⟨hvalue, hdutyCents, h301Cents, hmpfCents, hhmfCents, hlandedCents⟩

/-- The amounts of a result are these, next to the charges of the request. -/
structure CalculationResult.InCents (r : ImportCalculationRequest) (rule : TariffRule)
    (result : CalculationResult) : Prop where
  extendedCustomsValue : IsCents (extendedCents r) result.extendedCustomsValue
  freight : IsCents r.freight.1.coefficient result.freight
  insurance : IsCents r.insurance.1.coefficient result.insurance
  dutyAmount : IsCents (dutyCents r rule) result.dutyAmount
  section301Amount : IsCents (section301Cents r rule) result.section301Amount
  mpfAmount : IsCents (mpfCents r) result.mpfAmount
  hmfAmount : IsCents (hmfCents r) result.hmfAmount
  landedCost : IsCents (landedCents r rule) result.landedCost

/-- **Every response of the engine has these amounts.** -/
theorem inCents_of_calculate {std : PyStd} {payload : PyVal}
    (hvalid : ImportCalculationRequest.modelValidate std payload = .ok r)
    {response : CalculationResponse} (h : calculateImportLandedCost std r = .ok response)
    (hrule : lookupTariffRule std r.hsCode = .ok rule) : response.result.InCents r rule := by
  rw [lookupTariffRule_eq_ok] at hrule
  obtain ⟨hrule', hamounts, -, -, hresult, -⟩ :=
    (calculate_eq_ok_iff (isCanonical_of_calculate hvalid h)).mp h
  rw [hrule] at hrule'
  cases hrule'
  obtain ⟨hextended, hduty, h301, hmpf, hhmf, hlanded⟩ :=
    areCents_of_computeAmounts (List.mem_of_find?_eq_some hrule) hamounts
  simp only [buildResult, money_of_isMoney r.customsValue.2.1, money_of_isMoney r.freight.2.1,
    money_of_isMoney r.insurance.2.1, Except.ok_bind, Except.bind_eq_ok_iff] at hresult
  obtain ⟨_, -, _, -, hresult⟩ := hresult
  cases hresult
  exact ⟨hextended, isCents_charge r.freight, isCents_charge r.insurance, hduty, h301, hmpf, hhmf,
    hlanded⟩

/-- An answered request has a rule. -/
theorem exists_rule_of_calculate {std : PyStd} {payload : PyVal}
    (hvalid : ImportCalculationRequest.modelValidate std payload = .ok r)
    {response : CalculationResponse} (h : calculateImportLandedCost std r = .ok response) :
    ∃ rule, lookupTariffRule std r.hsCode = .ok rule := by
  obtain ⟨hrule, -, -, -, -, -⟩ :=
    (calculate_eq_ok_iff (isCanonical_of_calculate hvalid h)).mp h
  exact ⟨_, (lookupTariffRule_eq_ok std).mpr hrule⟩

end Vrl

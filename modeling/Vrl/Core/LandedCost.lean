import Vrl.Core.EngineArithmetic

/-!
# Vrl.Core.LandedCost

What the amounts of a response are worth: as rational numbers, against the products that
they stand for (**`result_exact_iff`**), and for two requests against each other
(**`landedCost_mono`**).

The engine rounds a product to the 28 digits of its context before it rounds it to cents. For
a product of more digits that is a second rounding, which makes a difference where the first
one reaches half a cent.
-/

open PyDecimal

namespace Vrl

variable {std : PyStd}

/-! ### Exactness -/

/-- A value that is not negative, rounded half up to cents. -/
def toCents (q : Rat) : Rat := (⌊q * 100 + 1 / 2⌋ : Int) / 100

/-- Every fee is its exact product rounded once, and the landed cost is the exact sum. -/
structure CalculationResult.IsExact (r : ImportCalculationRequest) (rule : TariffRule)
    (result : CalculationResult) : Prop where
  dutyAmount : result.dutyAmount.toRat =
    toCents (result.extendedCustomsValue.toRat * rule.dutyRate.toRat)
  section301Amount : result.section301Amount.toRat =
    if rule.section301OriginCountries.contains r.countryOfOrigin then
      toCents (result.extendedCustomsValue.toRat * rule.section301Rate.toRat)
    else 0
  mpfAmount : result.mpfAmount.toRat =
    max mpfMin.toRat (min mpfMax.toRat (toCents (result.extendedCustomsValue.toRat *
      mpfRate.toRat)))
  hmfAmount : result.hmfAmount.toRat =
    if r.shippingMode = .ocean then toCents (result.extendedCustomsValue.toRat * hmfRate.toRat)
    else 0
  landedCost : result.landedCost.toRat =
    result.extendedCustomsValue.toRat + result.freight.toRat + result.insurance.toRat +
      result.dutyAmount.toRat + result.section301Amount.toRat + result.mpfAmount.toRat +
      result.hmfAmount.toRat

/-- The product of the extended customs value and a rate, in units of its own last place, is
not one that two roundings make a difference for. -/
def RoundsOnce (r : ImportCalculationRequest) (rate : PyDecimal) : Prop :=
  ¬ RoundsTwice context.prec rate.places (extendedCents r * rate.coefficient)

instance (r : ImportCalculationRequest) (rate : PyDecimal) : Decidable (RoundsOnce r rate) := by
  unfold RoundsOnce
  infer_instance

/-- The products that the engine takes for a request are rounded once. -/
structure ImportCalculationRequest.RoundsOnce (r : ImportCalculationRequest) (rule : TariffRule) :
    Prop where
  duty : Vrl.RoundsOnce r rule.dutyRate
  section301 : rule.section301OriginCountries.contains r.countryOfOrigin →
    Vrl.RoundsOnce r rule.section301Rate
  hmf : r.shippingMode = .ocean → Vrl.RoundsOnce r hmfRate

/-- The exact product in cents, half up. -/
theorem toCents_mul {a rate : PyDecimal} {cents : Nat} (ha : IsCents cents a)
    (hrate : IsRate rate) : toCents (a.toRat * rate.toRat) =
      (Rounding.halfUp.div (cents * rate.coefficient) (10 ^ rate.places) : Nat) / 100 := by
  obtain ⟨coeff, exp, rfl, -, hhigh, -⟩ := hrate
  have hvalue : toRat (.finite false coeff exp) = coeff / ((10 ^ (-exp).toNat : Nat) : Rat) := by
    have hexp : exp = -((-exp).toNat : Int) := by omega
    have hpow : (10 : Rat) ^ exp = ((10 : Rat) ^ (-exp).toNat)⁻¹ := by
      conv_lhs => rw [hexp, zpow_neg, zpow_natCast]
    rw [toRat, hpow, div_eq_mul_inv, Nat.cast_pow]
    simp
  have hproduct : a.toRat * toRat (.finite false coeff exp) * 100 =
      ((cents * coeff : Nat) : Rat) / ((10 ^ (-exp).toNat : Nat) : Rat) := by
    rw [ha.toRat, hvalue]
    push_cast
    ring
  have hfloor := halfUp_div_eq_floor (cents * coeff) (Nat.pow_pos (n := (-exp).toNat)
    (show 0 < 10 by decide))
  rw [toCents, hproduct, ← hfloor]
  rfl

/-- A fee is exact exactly if its product is rounded once. -/
theorem product_exact_iff {r : ImportCalculationRequest} {a rate m : PyDecimal}
    (ha : IsCents (extendedCents r) a) (hdigits : numDigits (extendedCents r) ≤ 28)
    (hrate : IsRate rate) (hm : IsCents (productCents (extendedCents r) rate) m) :
    m.toRat = toCents (a.toRat * rate.toRat) ↔ RoundsOnce r rate := by
  have hsize : numDigits (extendedCents r * rate.coefficient) ≤ context.prec + rate.places := by
    obtain ⟨coeff, exp, rfl, -, -, hcoeff⟩ := hrate
    refine numDigits_le_of_lt ?_ ?_
    · exact Nat.le_add_right_of_le (by decide)
    · rw [Nat.pow_add]
      exact Nat.mul_lt_mul_of_lt_of_le (lt_of_numDigits_le hdigits) hcoeff.le
        (Nat.pow_pos (by decide))
  rw [hm.toRat, toCents_mul ha hrate, RoundsOnce, ← div_significant_eq_iff hsize,
    div_left_inj' (by norm_num), Nat.cast_inj]
  rfl

/-- A fee that is only due under a condition. -/
theorem listed_exact_iff {r : ImportCalculationRequest} {a rate m : PyDecimal} {due : Prop}
    [Decidable due] (ha : IsCents (extendedCents r) a) (hdigits : numDigits (extendedCents r) ≤ 28)
    (hrate : IsRate rate)
    (hm : IsCents (if due then productCents (extendedCents r) rate else 0) m) :
    m.toRat = (if due then toCents (a.toRat * rate.toRat) else 0) ↔ (due → RoundsOnce r rate) := by
  by_cases hdue : due
  · rw [if_pos hdue] at hm ⊢
    rw [product_exact_iff ha hdigits hrate hm, forall_prop_of_true hdue]
  · rw [if_neg hdue] at hm ⊢
    rw [hm.toRat]
    exact iff_of_true (by simp) fun h => absurd h hdue

/-- The clamp hides the second rounding: it only happens far above the upper bound. -/
theorem clamped_product (cents : Nat) :
    min mpfMax.coefficient (productCents cents mpfRate) = min mpfMax.coefficient
      (Rounding.halfUp.div (cents * mpfRate.coefficient) (10 ^ mpfRate.places)) := by
  rcases Nat.lt_or_ge 28 (numDigits (cents * mpfRate.coefficient)) with hlong | hshort
  · have hlarge : 10 ^ 28 ≤ cents * mpfRate.coefficient :=
      pow_le_of_lt_numDigits (by decide) hlong
    have hkept : 10 ^ 28 ≤ significant context.prec (cents * mpfRate.coefficient) :=
      pow_le_significant (by decide) hlarge
    have habove : ∀ n : Nat, 10 ^ 28 ≤ n →
        mpfMax.coefficient ≤ Rounding.halfUp.div n (10 ^ mpfRate.places) := by
      intro n hn
      have hbound : mpfMax.coefficient ≤ Rounding.halfUp.div (10 ^ 28) (10 ^ mpfRate.places) := by
        decide +kernel
      exact hbound.trans (Rounding.div_mono _ _ hn)
    rw [productCents, min_eq_left (habove _ hkept), min_eq_left (habove _ hlarge)]
  · have hexact : significant context.prec (cents * mpfRate.coefficient) =
        cents * mpfRate.coefficient := significant_of_le hshort
    rw [productCents, hexact]

/-- The merchandise processing fee is always exact. -/
theorem mpf_exact {r : ImportCalculationRequest} {a m : PyDecimal}
    (ha : IsCents (extendedCents r) a) (hm : IsCents (mpfCents r) m) :
    m.toRat = max mpfMin.toRat (min mpfMax.toRat (toCents (a.toRat * mpfRate.toRat))) := by
  have hsign : ∀ n : Nat, false = true → n = 0 := fun n h => absurd h (by decide)
  have hlow : IsCents mpfMin.coefficient mpfMin := ⟨false, rfl, hsign _⟩
  have hhigh : IsCents mpfMax.coefficient mpfMax := ⟨false, rfl, hsign _⟩
  have hscale : ∀ x y : Nat, ((max x y : Nat) : Rat) / 100 = max (x / 100 : Rat) (y / 100) ∧
      ((min x y : Nat) : Rat) / 100 = min (x / 100 : Rat) (y / 100) := by
    intro x y
    rw [Nat.cast_max, Nat.cast_min]
    exact ⟨(max_div_div_right (by norm_num) _ _).symm, (min_div_div_right (by norm_num) _ _).symm⟩
  rw [hm.toRat, mpfCents, clamped_product, (hscale _ _).1, (hscale _ _).2,
    toCents_mul ha isRate_fees.1, hlow.toRat, hhigh.toRat]

/-- **The result is exact if and only if every product of the request is rounded once.** -/
theorem result_exact_iff {payload : PyVal} {r : ImportCalculationRequest}
    (hvalid : ImportCalculationRequest.modelValidate std payload = .ok r)
    {response : CalculationResponse} (h : calculateImportLandedCost std r = .ok response)
    {rule : TariffRule} (hrule : lookupTariffRule std r.hsCode = .ok rule) :
    response.result.IsExact r rule ↔ r.RoundsOnce rule := by
  have hcents := inCents_of_calculate hvalid h hrule
  have hfixed := isFixed_of_calculation
    ((calculate_eq_ok_iff (isCanonical_of_calculate hvalid h)).mp h)
  have hdigits := hcents.extendedCustomsValue.numDigits_le hfixed.extendedCustomsValue
  obtain ⟨hdutyRate, h301Rate⟩ :=
    isRate_rates (List.mem_of_find?_eq_some ((lookupTariffRule_eq_ok std).mp hrule))
  have hduty := product_exact_iff hcents.extendedCustomsValue hdigits hdutyRate hcents.dutyAmount
  have h301 := listed_exact_iff hcents.extendedCustomsValue hdigits h301Rate hcents.section301Amount
  have hhmf := listed_exact_iff hcents.extendedCustomsValue hdigits isRate_fees.2 hcents.hmfAmount
  constructor
  · intro ⟨hd, hs, _, hh, _⟩
    exact ⟨hduty.mp hd, h301.mp hs, hhmf.mp hh⟩
  · intro ⟨hd, hs, hh⟩
    refine ⟨hduty.mpr hd, h301.mpr hs, mpf_exact hcents.extendedCustomsValue hcents.mpfAmount,
      hhmf.mpr hh, ?_⟩
    rw [hcents.landedCost.toRat, hcents.extendedCustomsValue.toRat, hcents.freight.toRat,
      hcents.insurance.toRat, hcents.dutyAmount.toRat, hcents.section301Amount.toRat,
      hcents.mpfAmount.toRat, hcents.hmfAmount.toRat, landedCents]
    simp only [List.sum_cons, List.sum_nil]
    push_cast
    ring

/-- The result of the reference request is exact. -/
theorem result_exact_iff_reference : ∃ response rule,
    calculateImportLandedCost lengthStd (referenceRequest "DE") = .ok response ∧
      lookupTariffRule lengthStd (referenceRequest "DE").hsCode = .ok rule ∧
      (response.result.IsExact (referenceRequest "DE") rule ↔
        (referenceRequest "DE").RoundsOnce rule) ∧
      response.result.IsExact (referenceRequest "DE") rule := by
  obtain ⟨hcanonical, response, hresponse, -⟩ := @calculate_reference lengthStd "DE" 269231
    (List.mem_cons_of_mem _ (List.mem_cons_self ..))
  have hvalid := modelValidate_payload lengthStd hcanonical
  obtain ⟨rule, hrule⟩ : ∃ rule, tariffRules.find? (fun rule => "8507600000" == rule.hsPrefix) =
      some rule := ⟨_, rfl⟩
  have hlookup : lookupTariffRule lengthStd (referenceRequest "DE").hsCode = .ok rule :=
    (lookupTariffRule_eq_ok lengthStd).mpr hrule
  have hiff := result_exact_iff hvalid hresponse hlookup
  refine ⟨response, rule, hresponse, hlookup, hiff, hiff.mpr ?_⟩
  cases hrule
  exact ⟨by decide +kernel, fun h => absurd h (by decide), fun _ => by decide +kernel⟩

/-- Accumulators worth 3 * 10^24 dollars and 44 cents, by truck. -/
def largeRequest : ImportCalculationRequest where
  hsCode := "8507600000"
  countryOfOrigin := "DE"
  customsValue := ⟨.finite false 300000000000000000000000044 (-2), ⟨false, _, rfl, by decide⟩,
    by decide⟩
  freight := ⟨.finite false 0 (-2), ⟨false, _, rfl, by decide⟩, by decide⟩
  insurance := ⟨.finite false 0 (-2), ⟨false, _, rfl, by decide⟩, by decide⟩
  quantity := ⟨1, by decide⟩
  shippingMode := .truck

/-- The duty on them is 1.496 cents past a multiple of ten: rounded to 28 digits first, it is
1.5 cents and goes up to two. -/
theorem large_duty_rounded_twice : ∃ r response rule,
    ImportCalculationRequest.modelValidate lengthStd (.dict [("hs_code", .str "8507600000"),
      ("country_of_origin", .str "DE"), ("customs_value", .str "3000000000000000000000000.44"),
      ("freight", .str "0.00"), ("insurance", .str "0.00"), ("quantity", .int 1),
      ("shipping_mode", .str "truck")]) = .ok r ∧
    calculateImportLandedCost lengthStd r = .ok response ∧
    lookupTariffRule lengthStd r.hsCode = .ok rule ∧
    response.result.dutyAmount = .finite false 10200000000000000000000002 (-2) ∧
    toCents (response.result.extendedCustomsValue.toRat * rule.dutyRate.toRat) =
      102000000000000000000000.01 ∧
    ¬ response.result.IsExact r rule := by
  have hcanonical : largeRequest.IsCanonical :=
    ⟨by decide, by decide, by decide, by decide⟩
  obtain ⟨rule, hrule⟩ : ∃ rule, tariffRules.find? (fun rule => "8507600000" == rule.hsPrefix) =
      some rule := ⟨_, rfl⟩
  have hlookup : lookupTariffRule lengthStd largeRequest.hsCode = .ok rule :=
    (lookupTariffRule_eq_ok lengthStd).mpr hrule
  obtain ⟨amounts, hamounts⟩ : ∃ amounts, computeAmounts largeRequest rule = .ok amounts := by
    cases hrule
    exact ⟨⟨.finite false 300000000000000000000000044 (-2),
      .finite false 10200000000000000000000002 (-2), .finite false 0 (-2),
      .finite false 63462 (-2), .finite false 0 (-2),
      .finite false 310200000000000000000063508 (-2)⟩, by decide +kernel⟩
  obtain ⟨response, dataset, hresponse, -⟩ := @calculate_ok lengthStd _ hcanonical _ hrule _ hamounts
  have hvalid := modelValidate_requestMembers lengthStd hcanonical (isAmountForm_text lengthStd)
  have hvalue : String.ofList largeRequest.customsValue.1.text = "3000000000000000000000000.44" := by
    decide +kernel
  have hzero : String.ofList largeRequest.freight.1.text = "0.00" := by decide +kernel
  have hmembers : requestMembers (fun d => .str (String.ofList d.text)) largeRequest =
      [("hs_code", .str "8507600000"), ("country_of_origin", .str "DE"),
        ("customs_value", .str (String.ofList largeRequest.customsValue.1.text)),
        ("freight", .str (String.ofList largeRequest.freight.1.text)),
        ("insurance", .str (String.ofList largeRequest.freight.1.text)), ("quantity", .int 1),
        ("shipping_mode", .str "truck")] := rfl
  rw [hmembers, hvalue, hzero] at hvalid
  have hcents := inCents_of_calculate hvalid hresponse hlookup
  have hduty : dutyCents largeRequest rule = 10200000000000000000000002 := by
    cases hrule
    decide +kernel
  have hexact : toCents (response.result.extendedCustomsValue.toRat * rule.dutyRate.toRat) =
      102000000000000000000000.01 := by
    have hrate := (isRate_rates (List.mem_of_find?_eq_some hrule)).1
    have hproduct : Rounding.halfUp.div (extendedCents largeRequest * rule.dutyRate.coefficient)
        (10 ^ rule.dutyRate.places) = 10200000000000000000000001 := by
      cases hrule
      decide +kernel
    rw [toCents_mul hcents.extendedCustomsValue hrate, hproduct]
    norm_num
  have hamount := hcents.dutyAmount
  rw [hduty] at hamount
  refine ⟨largeRequest, response, rule, hvalid, hresponse, hlookup, ?_, hexact, fun h => ?_⟩
  · obtain ⟨neg, heq, hsign⟩ := hamount
    cases neg with
    | false => exact heq
    | true => exact absurd (hsign rfl) (by decide)
  · have hwrong := h.dutyAmount
    rw [hexact, hamount.toRat] at hwrong
    norm_num at hwrong

/-! ### Monotonicity -/

/-- Two requests for the same goods on the same way, the first of no more than the second. -/
structure ImportCalculationRequest.AtMost (first second : ImportCalculationRequest) : Prop where
  hsCode : first.hsCode = second.hsCode
  countryOfOrigin : first.countryOfOrigin = second.countryOfOrigin
  shippingMode : first.shippingMode = second.shippingMode
  customsValue : first.customsValue.1.toRat ≤ second.customsValue.1.toRat
  quantity : first.quantity.1 ≤ second.quantity.1
  freight : first.freight.1.toRat ≤ second.freight.1.toRat
  insurance : first.insurance.1.toRat ≤ second.insurance.1.toRat

/-- Every amount of the first result is at most that of the second. -/
structure CalculationResult.AtMost (first second : CalculationResult) : Prop where
  extendedCustomsValue : first.extendedCustomsValue.toRat ≤ second.extendedCustomsValue.toRat
  dutyAmount : first.dutyAmount.toRat ≤ second.dutyAmount.toRat
  section301Amount : first.section301Amount.toRat ≤ second.section301Amount.toRat
  mpfAmount : first.mpfAmount.toRat ≤ second.mpfAmount.toRat
  hmfAmount : first.hmfAmount.toRat ≤ second.hmfAmount.toRat
  landedCost : first.landedCost.toRat ≤ second.landedCost.toRat

theorem IsCents.le_iff {m n : Nat} {a b : PyDecimal} (ha : IsCents m a) (hb : IsCents n b) :
    a.toRat ≤ b.toRat ↔ m ≤ n := by
  rw [ha.toRat, hb.toRat, div_le_div_iff_of_pos_right (by norm_num), Nat.cast_le]

/-- **Rounding twice is monotone.** -/
theorem productCents_mono {m n : Nat} (h : m ≤ n) (rate : PyDecimal) :
    productCents m rate ≤ productCents n rate :=
  Rounding.div_mono _ _ (significant_mono (by decide) (Nat.mul_le_mul_right _ h))

section Mono

variable {first second : ImportCalculationRequest} (h : first.AtMost second)
include h

theorem extendedCents_mono : extendedCents first ≤ extendedCents second := by
  have hvalue := ((isCents_customsValue first.customsValue).le_iff
    (isCents_customsValue second.customsValue)).mp h.customsValue
  have hquantity := h.quantity
  exact Nat.mul_le_mul hvalue (by omega)

theorem section301Cents_mono (rule : TariffRule) :
    section301Cents first rule ≤ section301Cents second rule := by
  rw [section301Cents, section301Cents, h.countryOfOrigin]
  split
  · exact productCents_mono (extendedCents_mono h) _
  · exact le_rfl

theorem mpfCents_mono : mpfCents first ≤ mpfCents second :=
  max_le_max le_rfl (min_le_min le_rfl (productCents_mono (extendedCents_mono h) _))

theorem hmfCents_mono : hmfCents first ≤ hmfCents second := by
  rw [hmfCents, hmfCents, h.shippingMode]
  split
  · exact productCents_mono (extendedCents_mono h) _
  · exact le_rfl

theorem landedCents_mono (rule : TariffRule) :
    landedCents first rule ≤ landedCents second rule := by
  have hextended := extendedCents_mono h
  have hfreight := ((isCents_charge first.freight).le_iff (isCents_charge second.freight)).mp
    h.freight
  have hinsurance := ((isCents_charge first.insurance).le_iff
    (isCents_charge second.insurance)).mp h.insurance
  have hduty : dutyCents first rule ≤ dutyCents second rule := productCents_mono hextended _
  have h301 := section301Cents_mono h rule
  have hmpf := mpfCents_mono h
  have hhmf := hmfCents_mono h
  simp only [landedCents, List.sum_cons, List.sum_nil]
  omega

end Mono

/-- **The landed cost and its components are monotone.** -/
theorem landedCost_mono {payload payload' : PyVal} {first second : ImportCalculationRequest}
    (hfirst : ImportCalculationRequest.modelValidate std payload = .ok first)
    (hsecond : ImportCalculationRequest.modelValidate std payload' = .ok second)
    {response response' : CalculationResponse}
    (hresponse : calculateImportLandedCost std first = .ok response)
    (hresponse' : calculateImportLandedCost std second = .ok response')
    (h : first.AtMost second) : response.result.AtMost response'.result := by
  obtain ⟨rule, hrule⟩ := exists_rule_of_calculate hfirst hresponse
  have hcents := inCents_of_calculate hfirst hresponse hrule
  rw [h.hsCode] at hrule
  have hcents' := inCents_of_calculate hsecond hresponse' hrule
  exact ⟨(hcents.extendedCustomsValue.le_iff hcents'.extendedCustomsValue).mpr
      (extendedCents_mono h),
    (hcents.dutyAmount.le_iff hcents'.dutyAmount).mpr (productCents_mono (extendedCents_mono h) _),
    (hcents.section301Amount.le_iff hcents'.section301Amount).mpr (section301Cents_mono h rule),
    (hcents.mpfAmount.le_iff hcents'.mpfAmount).mpr (mpfCents_mono h),
    (hcents.hmfAmount.le_iff hcents'.hmfAmount).mpr (hmfCents_mono h),
    (hcents.landedCost.le_iff hcents'.landedCost).mpr (landedCents_mono h rule)⟩

/-- Three accumulators instead of two. -/
theorem landedCost_mono_reference : ∃ second response response',
    calculateImportLandedCost lengthStd (referenceRequest "DE") = .ok response ∧
      calculateImportLandedCost lengthStd second = .ok response' ∧
      (referenceRequest "DE").AtMost second ∧ second.quantity.1 = 3 ∧
      response.result.AtMost response'.result := by
  obtain ⟨hcanonical, response, hresponse, -⟩ := @calculate_reference lengthStd "DE" 269231
    (List.mem_cons_of_mem _ (List.mem_cons_self ..))
  obtain ⟨second, hsecond⟩ : ∃ second : ImportCalculationRequest,
      second = { referenceRequest "DE" with quantity := ⟨3, by decide⟩ } := ⟨_, rfl⟩
  have hcanonical' : second.IsCanonical := by
    rw [hsecond]
    exact ⟨by decide, by decide, by decide, by decide⟩
  obtain ⟨rule, hrule⟩ : ∃ rule, tariffRules.find? (fun rule => second.hsCode == rule.hsPrefix) =
      some rule := by
    rw [hsecond]
    exact ⟨_, rfl⟩
  obtain ⟨amounts, hamounts⟩ : ∃ amounts, computeAmounts second rule = .ok amounts := by
    rw [hsecond] at hrule ⊢
    cases hrule
    exact ⟨⟨.finite false 360000 (-2), .finite false 12240 (-2), .finite false 0 (-2),
      .finite false 3271 (-2), .finite false 450 (-2), .finite false 393461 (-2)⟩,
      by decide +kernel⟩
  obtain ⟨response', _, hresponse', -⟩ := @calculate_ok lengthStd _ hcanonical' _ hrule _ hamounts
  have hle : (referenceRequest "DE").AtMost second := by
    rw [hsecond]
    exact ⟨rfl, rfl, rfl, le_rfl, by decide, le_rfl, le_rfl⟩
  have hquantity : second.quantity.1 = 3 := by rw [hsecond]
  exact ⟨second, response, response', hresponse, hresponse', hle, hquantity,
    landedCost_mono (modelValidate_payload lengthStd hcanonical)
      (modelValidate_payload lengthStd hcanonical') hresponse hresponse' hle⟩

end Vrl

import Vrl.Zk.AmlWitness

/-!
# Vrl.Zk.DrugDosageWitness

The wire assignment of the drug dosage circuit
(`zk/witness/drug_dosage_witness_generator.py`): five gates that multiply and three that add.

The second gate asks that the clearance times ninety is the renal factor, where the factor has
been computed as a quotient by ninety. Without a wrap around the field that is off by a factor
of 8100 millions; with one it would take a clearance of 10 to the 60th at least, whose fixed
point has no more than 28 digits before its zeros, and none of these is the inverse of ninety
(**`ninety_scaled_ne_one`**). So no patient has a witness (**`drugDosage_never_complete`**).

Numbers are read as exact rationals; how they are written is a parameter.
-/

open PyDecimal TextCodec

namespace Vrl.Zk

/-! ### Geometric progressions modulo a number -/

/-- The first `2 ^ depth` terms `w`, `w * c`, `w * c ^ 2` and so on modulo `p` pass a check:
the terms of even and of odd index are progressions of half the length. -/
def termsPass (p : Nat) (check : Nat → Bool) : Nat → Nat → Nat → Bool
  | 0, _, w => check w
  | depth + 1, c, w =>
      termsPass p check depth (c * c % p) w && termsPass p check depth (c * c % p) (w * c % p)

theorem check_of_termsPass {p : Nat} {check : Nat → Bool} {depth c w : Nat}
    (h : termsPass p check depth c w = true) (hw : w < p) :
    ∀ i < 2 ^ depth, check (w * c ^ i % p) = true := by
  induction depth generalizing c w with
  | zero =>
      intro i hi
      rw [Nat.lt_one_iff.mp hi, Nat.pow_zero, Nat.mul_one, Nat.mod_eq_of_lt hw]
      exact h
  | succ depth ih =>
      intro i hi
      rw [termsPass, Bool.and_eq_true] at h
      have hhalf : i / 2 < 2 ^ depth := by omega
      have hsquare : ∀ v, v * (c * c % p) ^ (i / 2) % p = v * c ^ (2 * (i / 2)) % p := by
        intro v
        rw [Nat.mul_mod, ← Nat.pow_mod, ← Nat.mul_mod, Nat.pow_mul, Nat.pow_two]
      rcases Nat.mod_two_eq_zero_or_one i with heven | hodd
      · have hi' : i = 2 * (i / 2) := by omega
        have hcheck := ih h.1 hw (i / 2) hhalf
        rwa [hsquare, ← hi'] at hcheck
      · have hi' : i = 2 * (i / 2) + 1 := by omega
        have hcheck := ih h.2 (Nat.mod_lt _ (by omega)) (i / 2) hhalf
        rw [hsquare, Nat.mod_mul_mod, Nat.mul_assoc, ← Nat.pow_succ', Nat.succ_eq_add_one,
          ← hi'] at hcheck
        exact hcheck

/-! ### The inverse of ninety -/

/-- `90 ^ -1`. -/
def ninetyInverse : Nat :=
  5467959769539931450557518736521373426413021779922311171717284741363190779085

/-- `10 ^ -48`. -/
def blockInverse : Nat :=
  21923593253599097464258677115989428604547546446846156324481195198303570473903

/-- The number has no form of 28 digits and less than 48 zeros. -/
def isFull (n : Nat) : Bool := decide (10 ^ 48 ≤ n) && decide (n % 10 ^ 20 ≠ 0)

theorem ne_of_isFull {n m r : Nat} (h : isFull n = true) (hm : m < 10 ^ 28) : m * 10 ^ r ≠ n := by
  rw [isFull, Bool.and_eq_true, decide_eq_true_eq, decide_eq_true_eq] at h
  rintro rfl
  rcases Nat.lt_or_ge r 20 with hr | hr
  · have hlt : m * 10 ^ r < 10 ^ 28 * 10 ^ 20 :=
      Nat.mul_lt_mul'' hm (Nat.pow_lt_pow_right (by decide) hr)
    omega
  · have hdvd : 10 ^ 20 ∣ m * 10 ^ r := Dvd.dvd.mul_left (Nat.pow_dvd_pow 10 hr) m
    exact h.2 (Nat.mod_eq_zero_of_dvd hdvd)

theorem termsPass_ninety : termsPass fieldOrder isFull 15 blockInverse ninetyInverse = true := by
  decide +kernel

/-- **No number of 28 digits and less than a million zeros is the inverse of ninety.** -/
theorem ninety_scaled_ne_one {m j : Nat} (hm : m < 10 ^ 28) (hj : j ≤ 999999) :
    ¬ 90 * (m * 10 ^ j) ≡ 1 [MOD fieldOrder] := by
  intro h
  have hsplit : j = 48 * (j / 48) + j % 48 := (Nat.div_add_mod j 48).symm
  have hfull := check_of_termsPass termsPass_ninety (by decide) (j / 48) (by omega)
  have hninety : ninetyInverse * 90 ≡ 1 [MOD fieldOrder] := by decide
  have hblock : blockInverse * 10 ^ 48 ≡ 1 [MOD fieldOrder] := by decide
  have hblocks : blockInverse ^ (j / 48) * 10 ^ (48 * (j / 48)) ≡ 1 [MOD fieldOrder] := by
    rw [Nat.pow_mul, ← Nat.mul_pow]
    have hpow := hblock.pow (j / 48)
    rwa [Nat.one_pow] at hpow
  -- taking the ninety and the whole blocks of zeros to the other side
  have hrest : m * 10 ^ (j % 48) ≡ ninetyInverse * blockInverse ^ (j / 48) [MOD fieldOrder] := by
    have hleft : ninetyInverse * blockInverse ^ (j / 48) * (90 * (m * 10 ^ j)) =
        ninetyInverse * 90 * (blockInverse ^ (j / 48) * 10 ^ (48 * (j / 48))) *
          (m * 10 ^ (j % 48)) := by
      have hpow : 10 ^ j = 10 ^ (48 * (j / 48)) * 10 ^ (j % 48) := by
        rw [← Nat.pow_add, ← hsplit]
      rw [hpow]
      ring
    have hone := (hninety.mul hblocks).mul_right (m * 10 ^ (j % 48))
    have hscaled := h.mul_left (ninetyInverse * blockInverse ^ (j / 48))
    rw [hleft] at hscaled
    simp only [Nat.mul_one, Nat.one_mul] at hone hscaled
    exact hone.symm.trans hscaled
  have hsmall : m * 10 ^ (j % 48) < fieldOrder := by
    have hzeros : 10 ^ (j % 48) ≤ 10 ^ 47 := Nat.pow_le_pow_right (by decide) (by omega)
    calc m * 10 ^ (j % 48) ≤ m * 10 ^ 47 := Nat.mul_le_mul_left m hzeros
      _ < 10 ^ 28 * 10 ^ 47 := Nat.mul_lt_mul_of_pos_right hm (by decide)
      _ < fieldOrder := by decide
  have heq : m * 10 ^ (j % 48) = ninetyInverse * blockInverse ^ (j / 48) % fieldOrder := by
    rw [← Nat.mod_eq_of_lt hsmall]
    exact hrest
  exact ne_of_isFull hfull hm heq

/-! ### Fixed points of positive numbers -/

/-- The integer is a positive number in millionths, as the context rounds it: on the same side
of every power of ten, and of 28 digits but for zeros. -/
structure IsMillionths (q : Rat) (n : Nat) : Prop where
  upper : ∀ k : Nat, q * 10 ^ 6 ≤ 10 ^ k → n ≤ 10 ^ k
  lower : ∀ k : Nat, 10 ^ k ≤ q * 10 ^ 6 → 10 ^ k ≤ n
  digits : ∃ m j : Nat, n = m * 10 ^ j ∧ m < 10 ^ 28 ∧ j ≤ 999999

theorem toFixedPoint_inv {text : String} {fixed : Int} (h : toFixedPoint text = .ok fixed) :
    ∃ d scaled i, ofText (strip text.toList) = some d ∧
      d.mul context (.ofInt fixedPointScale) = .ok scaled ∧ scaled.toInt .halfUp = .ok i ∧
      fixed = i % fieldOrder := by
  unfold toFixedPoint at h
  cases hread : ofText (strip text.toList) with
  | none =>
      rw [hread] at h
      cases h
  | some d =>
      simp only [hread, Except.ok_bind] at h
      obtain ⟨scaled, hmul, h⟩ := Except.bind_eq_ok_iff.mp h
      obtain ⟨i, hint, h⟩ := Except.bind_eq_ok_iff.mp h
      cases h
      exact ⟨d, scaled, i, rfl, hmul, hint, rfl⟩

/-- A positive number has no sign and some digit that is not zero. -/
theorem finite_of_toRat_pos {neg : Bool} {coeff : Nat} {exp : Int}
    (hpos : 0 < toRat (.finite neg coeff exp)) : neg = false ∧ 0 < coeff := by
  have hpow : (0 : Rat) < 10 ^ exp := zpow_pos (by decide) exp
  cases neg with
  | true =>
      have hnonpos : toRat (.finite true coeff exp) ≤ 0 := by
        rw [toRat, if_pos rfl, neg_one_mul, neg_mul, neg_nonpos]
        positivity
      exact absurd hpos (not_lt.mpr hnonpos)
  | false =>
      refine ⟨rfl, Nat.pos_of_ne_zero ?_⟩
      rintro rfl
      simp [toRat] at hpos

/-- **The fixed point of a positive number.** -/
theorem isMillionths_of_toFixedPoint {text : String} {fixed : Int}
    (h : toFixedPoint text = .ok fixed) {d : PyDecimal}
    (hread : ofText (strip text.toList) = some d) (hpos : 0 < d.toRat) :
    ∃ n : Nat, fixed = (n : Int) % fieldOrder ∧ IsMillionths d.toRat n := by
  obtain ⟨d', scaled, i, hread', hmul, hint, rfl⟩ := toFixedPoint_inv h
  rw [hread] at hread'
  cases hread'
  cases d with
  | infinity => exact absurd hpos (lt_irrefl _)
  | nan => exact absurd hpos (lt_irrefl _)
  | finite neg coeff exp =>
      obtain ⟨rfl, hcoeff⟩ := finite_of_toRat_pos hpos
      have hprec : 1 ≤ context.prec := by decide
      have hrange : context.etiny ≤ context.emax := by decide
      obtain ⟨coeff', exp', rfl, hdigits, hemax, hbounds⟩ :=
        fix_sameBounds hprec hrange (Nat.mul_pos hcoeff (by decide)) hmul
      have hvalue : ((coeff * fixedPointScale.natAbs : Nat) : Rat) * 10 ^ (exp + 0) =
          toRat (.finite false coeff exp) * 10 ^ 6 := by
        have hscale : fixedPointScale.natAbs = 10 ^ 6 := by decide
        rw [hscale, add_zero]
        simp only [toRat, Bool.false_eq_true, ↓reduceIte]
        push_cast
        ring
      rw [hvalue] at hbounds
      have hpositive : (false != decide (fixedPointScale < 0)) = false := by decide
      rw [hpositive] at hint
      obtain ⟨n, hn, hrounded, m, j, hform, hm, hj⟩ := toInt_sameBounds .halfUp coeff' exp'
      rw [hn] at hint
      cases hint
      have hmax : context.emax = 999999 := rfl
      have hall : SameBounds 0 (toRat (.finite false coeff exp) * 10 ^ 6) n := by
        have hetiny : context.etiny ≤ 0 := by decide
        exact ⟨fun k hk h => hrounded.upper k hk (hbounds.upper k (hetiny.trans hk) h),
          fun k hk h => hrounded.lower k hk (hbounds.lower k (hetiny.trans hk) h)⟩
      refine ⟨n, rfl, fun k h => ?_, fun k h => ?_, m, j, hform,
        lt_of_le_of_lt hm (lt_of_numDigits_le hdigits), by omega⟩
      · have hupper := hall.upper k (Int.natCast_nonneg k) (by rwa [zpow_natCast])
        rw [zpow_natCast] at hupper
        exact_mod_cast hupper
      · have hlower := hall.lower k (Int.natCast_nonneg k) (by rwa [zpow_natCast])
        rw [zpow_natCast] at hlower
        exact_mod_cast hlower

/-! ### Doses -/

/-- `compute_renal_adjustment_factor`. -/
def computeRenalAdjustmentFactor (creatinineClearance : Rat) : Rat :=
  let normalCrcl := 90
  let adjustment := min 1 (creatinineClearance / normalCrcl)
  max (1 / 10) adjustment

/-- `compute_age_adjustment_factor`. -/
def computeAgeAdjustmentFactor (patientAge : Rat) : Rat :=
  if patientAge < 18 then 1 / 2 else if 65 < patientAge then 17 / 20 else 1

/-- `compute_weight_based_dose`. -/
def computeWeightBasedDose (patientWeight : Rat) : Rat :=
  let dosePerKg := 15
  dosePerKg * patientWeight

/-- `DrugDosageWitnessInput`, without the name of the drug, which nothing reads. -/
structure DrugDosageWitnessInput where
  patientWeightKg : Rat
  creatinineClearanceMlMin : Rat
  patientAgeYears : Rat
  fdaDatasetHash : String
  doseFrequencyHours : Int

variable (std : PyStd) (str : Rat → String)

/-- `build_drug_dosage_assignment`, where `str` writes numbers. -/
def buildDrugDosageAssignment (input : DrugDosageWitnessInput) :
    Except PyError PlonkAssignment := do
  let adjustmentFactor := computeRenalAdjustmentFactor input.creatinineClearanceMlMin
  let ageFactor := computeAgeAdjustmentFactor input.patientAgeYears
  let baseDose := computeWeightBasedDose input.patientWeightKg
  let adjustedDose := baseDose * adjustmentFactor * ageFactor
  let weightFp ← toFixedPoint (str input.patientWeightKg)
  let creatinineFp ← toFixedPoint (str input.creatinineClearanceMlMin)
  let adjustmentFactorFp ← toFixedPoint (str adjustmentFactor)
  let baseDoseFp ← toFixedPoint (str baseDose)
  let ageFactorFp ← toFixedPoint (str ageFactor)
  let adjustedDoseFp ← toFixedPoint (str adjustedDose)
  let fdaDatasetHashFp ← hashFixedPoint input.fdaDatasetHash
  let _doseFrequencyFp ← toFixedPointInt input.doseFrequencyHours
  let patientHashFp := weightFp * creatinineFp % fieldOrder
  let boundsValidFp := adjustedDoseFp
  let datasetBindingFp := fdaDatasetHashFp
  let recommendedDoseFp := adjustedDoseFp
  let oneFp := 1
  let zeroFp := 0
  let dosePerKgFp ← toFixedPoint (str 15)
  let patientHash := sha256Hex std (str input.patientWeightKg ++
    str input.creatinineClearanceMlMin ++ str input.patientAgeYears)
  let publicInputs := [("fda_dataset_hash", input.fdaDatasetHash),
    ("recommended_dose_mg", str adjustedDose),
    ("dose_frequency_hours", String.ofList (intText input.doseFrequencyHours)),
    ("patient_hash", patientHash)]
  let publicInputsHash ← canonicalPublicInputsHash std publicInputs
  let ninetyFp ← toFixedPoint (str 90)
  return {
    aCol := [weightFp, creatinineFp, weightFp, ageFactorFp, baseDoseFp, adjustedDoseFp,
      fdaDatasetHashFp, adjustedDoseFp]
    bCol := [creatinineFp, ninetyFp, dosePerKgFp, oneFp, adjustmentFactorFp, zeroFp, zeroFp,
      datasetBindingFp]
    cCol := [patientHashFp, adjustmentFactorFp, baseDoseFp, ageFactorFp, adjustedDoseFp,
      boundsValidFp, datasetBindingFp, recommendedDoseFp]
    wireMap := [("weight_fp", weightFp), ("creatinine_fp", creatinineFp),
      ("adjustment_factor_fp", adjustmentFactorFp), ("base_dose_fp", baseDoseFp),
      ("age_factor_fp", ageFactorFp), ("adjusted_dose_fp", adjustedDoseFp),
      ("patient_hash_fp", patientHashFp), ("fda_dataset_hash_fp", fdaDatasetHashFp),
      ("dataset_binding_fp", datasetBindingFp), ("recommended_dose_fp", recommendedDoseFp),
      ("one_fp", oneFp), ("zero_fp", zeroFp)]
    publicInputsHash }

/-- The number has a finite decimal expansion. -/
def IsDecimalFraction (q : Rat) : Prop := ∃ (n : Int) (places : Nat), q = n / 10 ^ places

/-- Numbers are written so that they are read back: exactly if they have a finite expansion,
and else without leaving the bounds of the renal factor. -/
structure WritesNumbers : Prop where
  exact : ∀ {q d}, IsDecimalFraction q → ofText (strip (str q).toList) = some d → d.toRat = q
  bounds : ∀ {q d}, 1 / 10 ≤ q → q ≤ 1 → ofText (strip (str q).toList) = some d →
    1 / 10 ≤ d.toRat ∧ d.toRat ≤ 1
  ninety : str 90 = "90.0"

/-- A patient: decimal numbers, a positive weight and a positive clearance, and a dataset hash
of sixteen digits at least. -/
structure DrugDosageWitnessInput.IsPatient (input : DrugDosageWitnessInput) : Prop where
  decimals : IsDecimalFraction input.patientWeightKg ∧
    IsDecimalFraction input.creatinineClearanceMlMin ∧ IsDecimalFraction input.patientAgeYears
  weight : 0 < input.patientWeightKg
  clearance : 0 < input.creatinineClearanceMlMin
  hashLength : 16 ≤ input.fdaDatasetHash.toList.length
  hashDigits : ∀ c ∈ input.fdaDatasetHash.toList, isHexAnyCase c = true

/-- An assignment is returned, all eight gates hold, and the recommended dose is the fixed
point of the product of weight, 15 and the factors. -/
def DrugDosageWitnessInput.IsComplete (input : DrugDosageWitnessInput) : Prop :=
  ∃ assignment recommendedDoseFp, buildDrugDosageAssignment std str input = .ok assignment ∧
    assignment.gateResults 5 3 = .ok (List.replicate 8 true) ∧
    toFixedPoint (str (input.patientWeightKg * 15 *
      computeRenalAdjustmentFactor input.creatinineClearanceMlMin *
      computeAgeAdjustmentFactor input.patientAgeYears)) = .ok recommendedDoseFp ∧
    getItem assignment.wireMap "recommended_dose_fp" = .ok recommendedDoseFp

variable {std str}

theorem renalFactor_bounds (q : Rat) :
    1 / 10 ≤ computeRenalAdjustmentFactor q ∧ computeRenalAdjustmentFactor q ≤ 1 :=
  ⟨le_max_left _ _, max_le (by norm_num) (min_le_left _ _)⟩

theorem renalFactor_of_le {q : Rat} (h : 90 ≤ q) : computeRenalAdjustmentFactor q = 1 := by
  have hquotient : 1 ≤ q / 90 := by
    rw [le_div_iff₀ (by norm_num)]
    linarith
  simp only [computeRenalAdjustmentFactor, min_eq_left hquotient]
  norm_num

/-- What the second gate has on its wires. -/
theorem renal_gate_wires {input : DrugDosageWitnessInput} {assignment : PlonkAssignment}
    (h : buildDrugDosageAssignment std str input = .ok assignment) :
    ∃ creatinineFp factorFp ninetyFp,
      toFixedPoint (str input.creatinineClearanceMlMin) = .ok creatinineFp ∧
      toFixedPoint (str (computeRenalAdjustmentFactor input.creatinineClearanceMlMin)) =
        .ok factorFp ∧
      toFixedPoint (str 90) = .ok ninetyFp ∧
      ∀ results, assignment.gateResults 5 3 = .ok results →
        results[1]? =
          some (decide ((creatinineFp * ninetyFp - factorFp) % (fieldOrder : Int) = 0)) := by
  unfold buildDrugDosageAssignment at h
  simp only [Except.bind_eq_ok_iff] at h
  obtain ⟨_, -, creatinineFp, hcreatinine, factorFp, hfactor, _, -, _, -, _, -, _, -, _, -, _, -,
    _, -, ninetyFp, hninety, h⟩ := h
  cases h
  refine ⟨creatinineFp, factorFp, ninetyFp, hcreatinine, hfactor, hninety, ?_⟩
  intro results hresults
  cases hresults
  rfl

/-- `to_fixed_point` of the divisor. -/
theorem toFixedPoint_ninety : toFixedPoint "90.0" = .ok (90 * 10 ^ 6 : Nat) := by
  have hread : ofText (strip "90.0".toList) = some (.finite false 900 (-1)) := by decide
  have hfixed := toFixedPoint_of_read hread (fun h => absurd h (by decide)) (by decide)
    (by decide) (by decide)
  have hexact : Rounding.halfUp.div (900 * 10 ^ 6) (10 ^ 1) = 90 * 10 ^ 6 := by decide
  have hexp : (-(-1) : Int).toNat = 1 := rfl
  have hnowrap : 90 * 10 ^ 6 < fieldOrder := by decide
  rw [hexp, hexact, ← Int.natCast_emod, Nat.mod_eq_of_lt hnowrap] at hfixed
  exact hfixed

/-- A gate that a product and a wire satisfy is a congruence. -/
theorem modEq_of_gate {x b y : Nat}
    (h : ((x : Int) % fieldOrder * b - (y : Int) % fieldOrder) % (fieldOrder : Int) = 0) :
    x * b ≡ y [MOD fieldOrder] := by
  have hdvd : (fieldOrder : Int) ∣ (x : Int) % fieldOrder * b - (y : Int) % fieldOrder :=
    Int.dvd_of_emod_eq_zero h
  have hmod : ((y : Int) % fieldOrder) ≡ (x : Int) % fieldOrder * b [ZMOD fieldOrder] :=
    Int.modEq_iff_dvd.mpr hdvd
  have hleft : (x : Int) % fieldOrder * b ≡ x * b [ZMOD fieldOrder] :=
    (Int.mod_modEq _ _).mul_right _
  have hright : (y : Int) % fieldOrder ≡ y [ZMOD fieldOrder] := Int.mod_modEq _ _
  exact_mod_cast ((hright.symm.trans hmod).trans hleft).symm

/-- **The second gate never holds.** -/
theorem renal_gate_fails {x y : Nat} {clearance factor : Rat}
    (hfactor : 1 / 10 ≤ factor ∧ factor ≤ 1) (hnormal : 90 ≤ clearance → factor = 1)
    (hx : IsMillionths clearance x) (hy : IsMillionths factor y) :
    ¬ x * (90 * 10 ^ 6) ≡ y [MOD fieldOrder] := by
  intro h
  have hupper : y ≤ 10 ^ 6 := hy.upper 6 (by linarith [hfactor.2])
  have hlower : 10 ^ 5 ≤ y := hy.lower 5 (by linarith [hfactor.1])
  rcases lt_or_ge clearance 90 with hlow | hhigh
  · -- neither side is as large as the field
    have hsmall : x ≤ 10 ^ 8 := hx.upper 8 (by linarith)
    have hfield : 10 ^ 16 < fieldOrder := by decide
    have heq := h.eq_of_lt_of_lt (by omega) (by omega)
    omega
  · -- a factor of one: the clearance would be the inverse of ninety
    have hone := hnormal hhigh
    have hyone : y = 10 ^ 6 := by
      have := hy.lower 6 (by rw [hone, one_mul])
      omega
    obtain ⟨m, j, rfl, hm, hj⟩ := hx.digits
    have hscaled : 10 ^ 6 * (90 * (m * 10 ^ j)) ≡ 10 ^ 6 * 1 [MOD fieldOrder] := by
      rw [hyone] at h
      have hcomm : 10 ^ 6 * (90 * (m * 10 ^ j)) = m * 10 ^ j * (90 * 10 ^ 6) := by ring
      rw [hcomm, Nat.mul_one]
      exact h
    have hcoprime : fieldOrder.gcd (10 ^ 6) = 1 := by decide +kernel
    exact ninety_scaled_ne_one hm hj (hscaled.cancel_left_of_coprime hcoprime)

/-- **No patient has a witness that satisfies the circuit.** -/
theorem drugDosage_never_complete (hstr : WritesNumbers str) {input : DrugDosageWitnessInput}
    (h : input.IsPatient) : ¬ input.IsComplete std str := by
  intro ⟨assignment, _, hbuild, hgates, _⟩
  obtain ⟨creatinineFp, factorFp, ninetyFp, hcreatinine, hfactor, hninety, hresults⟩ :=
    renal_gate_wires hbuild
  obtain ⟨d, -, -, hread, -, -, -⟩ := toFixedPoint_inv hcreatinine
  obtain ⟨d', -, -, hread', -, -, -⟩ := toFixedPoint_inv hfactor
  have hbounds := renalFactor_bounds input.creatinineClearanceMlMin
  have hvalue := hstr.exact h.decimals.2.1 hread
  have hvalue' := hstr.bounds hbounds.1 hbounds.2 hread'
  obtain ⟨x, rfl, hx⟩ := isMillionths_of_toFixedPoint hcreatinine hread (by
    rw [hvalue]
    exact h.clearance)
  obtain ⟨y, rfl, hy⟩ := isMillionths_of_toFixedPoint hfactor hread' (by linarith [hvalue'.1])
  have hninetyFp : ninetyFp = (90 * 10 ^ 6 : Nat) := by
    rw [hstr.ninety, toFixedPoint_ninety] at hninety
    cases hninety
    rfl
  have hnormal : 90 ≤ input.creatinineClearanceMlMin → d'.toRat = 1 := by
    intro hle
    rw [renalFactor_of_le hle] at hread'
    exact hstr.exact ⟨1, 0, by norm_num⟩ hread'
  have hfails := renal_gate_fails hvalue' hnormal (hvalue ▸ hx) hy
  have hsecond := hresults _ hgates
  rw [hninetyFp] at hsecond
  exact hfails (modEq_of_gate (of_decide_eq_true (Option.some.inj hsecond).symm))

/-! ### A patient -/

/-- Whole numbers as `str` writes them as floats; other numbers are not written readably. -/
def wholeText (q : Rat) : String :=
  if q.den = 1 ∧ 0 ≤ q.num then String.ofList (natText q.num.natAbs ++ ['.', '0']) else ""

theorem wholeText_natCast (n : Nat) : wholeText n = String.ofList (natText n ++ ['.', '0']) := by
  have hwhole : ((n : Nat) : Rat).den = 1 ∧ 0 ≤ ((n : Nat) : Rat).num :=
    ⟨Rat.den_natCast n, by rw [Rat.num_natCast]; exact Int.natCast_nonneg n⟩
  rw [wholeText, if_pos hwhole, Rat.num_natCast, Int.natAbs_natCast]

theorem readNat_append_zero (cs : List Char) : readNat (cs ++ ['0']) = 10 * readNat cs := by
  have hzero : ('0').toNat - 48 = 0 := rfl
  rw [readNat, List.reverse_append, List.map_append, List.reverse_singleton, List.map_singleton,
    hzero, List.singleton_append, Nat.ofDigits_cons, readNat]
  exact Nat.zero_add _

theorem ofText_wholeText (n : Nat) : ofText (strip (wholeText n).toList) =
    (some (PyDecimal.finite false (10 * n) (-1))).filter inRange := by
  obtain ⟨c, ds, hcons⟩ := List.exists_cons_of_ne_nil (natText_ne_nil n)
  have hdigits : ∀ d ∈ natText n ++ ['0'], isDecimal d = true := by
    intro d hd
    rcases List.mem_append.mp hd with hd | hd
    · exact natText_isDecimal n d hd
    · rw [List.mem_singleton.mp hd]
      decide
  have hchars : ∀ d ∈ natText n ++ ['.', '0'], isNumberChar d = true := by
    intro d hd
    rcases List.mem_append.mp hd with hd | hd
    · rw [isNumberChar, natText_isDecimal n d hd]
      rfl
    · rcases List.mem_pair.mp hd with rfl | rfl <;> decide
  have hhead : ∃ c ds, natText n ++ ['.', '0'] = c :: ds ∧ isDecimal c = true :=
    ⟨c, ds ++ ['.', '0'], by rw [hcons, List.cons_append],
      natText_isDecimal n c (by rw [hcons]; exact List.mem_cons_self ..)⟩
  have hread : readNumber false (natText n ++ ['.', '0']) = _ :=
    readNumber_point (natText_ne_nil n) hdigits
  rw [readNat_append_zero, readNat_natText] at hread
  rw [wholeText_natCast, String.toList_ofList,
    strip_eq_self fun d hd => isStrSpace_of_isNumberChar (hchars d hd)]
  have hnumber : ofText (natText n ++ ['.', '0']) = _ := @ofText_number false _ hchars hhead
  exact hnumber.trans (congrArg (Option.filter inRange) hread)

theorem toFixedPoint_wholeText {n : Nat} (h : 10 * n < 10 ^ 28) :
    toFixedPoint (wholeText n) = .ok (n * 10 ^ 6 : Nat) := by
  have hdigits : numDigits (10 * n) ≤ 28 := numDigits_le_of_lt (by decide) h
  have hrange : inRange (.finite false (10 * n) (-1)) = true := by
    have hone := one_le_numDigits (10 * n)
    rw [inRange, Bool.and_eq_true, decide_eq_true_eq, decide_eq_true_eq]
    simp only [adjusted, DecimalContext.maximal, DecimalContext.etiny]
    constructor <;> omega
  have hread := ofText_wholeText n
  rw [Option.filter_some, if_pos hrange] at hread
  have hexact : Rounding.halfUp.div (10 * n * 10 ^ 6) (10 ^ 1) = n * 10 ^ 6 := by
    have hsplit : 10 * n * 10 ^ 6 = n * 10 ^ 6 * 10 ^ 1 := by ring
    rw [hsplit, Rounding.div_mul_cancel _ _ (by decide)]
  have hnowrap : n * 10 ^ 6 < fieldOrder := by
    have hbound : 10 ^ 28 * 10 ^ 6 < fieldOrder := by decide
    exact (Nat.mul_lt_mul_of_pos_right (by omega) (by decide)).trans hbound
  have hfixed := toFixedPoint_of_read hread (fun h => absurd h (by decide)) hdigits (by decide)
    (by decide)
  have hexp : (-(-1) : Int).toNat = 1 := rfl
  rw [hexp, hexact, ← Int.natCast_emod, Nat.mod_eq_of_lt hnowrap] at hfixed
  exact hfixed

/-- What is read back is the number. -/
theorem toRat_of_wholeText {q : Rat} {d : PyDecimal}
    (h : ofText (strip (wholeText q).toList) = some d) : d.toRat = q := by
  rw [wholeText] at h
  split at h
  · next hwhole =>
      have hq : q = (q.num.natAbs : Nat) := by
        have hnum : ((q.num.natAbs : Nat) : Int) = q.num := Int.natAbs_of_nonneg hwhole.2
        rw [← Int.cast_natCast, hnum]
        exact (Rat.den_eq_one_iff q).mp hwhole.1 |>.symm
      generalize q.num.natAbs = n at h hq
      rw [← wholeText_natCast, ofText_wholeText, Option.filter_some] at h
      split at h
      · cases h
        rw [toRat, hq]
        push_cast
        ring
      · cases h
  · rw [show ofText (strip "".toList) = none by decide] at h
    cases h

theorem writesNumbers_wholeText : WritesNumbers wholeText where
  exact _ h := toRat_of_wholeText h
  bounds hlow hhigh h := by
    rw [toRat_of_wholeText h]
    exact ⟨hlow, hhigh⟩
  ninety := by
    have hninety := wholeText_natCast 90
    rw [Nat.cast_ofNat] at hninety
    rw [hninety]
    decide

/-- A patient of 70 kg whose clearance is normal. -/
def healthyPatient : DrugDosageWitnessInput where
  patientWeightKg := 70
  creatinineClearanceMlMin := 100
  patientAgeYears := 40
  fdaDatasetHash := "0123456789abcdef0123456789abcdef0123456789abcdef0123456789abcdef"
  doseFrequencyHours := 8

theorem healthyPatient_isPatient : healthyPatient.IsPatient where
  decimals := ⟨⟨70, 0, by norm_num [healthyPatient]⟩, ⟨100, 0, by norm_num [healthyPatient]⟩,
    ⟨40, 0, by norm_num [healthyPatient]⟩⟩
  weight := by norm_num [healthyPatient]
  clearance := by norm_num [healthyPatient]
  hashLength := by decide
  hashDigits := by decide

theorem drugDosage_never_complete_healthy : WritesNumbers wholeText ∧ healthyPatient.IsPatient ∧
    ¬ healthyPatient.IsComplete lengthStd wholeText :=
  ⟨writesNumbers_wholeText, healthyPatient_isPatient,
    drugDosage_never_complete writesNumbers_wholeText healthyPatient_isPatient⟩

/-- The fixed points of his assignment carry the scale once, the products twice. -/
theorem healthy_patient_rejected : ∃ assignment,
    buildDrugDosageAssignment lengthStd wholeText healthyPatient = .ok assignment ∧
      assignment.gateResults 5 3 = .ok [true, false, false, true, false, true, true, false] ∧
      ¬ healthyPatient.IsComplete lengthStd wholeText := by
  have hfixed : ∀ n : Nat, 10 * n < 10 ^ 28 → ∀ q : Rat, q = n →
      toFixedPoint (wholeText q) = .ok (n * 10 ^ 6 : Nat) := by
    intro n hn q hq
    rw [hq]
    exact toFixedPoint_wholeText hn
  have hweight := hfixed 70 (by decide) healthyPatient.patientWeightKg (by rfl)
  have hclearance := hfixed 100 (by decide) healthyPatient.creatinineClearanceMlMin (by rfl)
  have hfactor := hfixed 1 (by decide)
    (computeRenalAdjustmentFactor healthyPatient.creatinineClearanceMlMin)
    (renalFactor_of_le (by norm_num [healthyPatient]))
  have hage := hfixed 1 (by decide)
    (computeAgeAdjustmentFactor healthyPatient.patientAgeYears)
    (by norm_num [computeAgeAdjustmentFactor, healthyPatient])
  have hbase := hfixed 1050 (by decide) (computeWeightBasedDose healthyPatient.patientWeightKg)
    (by norm_num [computeWeightBasedDose, healthyPatient])
  have hadjusted := hfixed 1050 (by decide)
    (computeWeightBasedDose healthyPatient.patientWeightKg *
      computeRenalAdjustmentFactor healthyPatient.creatinineClearanceMlMin *
      computeAgeAdjustmentFactor healthyPatient.patientAgeYears)
    (by norm_num [computeWeightBasedDose, computeRenalAdjustmentFactor,
      computeAgeAdjustmentFactor, healthyPatient])
  have hdosePerKg := hfixed 15 (by decide) 15 (by rfl)
  have hninety := hfixed 90 (by decide) 90 (by rfl)
  have hhash : hashFixedPoint healthyPatient.fdaDatasetHash =
      .ok (81985529216486895 * 10 ^ 6 : Nat) := by
    have hlimb : limbAt healthyPatient.fdaDatasetHash.toList 0 = .ok (81985529216486895 : Nat) := by
      decide
    rw [hashFixedPoint, hlimb, Except.ok_bind, toFixedPointInt_eq (by decide)]
  have hfrequency : toFixedPointInt healthyPatient.doseFrequencyHours = .ok (8 * 10 ^ 6 : Nat) :=
    toFixedPointInt_eq (n := 8) (by decide)
  have hpublic : ∀ publicInputs, ∃ hash,
      canonicalPublicInputsHash lengthStd publicInputs = .ok hash :=
    fun _ => canonicalHash_ok lengthStd (floatFree_ofStringDict _)
  choose hash hpublic using hpublic
  have hbuild : ∃ assignment,
      buildDrugDosageAssignment lengthStd wholeText healthyPatient = .ok assignment ∧
        assignment.gateResults 5 3 = .ok [true, false, false, true, false, true, true, false] := by
    simp only [buildDrugDosageAssignment, hweight, hclearance, hfactor, hage, hbase, hadjusted,
      hdosePerKg, hninety, hhash, hfrequency, hpublic, Except.ok_bind]
    exact ⟨_, rfl, rfl⟩
  obtain ⟨assignment, hbuild, hgates⟩ := hbuild
  refine ⟨assignment, hbuild, hgates, ?_⟩
  rintro ⟨assignment', _, hbuild', hgates', _⟩
  rw [hbuild] at hbuild'
  cases hbuild'
  rw [hgates] at hgates'
  exact absurd hgates' (by decide)

end Vrl.Zk

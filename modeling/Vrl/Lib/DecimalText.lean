import Mathlib.Data.List.TakeWhile
import Vrl.Lib.Decimal

/-!
# Vrl.Lib.DecimalText

Decimals in fixed notation: a number with a fraction that is not tiny is written without
an exponent, the same by `str` and by `format`, and is read back as it was
(**`PyDecimal.ofText_text`**). Numbers of such a size are multiplied without leaving the
range of a context (**`PyDecimal.mul_ofInt_ok`**).
-/

open TextCodec

/-! ### Digits -/

/-- Leading zeros do not count. -/
theorem TextCodec.readNat_zeros_append (n : Nat) (cs : List Char) :
    readNat (List.replicate n '0' ++ cs) = readNat cs := by
  have hzero : ('0').toNat - 48 = 0 := rfl
  rw [readNat, List.reverse_append, List.map_append, Nat.ofDigits_append, List.reverse_replicate,
    List.map_replicate, hzero, Nat.ofDigits_replicate_zero, Nat.mul_zero, Nat.add_zero, readNat]

namespace PyDecimal

variable {neg : Bool} {coeff : Nat} {exp : Int}

/-- The number is written in fixed notation, with a fraction. -/
structure IsFixed (coeff : Nat) (exp : Int) : Prop where
  fraction : exp < 0
  notTiny : -6 ≤ adjusted coeff exp
  /-- No more digits than a context of this model has. -/
  digits : numDigits coeff ≤ 28

theorem one_le_numDigits (coeff : Nat) : 1 ≤ numDigits coeff :=
  List.length_pos_iff.mpr (natText_ne_nil coeff)

/-- A number with up to six places is in fixed notation. -/
theorem isFixed_of_places (hlow : -6 ≤ exp) (hneg : exp < 0) (hdigits : numDigits coeff ≤ 28) :
    IsFixed coeff exp where
  fraction := hneg
  notTiny := by
    have hone := one_le_numDigits coeff
    rw [adjusted]
    omega
  digits := hdigits

/-! ### Sizes -/

theorem numDigits_le_of_lt {n k : Nat} (hk : 1 ≤ k) (h : n < 10 ^ k) : numDigits n ≤ k := by
  rw [numDigits, natText]
  split
  · exact hk
  · rw [List.length_reverse, List.length_map]
    exact (Nat.digits_length_le_iff (by decide) n).mpr h

theorem lt_of_numDigits_le {n k : Nat} (h : numDigits n ≤ k) : n < 10 ^ k := by
  rw [numDigits, natText] at h
  split at h
  · next hzero =>
      rw [hzero]
      exact Nat.pow_pos (by decide)
  · rw [List.length_reverse, List.length_map] at h
    exact (Nat.digits_length_le_iff (by decide) n).mp h

/-- A result of moderate size is in the range of a context. -/
theorem fix_ok (prec : Nat) (neg : Bool) {coeff : Nat} {exp : Int}
    (hdigits : numDigits coeff ≤ 1000) (hexp : exp ≤ 1000) :
    ∃ coeff' exp', fix (.default prec) neg coeff exp = .ok (.finite neg coeff' exp') := by
  have hemax : (DecimalContext.default prec).emax = 999999 := rfl
  have hctx : (DecimalContext.default prec).prec = prec := rfl
  rw [fix, hemax, hctx]
  split
  · exact ⟨_, _, rfl⟩
  · have hadjusted : adjusted coeff exp ≤ 2000 := by
      rw [adjusted]
      omega
    rw [if_neg (by omega)]
    simp only
    split
    · exact ⟨_, _, rfl⟩
    · split
      · rw [if_neg]
        · exact ⟨_, _, rfl⟩
        · simp only [DecimalContext.etop, DecimalContext.etiny, DecimalContext.default]
          omega
      · exact ⟨_, _, rfl⟩

/-- The product of a number of moderate size with an integer of at most a million. -/
theorem mul_ofInt_ok (prec : Nat) (neg : Bool) {coeff : Nat} {exp i : Int}
    (hdigits : numDigits coeff ≤ 28) (hexp : exp ≤ 0) (hi : i.natAbs ≤ 1000000) :
    ∃ neg' coeff' exp', (finite neg coeff exp).mul (.default prec) (.ofInt i) =
      .ok (.finite neg' coeff' exp') := by
  have hsize : numDigits (coeff * i.natAbs) ≤ 35 := by
    refine numDigits_le_of_lt (by decide) ?_
    have hcoeff := lt_of_numDigits_le hdigits
    calc coeff * i.natAbs ≤ coeff * 1000000 := Nat.mul_le_mul_left _ hi
      _ < 10 ^ 28 * 1000000 := Nat.mul_lt_mul_of_pos_right hcoeff (by decide)
      _ < 10 ^ 35 := by decide
  have hexp' : exp + 0 ≤ 1000 := by omega
  obtain ⟨coeff', exp', hfix⟩ :=
    fix_ok prec (neg != decide (i < 0)) (hsize.trans (by decide)) hexp'
  exact ⟨_, coeff', exp', hfix⟩

/-! ### Numbers stay numbers -/

theorem fix_isFinite {ctx : DecimalContext} {neg : Bool} {d : PyDecimal}
    (h : fix ctx neg coeff exp = .ok d) : d.IsFinite := by
  unfold fix at h
  split at h
  · cases h
    trivial
  · split at h
    · cases h
    · simp only at h
      split at h
      · cases h
        trivial
      · split at h
        · split at h
          · cases h
          · cases h
            trivial
        · cases h
          trivial

theorem mul_isFinite {ctx : DecimalContext} {a b d : PyDecimal} (ha : a.IsFinite) (hb : b.IsFinite)
    (h : a.mul ctx b = .ok d) : d.IsFinite := by
  cases a with
  | finite m c e =>
      cases b with
      | finite n c' e' => exact fix_isFinite h
      | _ => exact absurd hb fun h => h
  | _ => exact absurd ha fun h => h

theorem add_isFinite {ctx : DecimalContext} {a b d : PyDecimal} (ha : a.IsFinite) (hb : b.IsFinite)
    (h : a.add ctx b = .ok d) : d.IsFinite := by
  cases a with
  | finite m c e =>
      cases b with
      | finite n c' e' => exact fix_isFinite h
      | _ => exact absurd hb fun h => h
  | _ => exact absurd ha fun h => h

theorem quantize_isFinite {ctx : DecimalContext} {mode : Rounding} {d r : PyDecimal}
    (hd : d.IsFinite) (h : d.quantize ctx mode exp = .ok r) : r.IsFinite := by
  cases d with
  | finite neg coeff exp' =>
      have hnone : checkNans ctx [.finite neg coeff exp'] = none := rfl
      simp only [quantize, hnone] at h
      split at h
      · cases h
        trivial
      · split at h
        · cases h
        · split at h
          · cases h
          · cases h
            trivial
  | _ => exact absurd hd fun h => h

/-! ### Writing -/

/-- The digits before and after the point. -/
theorem pointText_split (coeff scale : Nat) : ∃ whole frac,
    pointText coeff scale = whole ++ '.' :: frac ∧ whole ≠ [] ∧ frac.length = scale ∧
      (∀ c ∈ whole ++ frac, isDecimal c = true) ∧ readNat (whole ++ frac) = coeff ∧
      (whole ++ frac).length ≤ numDigits coeff + scale + 1 := by
  generalize hpadded :
    List.replicate (scale + 1 - (natText coeff).length) '0' ++ natText coeff = padded
  have hlength : padded.length = scale + 1 - numDigits coeff + numDigits coeff := by
    rw [← hpadded, List.length_append, List.length_replicate, numDigits]
  refine ⟨padded.take (padded.length - scale), padded.drop (padded.length - scale), ?_, ?_, ?_, ?_,
    ?_, ?_⟩
  · rw [← hpadded, pointText]
  · intro hnil
    have hzero := congrArg List.length hnil
    rw [List.length_take, List.length_nil] at hzero
    omega
  · rw [List.length_drop]
    omega
  · rw [List.take_append_drop, ← hpadded]
    intro c hc
    rcases List.mem_append.mp hc with hc | hc
    · rw [List.eq_of_mem_replicate hc]
      decide
    · exact natText_isDecimal coeff c hc
  · rw [List.take_append_drop, ← hpadded, readNat_zeros_append, readNat_natText]
  · rw [List.take_append_drop]
    omega

theorem text_of_isFixed (h : IsFixed coeff exp) :
    text (.finite neg coeff exp) = signText neg ++ pointText coeff (-exp).toNat := by
  have hneg := h.fraction
  rw [text, if_neg (by omega), if_pos ⟨hneg, h.notTiny⟩]

/-- `str` and `format` agree. -/
theorem plainText_of_isFixed (h : IsFixed coeff exp) :
    plainText (.finite neg coeff exp) = text (.finite neg coeff exp) := by
  have hneg := h.fraction
  rw [text_of_isFixed h, plainText, if_neg (by omega)]

/-- The characters of fixed notation. -/
def isNumberChar (c : Char) : Bool := isDecimal c || c == '.' || c == '-'

theorem isNumberChar_cases {c : Char} (h : isNumberChar c = true) :
    ∃ n, 45 ≤ n ∧ n ≤ 57 ∧ c = Char.ofNat n := by
  have hbounds : 45 ≤ c.toNat ∧ c.toNat ≤ 57 := by
    rw [isNumberChar, Bool.or_eq_true, Bool.or_eq_true, beq_iff_eq, beq_iff_eq] at h
    rcases h with (hdecimal | rfl) | rfl
    · simp only [isDecimal, Bool.and_eq_true, decide_eq_true_eq, Char.le_def,
        UInt32.le_iff_toNat_le] at hdecimal
      have h0 : '0'.val.toNat = 48 := rfl
      have h9 : '9'.val.toNat = 57 := rfl
      simp only [Char.toNat]
      omega
    · decide
    · decide
  exact ⟨c.toNat, hbounds.1, hbounds.2, (Char.ofNat_toNat c).symm⟩

theorem text_isNumberChar (h : IsFixed coeff exp) :
    ∀ c ∈ text (.finite neg coeff exp), isNumberChar c = true := by
  obtain ⟨whole, frac, hpoint, -, -, hdigits, -, -⟩ := pointText_split coeff (-exp).toNat
  intro c hc
  rw [text_of_isFixed h, hpoint, List.mem_append, List.mem_append, List.mem_cons] at hc
  have hdigit : c ∈ whole ++ frac → isNumberChar c = true := by
    intro hmem
    rw [isNumberChar, hdigits c hmem]
    rfl
  rcases hc with hsign | hwhole | rfl | hfrac
  · cases neg with
    | false => cases hsign
    | true =>
        rw [List.mem_singleton.mp hsign]
        decide
  · exact hdigit (List.mem_append_left _ hwhole)
  · decide
  · exact hdigit (List.mem_append_right _ hfrac)

theorem isAscii_of_isNumberChar {cs : List Char} (h : ∀ c ∈ cs, isNumberChar c = true) :
    IsAscii cs := by
  intro c hc
  obtain ⟨n, hlow, hhigh, rfl⟩ := isNumberChar_cases (h c hc)
  interval_cases n <;> decide

theorem isAscii_natText (n : Nat) : IsAscii (natText n) := fun c hc =>
  isAsciiChar_of_isDecimal (natText_isDecimal n c hc)

/-- A number in plain notation is ASCII, and so are the special values. -/
theorem plainText_isAscii (d : PyDecimal) : IsAscii d.plainText := by
  have hsign : ∀ neg, IsAscii (signText neg) := by
    intro neg
    cases neg <;> decide
  cases d with
  | finite neg coeff exp =>
      rw [plainText]
      split
      · refine isAscii_append.mpr ⟨hsign neg, ?_⟩
        split
        · decide
        · refine isAscii_append.mpr ⟨isAscii_natText coeff, fun c hc => ?_⟩
          rw [List.eq_of_mem_replicate hc]
          decide
      · obtain ⟨whole, frac, hpoint, -, -, hdigits, -, -⟩ := pointText_split coeff (-exp).toNat
        rw [hpoint]
        refine isAscii_append.mpr ⟨hsign neg, fun c hc => ?_⟩
        rw [List.mem_append, List.mem_cons] at hc
        rcases hc with hwhole | rfl | hfrac
        · exact isAsciiChar_of_isDecimal (hdigits c (List.mem_append_left _ hwhole))
        · decide
        · exact isAsciiChar_of_isDecimal (hdigits c (List.mem_append_right _ hfrac))
  | infinity neg => cases neg <;> decide
  | nan neg signaling payload =>
      simp only [plainText, specialText]
      refine isAscii_append.mpr ⟨isAscii_append.mpr ⟨hsign neg, ?_⟩, ?_⟩
      · cases signaling <;> decide
      · split
        · exact isAscii_nil
        · exact isAscii_natText payload

/-- There is one sign at most. -/
theorem count_minus_text_le (h : IsFixed coeff exp) :
    (text (.finite neg coeff exp)).count '-' ≤ 1 := by
  obtain ⟨whole, frac, hpoint, -, -, hdigits, -, -⟩ := pointText_split coeff (-exp).toNat
  have hnone : ∀ cs : List Char, (∀ c ∈ cs, c ∈ whole ++ frac) → cs.count '-' = 0 := by
    intro cs hcs
    refine List.count_eq_zero.mpr fun hmem => ?_
    exact absurd (hdigits '-' (hcs '-' hmem)) (by decide)
  have hsign : (signText neg).count '-' ≤ 1 := by cases neg <;> decide
  rw [text_of_isFixed h, hpoint, List.count_append, List.count_append, List.count_cons_of_ne
    (by decide), hnone whole fun c hc => List.mem_append_left _ hc,
    hnone frac fun c hc => List.mem_append_right _ hc]
  omega

theorem text_length_le (h : IsFixed coeff exp) :
    (text (.finite neg coeff exp)).length ≤ 31 + (-exp).toNat := by
  obtain ⟨whole, frac, hpoint, -, -, -, -, hlength⟩ := pointText_split coeff (-exp).toNat
  have hsign : (signText neg).length ≤ 1 := by cases neg <;> decide
  have hdigits := h.digits
  rw [List.length_append] at hlength
  rw [text_of_isFixed h, hpoint, List.length_append, List.length_append, List.length_cons]
  omega

/-! ### Reading -/

theorem readNumber_point {whole frac : List Char} (hwhole : whole ≠ [])
    (hdigits : ∀ c ∈ whole ++ frac, isDecimal c = true) :
    readNumber neg (whole ++ '.' :: frac) =
      some (.finite neg (readNat (whole ++ frac)) (-(frac.length : Int))) := by
  have hleft : ∀ c ∈ whole, isDecimal c = true := fun c hc =>
    hdigits c (List.mem_append_left _ hc)
  have hright : ∀ c ∈ frac, isDecimal c = true := fun c hc =>
    hdigits c (List.mem_append_right _ hc)
  have htake : (whole ++ '.' :: frac).takeWhile isDecimal = whole := by
    rw [List.takeWhile_append_of_pos hleft, List.takeWhile_cons_of_neg (by decide),
      List.append_nil]
  have hdrop : (whole ++ '.' :: frac).dropWhile isDecimal = '.' :: frac := by
    rw [List.dropWhile_append_of_pos hleft, List.dropWhile_cons_of_neg (by decide)]
  have hfracTake : frac.takeWhile isDecimal = frac := List.takeWhile_eq_self_iff.mpr hright
  have hfracDrop : frac.dropWhile isDecimal = [] := List.dropWhile_eq_nil_iff.mpr hright
  have hne : whole ++ frac ≠ [] := List.append_ne_nil_of_left_ne_nil hwhole _
  simp only [readNumber, htake, hdrop, hfracTake, hfracDrop, if_neg hne, readExponent,
    Option.map_some, zero_sub]

theorem asciiText_eq_self {cs : List Char} (h : ∀ c ∈ cs, isNumberChar c = true) :
    asciiText cs = cs := by
  have hkeep : cs.filter (· ≠ '_') = cs := by
    refine List.filter_eq_self.mpr fun c hc => ?_
    rw [decide_eq_true_eq]
    rintro rfl
    exact absurd (h _ hc) (by decide)
  rw [asciiText, hkeep]
  refine (List.map_congr_left fun c hc => ?_).trans (List.map_id cs)
  rw [if_pos (isAscii_of_isNumberChar h c hc)]
  rfl

theorem splitSign_signText (cs : List Char) (h : ∃ c ds, cs = c :: ds ∧ isDecimal c = true) :
    splitSign (signText neg ++ cs) = (neg, cs) := by
  obtain ⟨c, ds, rfl, hc⟩ := h
  cases neg with
  | true => rfl
  | false =>
      have hplus : c ≠ '+' := by
        rintro rfl
        cases hc
      have hminus : c ≠ '-' := by
        rintro rfl
        cases hc
      show splitSign (c :: ds) = _
      unfold splitSign
      split
      · next heq => exact absurd (List.cons.inj heq).1 hplus
      · next heq => exact absurd (List.cons.inj heq).1 hminus
      · rfl

/-- A text that begins with a digit is no special value. -/
theorem ofText_number {body : List Char} (hchars : ∀ c ∈ body, isNumberChar c = true)
    (hhead : ∃ c ds, body = c :: ds ∧ isDecimal c = true) :
    ofText (signText neg ++ body) = (readNumber neg body).filter inRange := by
  obtain ⟨c, ds, rfl, hc⟩ := hhead
  have hsign : ∀ d ∈ signText neg ++ c :: ds, isNumberChar d = true := by
    intro d hd
    rcases List.mem_append.mp hd with hd | hd
    · cases neg with
      | false => cases hd
      | true =>
          rw [List.mem_singleton.mp hd]
          decide
    · exact hchars d hd
  have hsplit : splitSign (asciiText (signText neg ++ c :: ds)) = (neg, c :: ds) := by
    rw [asciiText_eq_self hsign]
    exact splitSign_signText _ ⟨c, _, rfl, hc⟩
  -- a digit is its own lower case, and begins no special value
  obtain ⟨n, hlow, hhigh, rfl⟩ : ∃ n, 48 ≤ n ∧ n ≤ 57 ∧ c = Char.ofNat n := by
    refine ⟨c.toNat, ?_, ?_, (Char.ofNat_toNat c).symm⟩
    all_goals
      simp only [isDecimal, Bool.and_eq_true, decide_eq_true_eq, Char.le_def,
        UInt32.le_iff_toNat_le] at hc
      have h0 : '0'.val.toNat = 48 := rfl
      have h9 : '9'.val.toNat = 57 := rfl
      simp only [Char.toNat]
      omega
  have hlower : (Char.ofNat n).toLower = Char.ofNat n ∧ Char.ofNat n ≠ 'i' ∧
      Char.ofNat n ≠ 'n' ∧ Char.ofNat n ≠ 's' := by
    interval_cases n <;> decide
  obtain ⟨hself, hi, hn, hs⟩ := hlower
  simp only [ofText, hsplit, List.map_cons, hself, List.cons.injEq, hi, false_and, or_self,
    if_false]
  split
  · next heq => exact absurd (List.cons.inj heq).1 hn
  · next heq => exact absurd (List.cons.inj heq).1 hs
  · rfl

/-- **A number in fixed notation is read back as it was.** -/
theorem ofText_text (h : IsFixed coeff exp) :
    ofText (text (.finite neg coeff exp)) = some (.finite neg coeff exp) := by
  obtain ⟨whole, frac, hpoint, hwhole, hfrac, hdigits, hread, -⟩ :=
    pointText_split coeff (-exp).toNat
  obtain ⟨c, ds, rfl⟩ := List.exists_cons_of_ne_nil hwhole
  have hc : isDecimal c = true := hdigits c (List.mem_cons_self ..)
  have hnumber : readNumber neg ((c :: ds) ++ '.' :: frac) = some (.finite neg coeff exp) := by
    have hexp : -(frac.length : Int) = exp := by
      have hneg := h.fraction
      omega
    rw [readNumber_point hwhole hdigits, hread, hexp]
  have hrange : inRange (.finite neg coeff exp) = true := by
    have hneg := h.fraction
    have hlowest := h.notTiny
    have hmost := h.digits
    have hone := one_le_numDigits coeff
    rw [adjusted] at hlowest
    rw [inRange, Bool.and_eq_true, decide_eq_true_eq, decide_eq_true_eq]
    simp only [adjusted, DecimalContext.maximal, DecimalContext.etiny]
    constructor
    · omega
    · split <;> omega
  have hchars : ∀ d ∈ (c :: ds) ++ '.' :: frac, isNumberChar d = true := by
    intro d hd
    have hnumber : ∀ c ∈ text (.finite neg coeff exp), isNumberChar c = true := text_isNumberChar h
    refine hnumber d ?_
    rw [text_of_isFixed h, hpoint]
    exact List.mem_append_right _ hd
  rw [text_of_isFixed h, hpoint, ofText_number hchars ⟨c, _, rfl, hc⟩, hnumber,
    Option.filter_some, if_pos hrange]

/-- **An integer is read back as it was.** -/
theorem ofText_intText {i : Int} (h : numDigits i.natAbs ≤ 1000) :
    ofText (intText i) = some (.ofInt i) := by
  have hdigits : ∀ c ∈ natText i.natAbs, isDecimal c = true := natText_isDecimal i.natAbs
  obtain ⟨c, ds, hcons⟩ := List.exists_cons_of_ne_nil (natText_ne_nil i.natAbs)
  have hc : isDecimal c = true := hdigits c (by rw [hcons]; exact List.mem_cons_self ..)
  have hchars : ∀ d ∈ natText i.natAbs, isNumberChar d = true := by
    intro d hd
    rw [isNumberChar, hdigits d hd]
    rfl
  have htext : intText i = signText (decide (i < 0)) ++ natText i.natAbs := by
    cases i with
    | ofNat n => rfl
    | negSucc n =>
        rw [decide_eq_true (Int.negSucc_lt_zero n)]
        rfl
  have htake : (natText i.natAbs).takeWhile isDecimal = natText i.natAbs :=
    List.takeWhile_eq_self_iff.mpr hdigits
  have hdrop : (natText i.natAbs).dropWhile isDecimal = [] := List.dropWhile_eq_nil_iff.mpr hdigits
  have hrange : inRange (.ofInt i) = true := by
    rw [ofInt, inRange, Bool.and_eq_true, decide_eq_true_eq, decide_eq_true_eq]
    simp only [adjusted, DecimalContext.maximal, DecimalContext.etiny]
    constructor
    · omega
    · split <;> omega
  have hread : readNumber (decide (i < 0)) (natText i.natAbs) = some (.ofInt i) := by
    simp only [readNumber, htake, hdrop, List.append_nil, if_neg (natText_ne_nil i.natAbs),
      readExponent, Option.map_some, readNat_natText, List.length_nil, ofInt]
    rfl
  rw [htext, ofText_number hchars ⟨c, ds, hcons, hc⟩, hread, Option.filter_some, if_pos hrange]

/-- A number in fixed notation is written in full, also by `format`. -/
theorem eq_of_plainText {neg' : Bool} {coeff' : Nat} {exp' : Int} (h : IsFixed coeff exp)
    (h' : IsFixed coeff' exp')
    (htext : plainText (.finite neg coeff exp) = plainText (.finite neg' coeff' exp')) :
    (.finite neg coeff exp : PyDecimal) = .finite neg' coeff' exp' := by
  rw [plainText_of_isFixed h, plainText_of_isFixed h'] at htext
  have hread := @ofText_text neg coeff exp h
  rw [htext, ofText_text h'] at hread
  exact (Option.some.inj hread).symm

/-! ### Signs -/

/-- `is_signed`: a minus is written, also before a zero. -/
def isSigned : PyDecimal → Bool
  | .finite neg _ _ => neg
  | .infinity neg => neg
  | .nan neg _ _ => neg

/-- The numbers are equal: neither is less. -/
def SameNumber (a b : PyDecimal) : Prop := a.lt b = .ok false ∧ b.lt a = .ok false

instance (a b : PyDecimal) : Decidable (a.SameNumber b) := inferInstanceAs (Decidable (_ ∧ _))

theorem SameNumber.symm {a b : PyDecimal} (h : SameNumber a b) : SameNumber b a := ⟨h.2, h.1⟩

/-- Equal numbers with one exponent and one sign are the same decimal. -/
theorem eq_of_sameNumber {neg' : Bool} {coeff' : Nat}
    (h : SameNumber (.finite neg coeff exp) (.finite neg' coeff' exp)) (hsign : neg = neg') :
    (.finite neg coeff exp : PyDecimal) = .finite neg' coeff' exp := by
  subst hsign
  obtain ⟨hleft, hright⟩ := h
  simp only [lt, min_self, signed, sub_self, Int.toNat_zero, pow_zero, mul_one, Except.ok.injEq,
    decide_eq_false_iff_not] at hleft hright
  have hcoeff : coeff = coeff' := by
    cases neg with
    | false =>
        simp only [Bool.false_eq_true, if_false] at hleft hright
        omega
    | true =>
        simp only [if_true] at hleft hright
        omega
  rw [hcoeff]

end PyDecimal

import Vrl.Models.Revalidation

/-!
# Vrl.Models.RequestHash

When two requests have one input hash (`models/schemas.py`, `utils/canonical.py`).

Amounts are quantised, so equal amounts are written alike but for one thing: zero keeps the sign
that it was given. Requests with equal values are hashed alike exactly if no amount is `-0.00`
in one of them and `0.00` in the other (**`canonicalHash_request_iff`**).
-/

open TextCodec Pydantic

namespace Vrl

/-! ### Equal amounts -/

/-- Amounts that are equal as numbers are equal if their signs are. -/
theorem amount_eq_of_sameNumber {a b : PyDecimal} (ha : IsMoney a) (hb : IsMoney b)
    (hsame : a.SameNumber b) (hsign : a.isSigned = b.isSigned) : a = b := by
  obtain ⟨neg, cents, rfl, -⟩ := ha
  obtain ⟨neg', cents', rfl, -⟩ := hb
  exact PyDecimal.eq_of_sameNumber hsame hsign

/-- A positive amount has no sign. -/
theorem isSigned_of_isPositive {a : PyDecimal} (ha : IsMoney a) (hpos : isPositive a = true) :
    a.isSigned = false := by
  obtain ⟨neg, cents, rfl, -⟩ := ha
  cases neg with
  | false => rfl
  | true =>
      -- minus some cents is not above zero
      simp [isPositive, PyDecimal.lt, PyDecimal.ofInt, PyDecimal.signed] at hpos
      omega

/-- The text of an amount shows all of it. -/
theorem amount_eq_of_plainText {a b : PyDecimal} (ha : IsMoney a) (hb : IsMoney b)
    (h : a.plainText = b.plainText) : a = b := by
  obtain ⟨neg, cents, rfl, hfixed⟩ := isFixed_of_isMoney ha
  obtain ⟨neg', cents', rfl, hfixed'⟩ := isFixed_of_isMoney hb
  exact PyDecimal.eq_of_plainText hfixed hfixed' h

/-! ### Equal requests -/

/-- The fields have equal values, the amounts as numbers. -/
structure EqualValues (r s : ImportCalculationRequest) : Prop where
  hsCode : r.hsCode = s.hsCode
  countryOfOrigin : r.countryOfOrigin = s.countryOfOrigin
  customsValue : r.customsValue.1.SameNumber s.customsValue.1
  freight : r.freight.1.SameNumber s.freight.1
  insurance : r.insurance.1.SameNumber s.insurance.1
  quantity : r.quantity = s.quantity
  shippingMode : r.shippingMode = s.shippingMode

/-- Freight and insurance have the same signs: where one of them is zero, it is `-0.00` in both
requests or in neither. -/
structure SameSigns (r s : ImportCalculationRequest) : Prop where
  freight : r.freight.1.isSigned = s.freight.1.isSigned
  insurance : r.insurance.1.isSigned = s.insurance.1.isSigned

variable {r s : ImportCalculationRequest}

theorem EqualValues.symm (h : EqualValues r s) : EqualValues s r where
  hsCode := h.hsCode.symm
  countryOfOrigin := h.countryOfOrigin.symm
  customsValue := h.customsValue.symm
  freight := h.freight.symm
  insurance := h.insurance.symm
  quantity := h.quantity.symm
  shippingMode := h.shippingMode.symm

/-- Requests with equal values and signs are one request. -/
theorem EqualValues.eq_iff (h : EqualValues r s) : r = s ↔ SameSigns r s := by
  constructor
  · intro heq
    subst heq
    exact ⟨rfl, rfl⟩
  · intro hsigns
    have hcustoms : r.customsValue = s.customsValue := by
      refine Subtype.ext (amount_eq_of_sameNumber r.customsValue.2.1 s.customsValue.2.1 h.customsValue ?_)
      rw [isSigned_of_isPositive r.customsValue.2.1 r.customsValue.2.2,
        isSigned_of_isPositive s.customsValue.2.1 s.customsValue.2.2]
    have hfreight : r.freight = s.freight :=
      Subtype.ext (amount_eq_of_sameNumber r.freight.2.1 s.freight.2.1 h.freight hsigns.freight)
    have hinsurance : r.insurance = s.insurance :=
      Subtype.ext (amount_eq_of_sameNumber r.insurance.2.1 s.insurance.2.1 h.insurance hsigns.insurance)
    obtain ⟨hcode, hcountry, -, -, -, hquantity, hmode⟩ := h
    cases r
    cases s
    simp only at hcode hcountry hcustoms hfreight hinsurance hquantity hmode
    rw [hcode, hcountry, hcustoms, hfreight, hinsurance, hquantity, hmode]

/-! ### Their hashes -/

section Hashes

variable (std : PyStd)

/-- The members of a request in their canonical form. -/
def canonicalMembers (r : ImportCalculationRequest) : List (String × Json) :=
  [("hs_code", .str (std.nfc r.hsCode)), ("country_of_origin", .str (std.nfc r.countryOfOrigin)),
    ("customs_value", .str (String.ofList r.customsValue.1.plainText)),
    ("freight", .str (String.ofList r.freight.1.plainText)),
    ("insurance", .str (String.ofList r.insurance.1.plainText)), ("quantity", .int r.quantity.1),
    ("shipping_mode", .str (std.nfc r.shippingMode.text))]

variable {std}

theorem canonicalHash_request (r : ImportCalculationRequest) :
    canonicalHash std (.dict r.payload) = .ok (std.hexdigest
      (dumpsCanonical (.obj (Json.sortMembers (canonicalMembers std r))))) :=
  canonicalHash_of_canonicalize std (canonicalize_dict_of_members rfl)

/-- Requests with one hash have the same amounts, to the sign. -/
theorem amounts_eq_of_canonicalHash (hinj : Function.Injective std.hexdigest)
    (h : canonicalHash std (.dict r.payload) = canonicalHash std (.dict s.payload)) :
    r.freight.1 = s.freight.1 ∧ r.insurance.1 = s.insurance.1 := by
  have hkeys : (canonicalMembers std r).map (·.1) = (canonicalMembers std s).map (·.1) := rfl
  rw [canonicalHash_request, canonicalHash_request, Except.ok.injEq, hinj.eq_iff,
    dumpsCanonical_eq_iff, Json.sortKeys_obj_sortMembers, Json.sortKeys_obj_sortMembers,
    Json.sortKeys_record_iff hkeys (by simp [canonicalMembers])] at h
  simp only [canonicalMembers, Json.sortKeysMembers, Json.sortKeys, List.cons.injEq, Prod.mk.injEq,
    Json.str.injEq, true_and, and_true] at h
  obtain ⟨-, -, -, hfreight, hinsurance, -⟩ := h
  exact ⟨amount_eq_of_plainText r.freight.2.1 s.freight.2.1 (String.ofList_injective hfreight),
    amount_eq_of_plainText r.insurance.2.1 s.insurance.2.1 (String.ofList_injective hinsurance)⟩

/-- **Requests with equal values have one hash exactly if their signs agree.** -/
theorem canonicalHash_request_iff (hinj : Function.Injective std.hexdigest) (h : EqualValues r s) :
    canonicalHash std (.dict r.payload) = canonicalHash std (.dict s.payload) ↔
      SameSigns r s := by
  constructor
  · intro hhash
    obtain ⟨hfreight, hinsurance⟩ := amounts_eq_of_canonicalHash hinj hhash
    exact ⟨congrArg PyDecimal.isSigned hfreight, congrArg PyDecimal.isSigned hinsurance⟩
  · intro hsigns
    rw [h.eq_iff.mpr hsigns]

end Hashes

end Vrl

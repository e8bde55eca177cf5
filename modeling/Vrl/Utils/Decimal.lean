import Vrl.Lib.PyStd

/-!
# Vrl.Utils.Decimal

Amounts and rates (`utils/decimal.py`): decimals rounded half up to two or to six
places, in a context of 28 digits.
-/

namespace Vrl

/-- The context that the server computes in. -/
def context : DecimalContext := .default 28

/-- `to_decimal`. -/
def toDecimal : PyVal → Except PyError PyDecimal
  | .decimal d => .ok d
  | .bool _ => .error ⟨.typeError, "Boolean values are not valid decimals"⟩
  | .int i => .ok (.ofInt i)
  | .str s =>
      let text := strip s.toList
      if text = [] then .error ⟨.valueError, "Empty string is not a valid decimal"⟩
      else
        match PyDecimal.ofText text with
        | some d => .ok d
        | none => .error ⟨.valueError, "Invalid decimal value: '" ++ String.ofList text ++ "'"⟩
  | v => .error ⟨.typeError, "Unsupported decimal type: " ++ v.typeName⟩

/-- `money`. -/
def money (value : PyVal) : Except PyError PyDecimal := do
  (← toDecimal value).quantize context .halfUp (-2)

/-- `rate`. -/
def rate (value : PyVal) : Except PyError PyDecimal := do
  (← toDecimal value).quantize context .halfUp (-6)

/-- `clamp_money`. -/
def clampMoney (value : PyVal) (minimum maximum : Option PyVal) : Except PyError PyDecimal := do
  let amount ← money value
  if let some minimum := minimum then
    let minimumAmount ← money minimum
    if ← amount.lt minimumAmount then
      return minimumAmount
  if let some maximum := maximum then
    let maximumAmount ← money maximum
    if ← maximumAmount.lt amount then
      return maximumAmount
  return amount

/-! ### Amounts -/

/-- A number of at most 28 digits, two of them after the point. -/
def IsMoney (d : PyDecimal) : Prop :=
  ∃ neg cents, d = .finite neg cents (-2) ∧ PyDecimal.numDigits cents ≤ context.prec

/-- What `money` returns is an amount, or no number at all. -/
theorem isMoney_of_money {value : PyVal} {d : PyDecimal} (h : money value = .ok d)
    (hfin : d.IsFinite) : IsMoney d := by
  obtain ⟨raw, -, h⟩ := Except.bind_eq_ok_iff.mp h
  obtain ⟨neg, cents, rfl, hdigits⟩ := PyDecimal.quantize_finite h hfin (by decide)
  exact ⟨neg, cents, rfl, hdigits⟩

/-- An amount is rounded already. -/
theorem money_of_isMoney {d : PyDecimal} (h : IsMoney d) : money (.decimal d) = .ok d := by
  obtain ⟨neg, cents, rfl, hdigits⟩ := h
  exact PyDecimal.quantize_self hdigits

end Vrl

import Vrl.Lib.PyInt
import Vrl.Lib.Python

/-!
# Vrl.Lib.Decimal

Decimal floating point as Python's `decimal` module computes it: a coefficient, an
exponent and a sign, with infinities and NaNs.

Sums and products are exact and then rounded to the precision of a context
(`fix`). `quantize` rounds to a given exponent and refuses a result that has more
digits than the context allows. The signals that are trapped by default are raised.
-/

open TextCodec

/-- A decimal: `(-1)^neg * coeff * 10^exp`, or one of the special values. -/
inductive PyDecimal where
  | finite (neg : Bool) (coeff : Nat) (exp : Int)
  | infinity (neg : Bool)
  | nan (neg : Bool) (signaling : Bool) (payload : Nat)
  deriving DecidableEq, Repr

/-- The precision and the exponent range of a context. -/
structure DecimalContext where
  prec : Nat
  emax : Int
  emin : Int

namespace DecimalContext

variable (ctx : DecimalContext)

/-- `Etiny()`: the exponent of the smallest subnormal numbers. -/
def etiny : Int := ctx.emin - (ctx.prec - 1)

/-- `Etop()`: the exponent of the largest numbers of full precision. -/
def etop : Int := ctx.emax - (ctx.prec - 1)

/-- Python's default context, for a precision. -/
def default (prec : Nat) : DecimalContext := ⟨prec, 999999, -999999⟩

/-- The context that `Decimal(text)` is exact in. -/
def maximal : DecimalContext := ⟨999999999999999999, 999999999999999999, -999999999999999999⟩

end DecimalContext

namespace PyDecimal

/-! ### Rounding -/

/-- The rounding modes in use. -/
inductive Rounding where
  | halfUp
  | halfEven
  deriving DecidableEq, Repr

/-- `n / d`, rounded to an integer. -/
def Rounding.div (mode : Rounding) (n d : Nat) : Nat :=
  let q := n / d
  let r := n % d
  if 2 * r < d then q
  else if d < 2 * r then q + 1
  else
    match mode with
    | .halfUp => q + 1
    | .halfEven => q + q % 2

/-- The number of digits of a coefficient. -/
def numDigits (coeff : Nat) : Nat := (natText coeff).length

/-- The exponent of the leading digit: `adjusted()`. -/
def adjusted (coeff : Nat) (exp : Int) : Int := numDigits coeff + exp - 1

/-- `InvalidOperation`. -/
def invalidOperation (message : String) : PyError := ⟨.invalidOperation, message⟩

/-- `Overflow`. -/
def overflow : PyError := ⟨.decimalOverflow, "above Emax"⟩

/-- An exact result, rounded to the precision of the context: `_fix`. -/
def fix (ctx : DecimalContext) (neg : Bool) (coeff : Nat) (exp : Int) : Except PyError PyDecimal :=
  if coeff = 0 then .ok (.finite neg 0 (min (max exp ctx.etiny) ctx.emax))
  else if ctx.emax < adjusted coeff exp then .error overflow
  else
    let expMin := max (adjusted coeff exp + 1 - ctx.prec) ctx.etiny
    if expMin ≤ exp then .ok (.finite neg coeff exp)
    else
      let rounded := Rounding.halfEven.div coeff (10 ^ (expMin - exp).toNat)
      if ctx.prec < numDigits rounded then
        if ctx.etop < expMin + 1 then .error overflow
        else .ok (.finite neg (rounded / 10) (expMin + 1))
      else .ok (.finite neg rounded expMin)

/-- A coefficient with its point moved to another exponent. -/
def rescale (mode : Rounding) (coeff : Nat) (exp exp' : Int) : Nat :=
  if exp' ≤ exp then coeff * 10 ^ (exp - exp').toNat
  else mode.div coeff (10 ^ (exp' - exp).toNat)

/-! ### Special values -/

/-- What comes of a NaN among the operands: the first signaling one is raised, and
otherwise the first quiet one is the result. -/
def checkNans (ctx : DecimalContext) (operands : List PyDecimal) :
    Option (Except PyError PyDecimal) :=
  let isSignaling : PyDecimal → Bool
    | .nan _ signaling _ => signaling
    | _ => false
  if operands.any isSignaling then some (.error (invalidOperation "sNaN"))
  else
    operands.findSome? fun
      | .nan neg _ payload => some (.ok (.nan neg false (payload % 10 ^ ctx.prec)))
      | _ => none

/-- The value is a number. -/
def IsFinite : PyDecimal → Prop
  | .finite .. => True
  | _ => False

instance (d : PyDecimal) : Decidable d.IsFinite := by
  cases d <;> simp only [IsFinite] <;> infer_instance

/-! ### Arithmetic -/

/-- The signed coefficient at an exponent that is not larger. -/
def signed (neg : Bool) (coeff : Nat) (exp exp' : Int) : Int :=
  let aligned : Int := coeff * 10 ^ (exp - exp').toNat
  if neg then -aligned else aligned

/-- `Decimal(i)` of an integer. -/
def ofInt (i : Int) : PyDecimal := .finite (decide (i < 0)) i.natAbs 0

/-- `a + b`. -/
def add (ctx : DecimalContext) (a b : PyDecimal) : Except PyError PyDecimal :=
  match checkNans ctx [a, b] with
  | some result => result
  | none =>
      match a, b with
      | .finite m c e, .finite n d f =>
          let sum := signed m c e (min e f) + signed n d f (min e f)
          -- a sum that is zero is negative only if both operands are
          fix ctx (if sum = 0 then m && n else decide (sum < 0)) sum.natAbs (min e f)
      | .infinity m, .infinity n =>
          if m = n then .ok (.infinity m) else .error (invalidOperation "-INF + INF")
      | .infinity m, _ => .ok (.infinity m)
      | _, b => .ok b

/-- `a * b`. -/
def mul (ctx : DecimalContext) (a b : PyDecimal) : Except PyError PyDecimal :=
  match checkNans ctx [a, b] with
  | some result => result
  | none =>
      match a, b with
      | .finite m c e, .finite n d f => fix ctx (m != n) (c * d) (e + f)
      | .infinity m, .finite n d _ | .finite n d _, .infinity m =>
          if d = 0 then .error (invalidOperation "INF * 0") else .ok (.infinity (m != n))
      | .infinity m, .infinity n => .ok (.infinity (m != n))
      | a, _ => .ok a

/-- `a < b`. -/
def lt (a b : PyDecimal) : Except PyError Bool :=
  match a, b with
  | .finite m c e, .finite n d f =>
      .ok (decide (signed m c e (min e f) < signed n d f (min e f)))
  | .infinity m, .infinity n => .ok (m && !n)
  | .infinity m, .finite .. => .ok m
  | .finite .., .infinity n => .ok (!n)
  | _, _ => .error (invalidOperation "comparison involving NaN")

/-- `d.quantize(Decimal("1e<exp>"), rounding)`, for an exponent that the context has. -/
def quantize (ctx : DecimalContext) (mode : Rounding) (exp : Int) (d : PyDecimal) :
    Except PyError PyDecimal :=
  match checkNans ctx [d] with
  | some result => result
  | none =>
      match d with
      | .finite neg coeff exp' =>
          if coeff = 0 then .ok (.finite neg 0 exp)
          else if ctx.prec < adjusted coeff exp' + 1 - exp then
            .error (invalidOperation "quantize result has too many digits for current context")
          else if ctx.prec < numDigits (rescale mode coeff exp' exp) then
            .error (invalidOperation "quantize result has too many digits for current context")
          else .ok (.finite neg (rescale mode coeff exp' exp) exp)
      | .infinity _ => .error (invalidOperation "quantize with one INF")
      | d => .ok d

/-- A number comes out of `quantize` with the exponent asked for, and with no more digits
than the context allows. -/
theorem quantize_finite {ctx : DecimalContext} {mode : Rounding} {exp : Int} {d r : PyDecimal}
    (h : d.quantize ctx mode exp = .ok r) (hfin : r.IsFinite) (hprec : 1 ≤ ctx.prec) :
    ∃ neg coeff, r = .finite neg coeff exp ∧ numDigits coeff ≤ ctx.prec := by
  cases d with
  | infinity neg => cases h
  | nan neg signaling payload =>
      cases signaling with
      | true => cases h
      | false =>
          cases h
          exact absurd hfin (fun h => h)
  | finite neg coeff exp' =>
      have hnone : checkNans ctx [.finite neg coeff exp'] = none := rfl
      simp only [quantize, hnone] at h
      by_cases hzero : coeff = 0
      · rw [if_pos hzero] at h
        cases h
        exact ⟨neg, 0, rfl, hprec⟩
      · rw [if_neg hzero] at h
        split at h
        · cases h
        · split at h
          · cases h
          · next hdigits =>
              cases h
              exact ⟨neg, _, rfl, Nat.le_of_not_lt hdigits⟩

/-- A number that has the exponent already stays as it is. -/
theorem quantize_self {ctx : DecimalContext} {mode : Rounding} {exp : Int} {neg : Bool}
    {coeff : Nat} (hdigits : numDigits coeff ≤ ctx.prec) :
    (finite neg coeff exp).quantize ctx mode exp = .ok (.finite neg coeff exp) := by
  have hnone : checkNans ctx [.finite neg coeff exp] = none := rfl
  simp only [quantize, hnone]
  by_cases hzero : coeff = 0
  · rw [if_pos hzero, hzero]
  · have hrescale : rescale mode coeff exp exp = coeff := by
      simp [rescale]
    have hadjusted : ¬ (ctx.prec : Int) < adjusted coeff exp + 1 - exp := by
      simp only [adjusted]
      omega
    rw [if_neg hzero, if_neg hadjusted, hrescale, if_neg (by omega)]

/-- `int(d.to_integral_value(rounding))`. -/
def toInt (mode : Rounding) : PyDecimal → Except PyError Int
  | .finite neg coeff exp =>
      .ok (if neg then -(rescale mode coeff exp 0 : Int) else rescale mode coeff exp 0)
  | .infinity _ => .error ⟨.overflowError, "cannot convert Infinity to integer"⟩
  | .nan _ true _ => .error (invalidOperation "sNaN")
  | .nan _ false _ => .error ⟨.valueError, "cannot convert NaN to integer"⟩

/-! ### Text -/

/-- `-` for a negative value. -/
def signText (neg : Bool) : List Char := if neg then ['-'] else []

/-- The text of a special value. -/
def specialText : PyDecimal → List Char
  | .infinity neg => signText neg ++ "Infinity".toList
  | .nan neg signaling payload =>
      signText neg ++ (if signaling then "sNaN".toList else "NaN".toList) ++
        if payload = 0 then [] else natText payload
  | .finite .. => []

/-- Digits with a point before the last `scale` of them. -/
def pointText (coeff scale : Nat) : List Char :=
  let digits := natText coeff
  let padded := List.replicate (scale + 1 - digits.length) '0' ++ digits
  padded.take (padded.length - scale) ++ '.' :: padded.drop (padded.length - scale)

/-- `format(d, "f")`: plain notation, without an exponent. -/
def plainText : PyDecimal → List Char
  | .finite neg coeff exp =>
      if 0 ≤ exp then
        signText neg ++
          if coeff = 0 then ['0'] else natText coeff ++ List.replicate exp.toNat '0'
      else signText neg ++ pointText coeff (-exp).toNat
  | d => d.specialText

/-- `str(d)`: plain notation unless the exponent is positive or the value is tiny. -/
def text : PyDecimal → List Char
  | .finite neg coeff exp =>
      if exp = 0 then signText neg ++ natText coeff
      else if exp < 0 ∧ -6 ≤ adjusted coeff exp then signText neg ++ pointText coeff (-exp).toNat
      else
        let digits := natText coeff
        let exponent := adjusted coeff exp
        signText neg ++ (if digits.length = 1 then digits else pointText coeff (digits.length - 1)) ++
          'E' :: (if 0 ≤ exponent then '+' :: natText exponent.toNat
            else '-' :: natText (-exponent).toNat)
  | d => d.specialText

/-! ### Reading -/

/-- A character as `Decimal` reads it: digits of every script are ASCII digits, white
space is a space, anything else beyond ASCII is refused later on. -/
def asciiText (cs : List Char) : List Char :=
  (cs.filter (· ≠ '_')).map fun c => if isAsciiChar c then c else PyInt.asciiDigit c

/-- Splits off a sign. -/
def splitSign : List Char → Bool × List Char
  | '+' :: cs => (false, cs)
  | '-' :: cs => (true, cs)
  | cs => (false, cs)

/-- The exponent at the end of a number. -/
def readExponent : List Char → Option Int
  | [] => some 0
  | c :: cs =>
      if c = 'e' ∨ c = 'E' then
        let (neg, digits) := splitSign cs
        if digits ≠ [] ∧ digits.all isDecimal then
          some (if neg then -(readNat digits : Int) else readNat digits)
        else none
      else none

/-- An unsigned number: digits with an optional point, and an exponent. -/
def readNumber (neg : Bool) (cs : List Char) : Option PyDecimal :=
  let whole := cs.takeWhile isDecimal
  let afterWhole := cs.dropWhile isDecimal
  let (frac, rest) :=
    match afterWhole with
    | '.' :: rest => (rest.takeWhile isDecimal, rest.dropWhile isDecimal)
    | rest => ([], rest)
  if whole ++ frac = [] then none
  else (readExponent rest).map fun exp => .finite neg (readNat (whole ++ frac)) (exp - frac.length)

/-- A number of the maximal context, which has no exponents beyond its range. -/
def inRange : PyDecimal → Bool
  | .finite _ coeff exp =>
      let ctx := DecimalContext.maximal
      decide (ctx.etiny ≤ exp) &&
        decide ((if coeff = 0 then exp else adjusted coeff exp) ≤ ctx.emax)
  | _ => true

/-- `Decimal(text)` for a text without white space around it; no value is
`InvalidOperation`. -/
def ofText (text : List Char) : Option PyDecimal :=
  let (neg, cs) := splitSign (asciiText text)
  let lower := cs.map Char.toLower
  let nan (signaling : Bool) (digits : List Char) : Option PyDecimal :=
    if digits.all isDecimal then some (.nan neg signaling (readNat digits)) else none
  if lower = ['i', 'n', 'f'] ∨ lower = ['i', 'n', 'f', 'i', 'n', 'i', 't', 'y'] then
    some (.infinity neg)
  else
    match lower with
    | 'n' :: 'a' :: 'n' :: digits => nan false digits
    | 's' :: 'n' :: 'a' :: 'n' :: digits => nan true digits
    | _ => (readNumber neg cs).filter inRange

example : ofText "-1_2.50e1".toList = some (.finite true 1250 (-1)) := by decide +kernel

end PyDecimal

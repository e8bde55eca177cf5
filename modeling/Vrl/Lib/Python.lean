import Mathlib.Data.List.Basic
import Vrl.Lib.Text

/-!
# Vrl.Lib.Python

The parts of Python's standard library that verification code leans on:
exceptions, `hmac.compare_digest`, `uuid.UUID` and `datetime`.
-/

open TextCodec

/-! ### Exceptions -/

/-- The exception classes that occur in the modelled code. -/
inductive PyErrorKind where
  | typeError
  | valueError
  | overflowError
  | keyError
  | attributeError
  | runtimeError
  | notImplementedError
  | lookupError
  | invalidOperation
  | decimalOverflow
  | unicodeDecodeError
  | unicodeEncodeError
  | validationError
  deriving DecidableEq, Repr

/-- A raised exception with its message. -/
structure PyError where
  kind : PyErrorKind
  message : String
  deriving DecidableEq, Repr

/-! ### Peeling a fallible computation apart -/

section Fallible

variable {ε α β : Type}

@[simp] theorem Except.ok_bind (a : α) (f : α → Except ε β) : (Except.ok a >>= f) = f a := rfl

@[simp] theorem Except.error_bind (e : ε) (f : α → Except ε β) :
    (Except.error e >>= f) = Except.error e := rfl

@[simp] theorem Except.pure_eq_ok (a : α) : (pure a : Except ε α) = Except.ok a := rfl

theorem Except.error_ne_ok (e : ε) (a : α) : (Except.error e : Except ε α) ≠ .ok a := by
  intro h
  cases h

theorem Except.not_exists_error_eq_ok (e : ε) : ¬ ∃ a, (Except.error e : Except ε α) = .ok a := by
  rintro ⟨a, h⟩
  exact Except.error_ne_ok e a h

/-- A sequence of two steps succeeds when both do. -/
theorem Except.bind_eq_ok_iff {x : Except ε α} {f : α → Except ε β} {b : β} :
    (x >>= f) = .ok b ↔ ∃ a, x = .ok a ∧ f a = .ok b := by
  cases x with
  | error e => simp
  | ok a => simp

/-- It fails when one of them does. -/
theorem Except.bind_eq_error_iff {x : Except ε α} {f : α → Except ε β} {e : ε} :
    (x >>= f) = .error e ↔ x = .error e ∨ ∃ a, x = .ok a ∧ f a = .error e := by
  cases x with
  | error e' => simp
  | ok a => simp

/-- Where one of two steps is taken and the rest is the same, the step taken succeeds. -/
theorem Except.ite_bind_eq_ok {c : Prop} [Decidable c] {x y : Except ε α} {f : α → Except ε β} {b : β}
    (h : (if c then x >>= f else y >>= f) = .ok b) :
    ∃ a, (if c then x else y) = .ok a ∧ f a = .ok b := by
  split at h
  · next hc =>
      obtain ⟨a, ha, h⟩ := Except.bind_eq_ok_iff.mp h
      exact ⟨a, by rw [if_pos hc, ha], h⟩
  · next hc =>
      obtain ⟨a, ha, h⟩ := Except.bind_eq_ok_iff.mp h
      exact ⟨a, by rw [if_neg hc, ha], h⟩

/-- A loop that succeeds has done so on every item. -/
theorem Except.forall₂_of_mapM {f : α → Except ε β} {items : List α} {results : List β}
    (h : items.mapM f = .ok results) : List.Forall₂ (fun a b => f a = .ok b) items results := by
  induction items generalizing results with
  | nil =>
      rw [List.mapM_nil] at h
      cases h
      exact .nil
  | cons item items ih =>
      rw [List.mapM_cons] at h
      obtain ⟨result, hresult, h⟩ := Except.bind_eq_ok_iff.mp h
      obtain ⟨rest, hrest, h⟩ := Except.bind_eq_ok_iff.mp h
      cases h
      exact .cons hresult (ih hrest)

/-- A loop succeeds exactly if it does so on every item. -/
theorem Except.mapM_ok_iff {f : α → Except ε β} {items : List α} :
    (∃ results, items.mapM f = .ok results) ↔ ∀ item ∈ items, ∃ result, f item = .ok result := by
  induction items with
  | nil => simp
  | cons item items ih =>
      rw [List.forall_mem_cons, ← ih, List.mapM_cons]
      cases hitem : f item with
      | error e => simp
      | ok result =>
          cases hitems : items.mapM f with
          | error e => simp
          | ok results => simp

end Fallible

/-! ### Comparing digests -/

/-- `hmac.compare_digest` on two strings. It refuses text that is not ASCII. -/
def compareDigest (a b : String) : Except PyError Bool :=
  if IsAscii a.toList ∧ IsAscii b.toList then .ok (a == b)
  else .error ⟨.typeError, "comparing strings with non-ASCII characters is not supported"⟩

theorem compareDigest_eq_true {a b : String} (h : compareDigest a b = .ok true) : a = b := by
  unfold compareDigest at h
  split at h
  · simpa using h
  · cases h

theorem compareDigest_self {a : String} (h : IsAscii a.toList) :
    compareDigest a a = .ok true := by
  simp [compareDigest, h]

theorem compareDigest_ascii {a b : String} (ha : IsAscii a.toList) (hb : IsAscii b.toList) :
    compareDigest a b = .ok (a == b) := by
  simp [compareDigest, ha, hb]

/-! ### UUIDs -/

/-- A 128-bit UUID. -/
structure Uuid where
  value : Fin (16 ^ 32)
  deriving DecidableEq

namespace Uuid

instance instNeZeroValues : NeZero (16 ^ 32) := ⟨by decide⟩

/-- The 32 hexadecimal digits of a UUID. -/
def hex (u : Uuid) : List Char := hexFixed 32 u.value

/-- `str` of a UUID: its digits in groups of 8, 4, 4, 4 and 12. -/
def text (u : Uuid) : List Char :=
  let h := u.hex
  h.take 8 ++ '-' :: ((h.drop 8).take 4 ++ '-' :: ((h.drop 12).take 4 ++
    '-' :: ((h.drop 16).take 4 ++ '-' :: h.drop 20)))

theorem hex_injective {u v : Uuid} (h : u.hex = v.hex) : u = v := by
  have hval := hexFixed_injective u.value.isLt v.value.isLt h
  cases u
  cases v
  exact congrArg Uuid.mk (Fin.ext hval)

/-- The digits are what is left of the text once the hyphens are removed. -/
theorem filter_text (u : Uuid) : u.text.filter (· != '-') = u.hex := by
  have hkeep : ∀ cs : List Char, (∀ c ∈ cs, isLowerHex c = true) → cs.filter (· != '-') = cs := by
    intro cs hcs
    refine List.filter_eq_self.mpr fun c hc => ?_
    have hc' := hcs c hc
    rw [bne_iff_ne]
    rintro rfl
    exact absurd hc' (by decide)
  have hhex : ∀ c ∈ u.hex, isLowerHex c = true := hexFixed_isLowerHex 32 u.value
  have htake : ∀ i j, ((u.hex.drop i).take j).filter (· != '-') = (u.hex.drop i).take j :=
    fun i j => hkeep _ fun c hc => hhex c (List.mem_of_mem_drop (List.mem_of_mem_take hc))
  have hrest := hkeep (u.hex.drop 20) fun c hc => hhex c (List.mem_of_mem_drop hc)
  have h8 := htake 0 8
  rw [List.drop_zero] at h8
  have hsplit : ∀ i j, (u.hex.drop i).take j ++ u.hex.drop (i + j) = u.hex.drop i := by
    intro i j
    rw [← List.drop_drop, List.take_append_drop]
  simp only [text, List.filter_append, List.filter_cons, bne_self_eq_false, h8, htake, hrest,
    Bool.false_eq_true, if_false]
  rw [hsplit 16 4, hsplit 12 4, hsplit 8 4, List.take_append_drop]

theorem text_injective {u v : Uuid} (h : u.text = v.text) : u = v := by
  refine hex_injective ?_
  rw [← filter_text, h, filter_text]

theorem text_isAscii (u : Uuid) : IsAscii u.text := by
  have hhex : ∀ c ∈ u.hex, isAsciiChar c = true := fun c hc =>
    isAsciiChar_of_isLowerHex (hexFixed_isLowerHex 32 u.value c hc)
  have hpart : ∀ i j, IsAscii ((u.hex.drop i).take j) := fun i j c hc =>
    hhex c (List.mem_of_mem_drop (List.mem_of_mem_take hc))
  have hlast : IsAscii (u.hex.drop 20) := fun c hc => hhex c (List.mem_of_mem_drop hc)
  have hdash : isAsciiChar '-' = true := by decide
  simp only [text, isAscii_append, isAscii_cons, hdash, hlast, hpart, and_true]
  exact hpart 0 8

end Uuid

/-! ### Dates and times -/

/-- The microseconds of a day. -/
def dayMicros : Nat := 86400000000

/-- The microseconds from `datetime.min` to the end of the year 9999. -/
def maxMicros : Nat := 3652059 * dayMicros

/-- A `datetime`: local microseconds since the first instant of year 1, with the
UTC offset in microseconds (the system's own for a value without a time zone). -/
structure DateTime where
  micros : Nat
  offset : Int
  inRange : micros < maxMicros

/-- Days before each month of a common year. -/
def daysBeforeMonth : Nat → Nat
  | 1 => 0 | 2 => 31 | 3 => 59 | 4 => 90 | 5 => 120 | 6 => 151
  | 7 => 181 | 8 => 212 | 9 => 243 | 10 => 273 | 11 => 304 | _ => 334

/-- Days of each month of a common year. -/
def daysInMonth : Nat → Nat
  | 2 => 28 | 4 => 30 | 6 => 30 | 9 => 30 | 11 => 30 | _ => 31

/-- Year, month and day of a day counted from the first of January of year 1. -/
def ord2ymd (day : Nat) : Nat × Nat × Nat :=
  let n400 := day / 146097
  let n := day % 146097
  let n100 := n / 36524
  let n := n % 36524
  let n4 := n / 1461
  let n := n % 1461
  let n1 := n / 365
  let n := n % 365
  let year := n400 * 400 + 1 + n100 * 100 + n4 * 4 + n1
  if n1 = 4 ∨ n100 = 4 then (year - 1, 12, 31)
  else
    let leapDay := if n1 = 3 ∧ (n4 ≠ 24 ∨ n100 = 3) then 1 else 0
    let month := (n + 50) / 32
    let preceding := daysBeforeMonth month + if month > 2 then leapDay else 0
    if preceding > n then
      let month := month - 1
      let preceding := preceding - (daysInMonth month + if month = 2 then leapDay else 0)
      (year, month, n - preceding + 1)
    else (year, month, n - preceding + 1)

/-- The last `w` decimal digits of `n`. -/
def decFixed : Nat → Nat → List Char
  | 0, _ => []
  | w + 1, n => decFixed w (n / 10) ++ [hexDigit (n % 10)]

theorem decFixed_isAscii (w n : Nat) : IsAscii (decFixed w n) := by
  induction w generalizing n with
  | zero => exact isAscii_nil
  | succ w ih =>
      refine isAscii_append.mpr ⟨ih _, isAscii_cons.mpr ⟨?_, isAscii_nil⟩⟩
      exact isAsciiChar_of_isDecimal (isDecimal_hexDigit (Nat.mod_lt _ (by norm_num)))

namespace DateTime

/-- `datetime.min` in UTC. -/
def min : DateTime := ⟨0, 0, by decide⟩

/-- Microseconds since the first instant of year 1 in UTC: `astimezone(utc)`. -/
def toUtc (t : DateTime) : Except PyError Nat :=
  let utc := (t.micros : Int) - t.offset
  if 0 ≤ utc ∧ utc < maxMicros then .ok utc.toNat
  else .error ⟨.overflowError, "date value out of range"⟩

end DateTime

/-- Date and time to the second, as `isoformat` writes it for UTC with the offset
`+00:00` replaced by `Z`. -/
def isoSeconds (utc : Nat) : List Char :=
  let (year, month, day) := ord2ymd (utc / dayMicros)
  let second := utc % dayMicros / 1000000
  decFixed 4 year ++ '-' :: (decFixed 2 month ++ '-' :: (decFixed 2 day ++
    'T' :: (decFixed 2 (second / 3600) ++ ':' :: (decFixed 2 (second / 60 % 60) ++
      ':' :: (decFixed 2 (second % 60) ++ ['Z'])))))

theorem isoSeconds_isAscii (utc : Nat) : IsAscii (isoSeconds utc) := by
  have hsep : isAsciiChar '-' = true ∧ isAsciiChar ':' = true ∧ isAsciiChar 'T' = true ∧
      isAsciiChar 'Z' = true := by decide
  simp only [isoSeconds, isAscii_append, isAscii_cons, decFixed_isAscii, hsep, isAscii_nil,
    and_self]

example : isoSeconds (63839664000000000 + 3723 * 1000000) = "2024-01-01T01:02:03Z".toList := by
  decide +kernel

import Mathlib.Data.List.DropRight
import Vrl.Lib.Python

/-!
# Vrl.Lib.GoTime

Instants of Go's `time` package, and their text in the layout `time.RFC3339Nano`.

The layout writes a fraction without the zeros at its end, and none at all for a whole
second, so the length of the text depends on the instant
(**`significant_length_le_iff`**).
-/

open TextCodec

namespace GoTime

/-- An instant: seconds since the first instant of year 1 in UTC, and nanoseconds within
the second. -/
structure Instant where
  seconds : Int
  nanosecond : Nat
  nanosecond_lt : nanosecond < 10 ^ 9

/-! ### Fractions -/

/-- The digits of a fraction that are left without the zeros at the end. -/
def significant (digits : List Char) : List Char := digits.rdropWhile (· = '0')

theorem hexDigit_eq_zero_iff {d : Nat} (h : d < 10) : hexDigit d = '0' ↔ d = 0 := by
  interval_cases d <;> decide

theorem decFixed_length (w n : Nat) : (decFixed w n).length = w := by
  induction w generalizing n with
  | zero => rfl
  | succ w ih => simp [decFixed, ih]

theorem decFixed_isDecimal (w n : Nat) : ∀ c ∈ decFixed w n, isDecimal c = true := by
  induction w generalizing n with
  | zero => exact fun c hc => absurd hc List.not_mem_nil
  | succ w ih =>
      intro c hc
      rw [decFixed, List.mem_append, List.mem_singleton] at hc
      rcases hc with hc | rfl
      · exact ih _ c hc
      · exact isDecimal_hexDigit (Nat.mod_lt _ (by norm_num))

/-- The leading digits are those of the number without its last places. -/
theorem take_decFixed (w k n : Nat) : (decFixed (w + k) n).take w = decFixed w (n / 10 ^ k) := by
  induction k generalizing n with
  | zero =>
      rw [Nat.add_zero, pow_zero, Nat.div_one]
      exact List.take_of_length_le (decFixed_length w n).le
  | succ k ih =>
      have hle : w ≤ (decFixed (w + k) (n / 10)).length := by
        rw [decFixed_length]
        omega
      rw [← Nat.add_assoc, decFixed, List.take_append_of_le_length hle, ih, Nat.div_div_eq_div_mul,
        pow_succ']

/-- At most `m` of `w` digits are significant exactly if the places below are empty. The
induction is on the digits, from the last one. -/
theorem significant_length_le_iff {w m : Nat} (h : m ≤ w) (n : Nat) :
    (significant (decFixed w n)).length ≤ m ↔ 10 ^ (w - m) ∣ n := by
  induction w generalizing n with
  | zero => simp [significant, decFixed]
  | succ w ih =>
      have hdigit : n % 10 < 10 := Nat.mod_lt _ (by norm_num)
      rcases Nat.lt_or_ge w m with hw | hm
      · have hlength := (List.rdropWhile_prefix (fun c => decide (c = '0'))
          (decFixed (w + 1) n)).length_le
        rw [decFixed_length] at hlength
        rw [show w + 1 - m = 0 by omega, pow_zero]
        exact iff_of_true (by rw [significant]; omega) (one_dvd n)
      · rw [show w + 1 - m = w - m + 1 by omega, pow_succ', significant, decFixed]
        by_cases hzero : n % 10 = 0
        · obtain ⟨k, rfl⟩ := Nat.dvd_of_mod_eq_zero hzero
          rw [List.rdropWhile_concat_pos _ _ _ (by rw [hzero]; rfl),
            Nat.mul_div_cancel_left k (by norm_num), Nat.mul_dvd_mul_iff_left (by norm_num)]
          exact ih hm k
        · rw [List.rdropWhile_concat_neg _ _ _ (by simpa [hexDigit_eq_zero_iff hdigit] using hzero),
            List.length_append, decFixed_length, List.length_singleton]
          exact iff_of_false (by omega) fun hdvd =>
            hzero (Nat.mod_eq_zero_of_dvd (dvd_of_mul_right_dvd hdvd))

/-- The significant digits begin the digits. -/
theorem take_significant {digits : List Char} {k : Nat} (h : k ≤ (significant digits).length) :
    (significant digits).take k = digits.take k := by
  obtain ⟨zeros, hdigits⟩ := List.rdropWhile_prefix (fun c => decide (c = '0')) digits
  conv_rhs => rw [← hdigits]
  exact (List.take_append_of_le_length h).symm

/-! ### The layout -/

namespace Instant

variable (t : Instant)

/-- Year, month and day in UTC. The calendar repeats after 400 years, which have 146097 days. -/
def date : Int × Nat × Nat :=
  let day := t.seconds / 86400
  let (year, month, day') := ord2ymd (day % 146097).toNat
  (year + 400 * (day / 146097), month, day')

/-- The second of the day. -/
def secondOfDay : Nat := (t.seconds % 86400).toNat

/-- `Year`. -/
def year : Int := t.date.1

/-- `appendInt` to four places: a number with more digits has all of them. -/
def yearText (year : Int) : List Char :=
  let digits := if year.natAbs < 10000 then decFixed 4 year.natAbs else natText year.natAbs
  if year < 0 then '-' :: digits else digits

/-- What follows the year, up to the second. -/
def afterYear : List Char :=
  let (_, month, day) := t.date
  '-' :: (decFixed 2 month ++ '-' :: (decFixed 2 day ++
    'T' :: (decFixed 2 (t.secondOfDay / 3600) ++ ':' :: (decFixed 2 (t.secondOfDay / 60 % 60) ++
      ':' :: decFixed 2 (t.secondOfDay % 60)))))

/-- Date and time to the second. -/
def upToSecond : List Char := yearText t.year ++ t.afterYear

/-- The fraction of `RFC3339Nano`. -/
def fraction : List Char :=
  match significant (decFixed 9 t.nanosecond) with
  | [] => []
  | digits => '.' :: digits

/-- `Format(time.RFC3339Nano)` in UTC. -/
def formatRfc3339Nano : List Char := t.upToSecond ++ (t.fraction ++ ['Z'])

/-- RFC 3339 in UTC with exactly three digits of a fraction. RFC 3339 has four digits for
a year, and none for the years that do not have as many. -/
def rfc3339Millis : Option (List Char) :=
  if 0 ≤ t.year ∧ t.year ≤ 9999 then
    some (t.upToSecond ++ '.' :: (decFixed 3 (t.nanosecond / 10 ^ 6) ++ ['Z']))
  else none

theorem afterYear_length : t.afterYear.length = 15 := by
  simp only [afterYear, List.length_cons, List.length_append, decFixed_length]

/-- Date and time take 19 characters in the years of RFC 3339. -/
theorem upToSecond_length (h : 0 ≤ t.year ∧ t.year ≤ 9999) : t.upToSecond.length = 19 := by
  rw [upToSecond, List.length_append, afterYear_length, yearText, if_neg (by omega),
    if_pos (by omega), decFixed_length]

end Instant

end GoTime

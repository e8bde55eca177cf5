import Vrl.Lib.GoTime
import Vrl.Sdk.Go.Bundle

/-!
# Vrl.Sdk.Go.Builder

The time at which the builder of the Go SDK dates a bundle (`sdk/go/vrl/builder.go`).

The first 23 characters of a text whose length depends on the instant are meant to be
the time to the millisecond. They are for all instants but the whole hundredths of a
second (**`newBuilder_issuedAt_iff`**): with two digits of a fraction the text has 23
characters, and with fewer the slice is out of bounds.
-/

open TextCodec GoTime

namespace Vrl.Sdk.Go

/-! ### Construction -/

/-- The bundle whose fields all have their zero values. -/
def ProofBundle.zero : ProofBundle where
  vrlVersion := ""
  bundleId := ""
  issuedAt := ""
  aiIdentity := ⟨"", "", "", "", "", "", "", ""⟩
  computation := ⟨"", "", "", "", "", "", ""⟩
  proof := ⟨"", "", [], "", [], ""⟩

/-- `s[:n]`, which panics if there are fewer than `n` bytes. The texts that are sliced are
in ASCII, where characters are bytes. -/
def sliceTo (s : List Char) (n : Nat) : Option (List Char) :=
  if n ≤ s.length then some (s.take n) else none

/-- `NewBuilder` at an instant: the bundle that is to be filled in, unless it panics. -/
def newBuilder (now : Instant) : Option ProofBundle := do
  let millis ← sliceTo now.formatRfc3339Nano 23
  return { ProofBundle.zero with
    vrlVersion := "1.0"
    issuedAt := String.ofList (millis ++ ['Z']) }

/-- The text that is sliced. -/
theorem newBuilder_eq_some_iff {now : Instant} {bundle : ProofBundle} :
    newBuilder now = some bundle ↔ 23 ≤ now.formatRfc3339Nano.length ∧
      { ProofBundle.zero with
        vrlVersion := "1.0"
        issuedAt := String.ofList (now.formatRfc3339Nano.take 23 ++ ['Z']) } = bundle := by
  rw [newBuilder, sliceTo]
  split_ifs with hlength
  · rw [and_iff_right hlength]
    exact Option.some_inj
  · exact iff_of_false nofun fun h => hlength h.1

/-! ### Instants with a fraction -/

section FourDigitYears

variable {now : Instant} (hyear : 0 ≤ now.year ∧ now.year ≤ 9999)
include hyear

theorem format_length : now.formatRfc3339Nano.length =
    if significant (decFixed 9 now.nanosecond) = [] then 20
    else 21 + (significant (decFixed 9 now.nanosecond)).length := by
  rw [Instant.formatRfc3339Nano, List.length_append, List.length_append,
    now.upToSecond_length hyear, Instant.fraction]
  split
  · next hnone => rw [if_pos hnone, List.length_nil, List.length_singleton]
  · next hsome =>
      rw [if_neg hsome, List.length_cons, List.length_singleton]
      omega

/-- The builder panics exactly at the instants with at most one digit of a fraction. -/
theorem newBuilder_eq_none_iff : newBuilder now = none ↔ 10 ^ 8 ∣ now.nanosecond := by
  have hlength := significant_length_le_iff (w := 9) (m := 1) (by norm_num) now.nanosecond
  have hnone : newBuilder now = none ↔ now.formatRfc3339Nano.length < 23 := by
    rw [newBuilder, sliceTo]
    split_ifs with h
    · exact iff_of_false nofun (by omega)
    · exact iff_of_true rfl (by omega)
  rw [hnone, format_length hyear, ← hlength]
  split_ifs with h
  · rw [h]
    exact iff_of_true (by norm_num) (by norm_num)
  · omega

/-- With two digits the text that is sliced has 23 characters, the `Z` among them. -/
theorem take_format_of_two
    (hlength : (significant (decFixed 9 now.nanosecond)).length = 2) :
    now.formatRfc3339Nano.take 23 = now.upToSecond ++
      '.' :: (significant (decFixed 9 now.nanosecond) ++ ['Z']) := by
  have hne : significant (decFixed 9 now.nanosecond) ≠ [] := by
    intro hnil
    rw [hnil] at hlength
    cases hlength
  have hall : now.formatRfc3339Nano.length = 23 := by
    rw [format_length hyear, if_neg hne, hlength]
  rw [List.take_of_length_le hall.le, Instant.formatRfc3339Nano, Instant.fraction]
  split
  · next hnil => exact absurd hnil hne
  · rfl

/-- With three digits and more it ends with the third of them. -/
theorem take_format_of_three
    (hlength : 3 ≤ (significant (decFixed 9 now.nanosecond)).length) :
    now.formatRfc3339Nano.take 23 =
      now.upToSecond ++ '.' :: decFixed 3 (now.nanosecond / 10 ^ 6) := by
  have hhead := now.upToSecond_length hyear
  rw [← take_decFixed 3 6, ← take_significant hlength, Instant.formatRfc3339Nano, Instant.fraction]
  split
  · next hnil =>
      rw [hnil] at hlength
      cases hlength
  · rw [List.take_append, List.take_of_length_le (by omega), hhead, List.cons_append,
      List.take_succ_cons, List.take_append_of_le_length hlength]

end FourDigitYears

/-! ### The time of issue -/

/-- **The builder dates a bundle to the millisecond exactly at the instants whose
nanoseconds have three digits or more once the zeros at the end are gone.** In a year
without four digits there is no such text. -/
theorem newBuilder_issuedAt_iff (now : Instant) :
    (∃ bundle, newBuilder now = some bundle ∧
      now.rfc3339Millis.map String.ofList = some bundle.issuedAt) ↔
        (0 ≤ now.year ∧ now.year ≤ 9999) ∧ ¬ 10 ^ 7 ∣ now.nanosecond := by
  rw [Instant.rfc3339Millis]
  split_ifs with hyear
  · have hdigits := significant_length_le_iff (w := 9) (m := 2) (by norm_num) now.nanosecond
    have hformat := format_length hyear
    rw [and_iff_right hyear, ← hdigits]
    constructor
    · rintro ⟨bundle, hbundle, htext⟩ hle
      obtain ⟨hlong, rfl⟩ := newBuilder_eq_some_iff.mp hbundle
      have htwo : (significant (decFixed 9 now.nanosecond)).length = 2 := by
        split_ifs at hformat
        · omega
        · omega
      -- what should be the third digit is the `Z`
      rw [take_format_of_two hyear htwo, Option.map_some, Option.some_inj, String.ofList_inj,
        List.append_assoc, List.append_cancel_left_eq, List.cons_append, List.cons_inj_right,
        List.append_cancel_right_eq] at htext
      have hdecimal := decFixed_isDecimal 3 (now.nanosecond / 10 ^ 6) 'Z' (by rw [htext]; simp)
      exact absurd hdecimal (by decide)
    · intro hgt
      have hthree : 3 ≤ (significant (decFixed 9 now.nanosecond)).length := by omega
      have hne : significant (decFixed 9 now.nanosecond) ≠ [] := by
        intro hnil
        rw [hnil] at hthree
        cases hthree
      rw [if_neg hne] at hformat
      refine ⟨_, newBuilder_eq_some_iff.mpr ⟨by omega, rfl⟩, ?_⟩
      rw [take_format_of_three hyear hthree, Option.map_some, List.append_assoc, List.cons_append]
  · exact iff_of_false nofun fun h => hyear h.1

/-- The first instant of 2024. -/
def newYear : Instant := ⟨63839664000, 0, by norm_num⟩

/-- 120 milliseconds later. -/
def newYearLater : Instant := ⟨63839664000, 120000000, by norm_num⟩

/-- At a whole second the builder panics, and a hundredth of a second gives two `Z`. -/
theorem newBuilder_newYear : newBuilder newYear = none ∧
    (newBuilder newYearLater).map ProofBundle.issuedAt = some "2024-01-01T00:00:00.12ZZ" ∧
    newYear.rfc3339Millis.map String.ofList = some "2024-01-01T00:00:00.000Z" ∧
    newYearLater.rfc3339Millis.map String.ofList = some "2024-01-01T00:00:00.120Z" := by
  decide +kernel

end Vrl.Sdk.Go

import Vrl.Lib.Text
import Mathlib.Data.String.Basic

/-!
# Vrl.Lib.TextOrder

Numbers in the order of their texts.

Texts are compared character by character, so that `"10"` comes before `"9"`. Numbers with equally
many digits are in the order of their texts (**`natText_lt`**).
-/

namespace TextCodec

theorem natText_of_lt {n : Nat} (h : n < 10) : natText n = [hexDigit n] := by
  interval_cases n <;> rfl

theorem natText_of_le {n : Nat} (h : 10 ≤ n) :
    natText n = natText (n / 10) ++ [hexDigit (n % 10)] := by
  have hdiv : n / 10 ≠ 0 := by omega
  rw [natText, if_neg (by omega), natText, if_neg hdiv,
    Nat.digits_of_two_le_of_pos (by omega) (by omega), List.map_cons, List.reverse_cons]

theorem natText_length_pos (n : Nat) : 0 < (natText n).length :=
  List.length_pos_iff.mpr (natText_ne_nil n)

/-- Lists of one length are compared before what follows them. -/
theorem append_lt_append {α : Type} [LT α] {as bs : List α} (h : as < bs)
    (hlength : as.length = bs.length) (cs ds : List α) : as ++ cs < bs ++ ds := by
  induction as generalizing bs with
  | nil =>
      cases bs with
      | nil => cases h
      | cons b bs => cases hlength
  | cons a as ih =>
      cases bs with
      | nil => cases hlength
      | cons b bs =>
          rw [List.cons_append, List.cons_append]
          rcases List.cons_lt_cons_iff.mp h with hab | ⟨rfl, hrest⟩
          · exact List.cons_lt_cons_iff.mpr (.inl hab)
          · exact List.cons_lt_cons_iff.mpr (.inr ⟨rfl, ih hrest (Nat.succ.inj hlength)⟩)

theorem hexDigit_lt {m n : Nat} (hn : n < 10) (h : m < n) : hexDigit m < hexDigit n := by
  interval_cases n <;> interval_cases m <;> decide

/-- **Numbers with equally many digits are in the order of their texts.** -/
theorem natText_lt {m n : Nat} (h : m < n) (hwidth : (natText m).length = (natText n).length) :
    natText m < natText n := by
  induction n using Nat.strongRecOn generalizing m with
  | ind n ih =>
      rcases Nat.lt_or_ge n 10 with hn | hn
      · rw [natText_of_lt hn, natText_of_lt (by omega)]
        exact List.cons_lt_cons_iff.mpr (.inl (hexDigit_lt hn h))
      · have hpos := natText_length_pos (n / 10)
        rw [natText_of_le hn] at hwidth ⊢
        rw [List.length_append, List.length_singleton] at hwidth
        have hm : 10 ≤ m := by
          by_contra hm
          rw [natText_of_lt (by omega), List.length_singleton] at hwidth
          omega
        rw [natText_of_le hm] at hwidth ⊢
        rw [List.length_append, List.length_singleton] at hwidth
        rcases Nat.lt_or_ge (m / 10) (n / 10) with hdiv | hdiv
        · exact append_lt_append (ih (n / 10) (by omega) hdiv (by omega)) (by omega) _ _
        · have hsame : m / 10 = n / 10 := by omega
          rw [hsame]
          refine List.append_left_lt (List.cons_lt_cons_iff.mpr (.inl ?_))
          exact hexDigit_lt (by omega) (by omega)

end TextCodec

import Vrl.Lib.PyInt

/-!
# Vrl.Lib.PyNumeral

The grammar of the texts that Python's `int` reads to the base 16.

`PyInt.parsesBase16` reads such a text from left to right. The grammar says what may stand
in it: white space, a sign, a prefix, digits with underscores between them, white space.
The reader accepts exactly the texts of the grammar (**`PyInt.parsesBase16_iff`**).
-/

open TextCodec

namespace PyInt

/-! ### The grammar -/

/-- Digits of either case, with single underscores between them. -/
inductive IsDigitRun : List Char → Prop where
  | last {c : Char} : isHexAnyCase c = true → IsDigitRun [c]
  | digit {c : Char} {cs : List Char} : isHexAnyCase c = true → IsDigitRun cs → IsDigitRun (c :: cs)
  | underscore {c : Char} {cs : List Char} : isHexAnyCase c = true → IsDigitRun cs →
      IsDigitRun (c :: '_' :: cs)

/-- An integer literal to the base 16, with white space around it. -/
structure Numeral where
  before : List Char
  sign : List Char
  base : List Char
  digits : List Char
  after : List Char
  isSpace_before : ∀ c ∈ before, isCSpace c = true
  sign_mem : sign ∈ [[], ['+'], ['-']]
  base_mem : base ∈ [[], ['0', 'x'], ['0', 'X'], ['0', 'x', '_'], ['0', 'X', '_']]
  isDigitRun : IsDigitRun digits
  isSpace_after : ∀ c ∈ after, isCSpace c = true

/-- The characters of a literal. -/
def Numeral.text (n : Numeral) : List Char :=
  n.before ++ (n.sign ++ (n.base ++ (n.digits ++ n.after)))

theorem IsDigitRun.exists_cons {cs : List Char} (h : IsDigitRun cs) :
    ∃ c ds, isHexAnyCase c = true ∧ cs = c :: ds := by
  cases h with
  | last hc => exact ⟨_, _, hc, rfl⟩
  | digit hc _ => exact ⟨_, _, hc, rfl⟩
  | underscore hc _ => exact ⟨_, _, hc, rfl⟩

/-! ### What is read is in the grammar -/

theorem digitRun_cons_of_isHexAnyCase {c : Char} (hc : isHexAnyCase c = true) (b : Bool)
    (cs : List Char) : digitRun b (c :: cs) = digitRun false cs := by
  have hne : c ≠ '_' := ne_of_isHexAnyCase hc (by decide)
  rw [digitRun, if_neg hne, if_pos hc]

/-- A run that was read begins the text. The induction is on the text, on both sides of an
underscore. -/
theorem digitRun_some (cs : List Char) : ∀ {c : Char} {rest : List Char},
    isHexAnyCase c = true →
      (digitRun false cs = some rest → ∃ ds, IsDigitRun (c :: ds) ∧ cs = ds ++ rest) ∧
      (digitRun true cs = some rest → ∃ ds, IsDigitRun (c :: '_' :: ds) ∧ cs = ds ++ rest) := by
  induction cs with
  | nil =>
      intro c rest hc
      refine ⟨fun h => ⟨[], .last hc, ?_⟩, fun h => by cases h⟩
      rw [List.nil_append]
      exact Option.some.inj h
  | cons d cs ih =>
      intro c rest hc
      by_cases hd : d = '_'
      · subst hd
        refine ⟨fun h => ?_, fun h => by cases h⟩
        obtain ⟨ds, hds, rfl⟩ := (ih hc).2 h
        exact ⟨'_' :: ds, hds, rfl⟩
      · by_cases hhex : isHexAnyCase d = true
        · rw [digitRun_cons_of_isHexAnyCase hhex, digitRun_cons_of_isHexAnyCase hhex]
          constructor
          · intro h
            obtain ⟨ds, hds, rfl⟩ := (ih hhex).1 h
            exact ⟨d :: ds, .digit hc hds, rfl⟩
          · intro h
            obtain ⟨ds, hds, rfl⟩ := (ih hhex).1 h
            exact ⟨d :: ds, .underscore hc hds, rfl⟩
        · rw [digitRun, digitRun, if_neg hd, if_neg hhex, if_neg hd, if_neg hhex]
          refine ⟨fun h => ⟨[], .last hc, ?_⟩, fun h => by cases h⟩
          rw [List.nil_append]
          exact Option.some.inj h

theorem exists_digits_of_isDigitsThenSpace {cs : List Char} (h : isDigitsThenSpace cs = true) :
    ∃ digits after, IsDigitRun digits ∧ (∀ c ∈ after, isCSpace c = true) ∧
      cs = digits ++ after := by
  cases cs with
  | nil => cases h
  | cons c cs =>
      rw [isDigitsThenSpace, Bool.and_eq_true] at h
      obtain ⟨hc, h⟩ := h
      rw [digitRun_cons_of_isHexAnyCase hc] at h
      cases hrun : digitRun false cs with
      | none =>
          rw [hrun] at h
          cases h
      | some rest =>
          rw [hrun] at h
          obtain ⟨ds, hds, rfl⟩ := (digitRun_some cs hc).1 hrun
          exact ⟨c :: ds, rest, hds, List.all_eq_true.mp h, rfl⟩

/-- What is dropped in front of the digits is a prefix. -/
theorem dropPrefix_split (cs : List Char) :
    ∃ base ∈ [[], ['0', 'x'], ['0', 'X'], ['0', 'x', '_'], ['0', 'X', '_']],
      cs = base ++ dropPrefix cs := by
  unfold dropPrefix
  split
  · next x cs =>
      split_ifs with hx
      · split
        · next cs =>
            rcases hx with rfl | rfl
            · exact ⟨['0', 'x', '_'], by simp, rfl⟩
            · exact ⟨['0', 'X', '_'], by simp, rfl⟩
        · rcases hx with rfl | rfl
          · exact ⟨['0', 'x'], by simp, rfl⟩
          · exact ⟨['0', 'X'], by simp, rfl⟩
      · exact ⟨[], by simp, rfl⟩
  · exact ⟨[], by simp, rfl⟩

theorem dropSign_split (cs : List Char) :
    ∃ sign ∈ [[], ['+'], ['-']], cs = sign ++ dropSign cs := by
  unfold dropSign
  split
  · exact ⟨['+'], by simp, rfl⟩
  · exact ⟨['-'], by simp, rfl⟩
  · exact ⟨[], by simp, rfl⟩

/-! ### What is in the grammar is read -/

theorem IsDigitRun.digitRun_append {ds : List Char} (h : IsDigitRun ds) {after : List Char}
    (hafter : ∀ c ∈ after, isCSpace c = true) : digitRun false (ds ++ after) = some after := by
  have hend : digitRun false after = some after := by
    cases after with
    | nil => rfl
    | cons c cs =>
        have hc := hafter c (List.mem_cons_self ..)
        have hne : c ≠ '_' := by
          rintro rfl
          exact absurd hc (by decide)
        have hhex : ¬ isHexAnyCase c = true := by
          intro hhex
          rw [isCSpace_of_isHexAnyCase hhex] at hc
          cases hc
        rw [digitRun, if_neg hne, if_neg hhex]
        rfl
  induction h with
  | last hc => rw [List.singleton_append, digitRun_cons_of_isHexAnyCase hc, hend]
  | digit hc _ ih => rw [List.cons_append, digitRun_cons_of_isHexAnyCase hc, ih]
  | underscore hc hrun ih =>
      obtain ⟨d, ds, hd, rfl⟩ := hrun.exists_cons
      rw [List.cons_append, digitRun_cons_of_isHexAnyCase hc, List.cons_append]
      show digitRun true (d :: ds ++ after) = _
      rw [List.cons_append, digitRun_cons_of_isHexAnyCase hd,
        ← digitRun_cons_of_isHexAnyCase hd false]
      exact ih

theorem isDigitsThenSpace_append {ds : List Char} (h : IsDigitRun ds) {after : List Char}
    (hafter : ∀ c ∈ after, isCSpace c = true) : isDigitsThenSpace (ds ++ after) = true := by
  have hrun := h.digitRun_append hafter
  obtain ⟨c, cs, hc, rfl⟩ := h.exists_cons
  rw [List.cons_append] at hrun ⊢
  rw [isDigitsThenSpace, hc, hrun]
  exact List.all_eq_true.mpr hafter

/-- No prefix is hidden in digits. -/
theorem IsDigitRun.second_ne {ds after cs : List Char} {c x : Char} (h : IsDigitRun ds)
    (hafter : ∀ c ∈ after, isCSpace c = true) (heq : ds ++ after = c :: x :: cs) :
    x ≠ 'x' ∧ x ≠ 'X' := by
  cases h with
  | last hc =>
      obtain ⟨-, rfl⟩ := List.cons.inj heq
      have hx := hafter x (List.mem_cons_self ..)
      constructor
      · rintro rfl
        exact absurd hx (by decide)
      · rintro rfl
        exact absurd hx (by decide)
  | digit hc hrun =>
      obtain ⟨d, ds, hd, rfl⟩ := hrun.exists_cons
      obtain ⟨rfl, -⟩ := List.cons.inj (List.cons.inj heq).2
      exact ⟨ne_of_isHexAnyCase hd (by decide), ne_of_isHexAnyCase hd (by decide)⟩
  | underscore hc hrun =>
      obtain ⟨rfl, -⟩ := List.cons.inj (List.cons.inj heq).2
      exact ⟨by decide, by decide⟩

namespace Numeral

variable (n : Numeral)

/-- After the sign there is a digit, perhaps that of the prefix. -/
theorem exists_lead : ∃ c cs, isHexAnyCase c = true ∧
    n.base ++ (n.digits ++ n.after) = c :: cs := by
  obtain ⟨c, ds, hc, hdigits⟩ := n.isDigitRun.exists_cons
  have hbase := n.base_mem
  simp only [List.mem_cons, List.not_mem_nil, or_false] at hbase
  rcases hbase with h | h | h | h | h
  · exact ⟨c, ds ++ n.after, hc, by rw [h, hdigits]; rfl⟩
  all_goals exact ⟨'0', _, by decide, by rw [h]; rfl⟩

theorem dropPrefix_eq : dropPrefix (n.base ++ (n.digits ++ n.after)) = n.digits ++ n.after := by
  obtain ⟨c, ds, hc, hdigits⟩ := n.isDigitRun.exists_cons
  have hnext : c ≠ '_' := ne_of_isHexAnyCase hc (by decide)
  have hbase := n.base_mem
  simp only [List.mem_cons, List.not_mem_nil, or_false] at hbase
  rcases hbase with h | h | h | h | h
  · rw [h, List.nil_append]
    unfold dropPrefix
    split
    · next x cs heq =>
        have hne := n.isDigitRun.second_ne n.isSpace_after heq
        rw [if_neg (not_or.mpr hne), heq]
    · rfl
  · rw [h, hdigits]
    simp [dropPrefix, hnext]
  · rw [h, hdigits]
    simp [dropPrefix, hnext]
  · rw [h]
    rfl
  · rw [h]
    rfl

theorem dropSign_eq : dropSign (n.sign ++ (n.base ++ (n.digits ++ n.after))) =
    n.base ++ (n.digits ++ n.after) := by
  obtain ⟨c, cs, hc, hlead⟩ := n.exists_lead
  have hsign := n.sign_mem
  simp only [List.mem_cons, List.not_mem_nil, or_false] at hsign
  rcases hsign with h | h | h
  · rw [h, hlead, List.nil_append]
    unfold dropSign
    split
    · next heq => exact absurd (List.cons.inj heq).1 (ne_of_isHexAnyCase hc (by decide))
    · next heq => exact absurd (List.cons.inj heq).1 (ne_of_isHexAnyCase hc (by decide))
    · rfl
  · rw [h]
    rfl
  · rw [h]
    rfl

theorem dropWhile_eq : n.text.dropWhile isCSpace =
    n.sign ++ (n.base ++ (n.digits ++ n.after)) := by
  obtain ⟨c, cs, hc, hlead⟩ := n.exists_lead
  have hspace : ∃ d ds, isCSpace d = false ∧
      n.sign ++ (n.base ++ (n.digits ++ n.after)) = d :: ds := by
    have hsign := n.sign_mem
    simp only [List.mem_cons, List.not_mem_nil, or_false] at hsign
    rcases hsign with h | h | h
    · exact ⟨c, cs, isCSpace_of_isHexAnyCase hc, by rw [h, hlead]; rfl⟩
    · exact ⟨'+', _, by decide, by rw [h]; rfl⟩
    · exact ⟨'-', _, by decide, by rw [h]; rfl⟩
  obtain ⟨d, ds, hd, hrest⟩ := hspace
  rw [text, List.dropWhile_append_of_pos n.isSpace_before, hrest,
    List.dropWhile_cons_of_neg (by rw [hd]; exact Bool.false_ne_true)]

end Numeral

/-- **`int` reads exactly the texts of the grammar**, with digits and white space of every
script taken for those of ASCII. -/
theorem parsesBase16_iff (cs : List Char) :
    parsesBase16 cs = true ↔ ∃ n : Numeral, n.text = asciiDigits cs := by
  rw [parsesBase16]
  constructor
  · intro h
    obtain ⟨sign, hsign, hcs⟩ := dropSign_split ((asciiDigits cs).dropWhile isCSpace)
    obtain ⟨base, hbase, hbody⟩ :=
      dropPrefix_split (dropSign ((asciiDigits cs).dropWhile isCSpace))
    obtain ⟨digits, after, hdigits, hafter, hend⟩ := exists_digits_of_isDigitsThenSpace h
    refine ⟨⟨(asciiDigits cs).takeWhile isCSpace, sign, base, digits, after,
      fun _ => List.mem_takeWhile_imp, hsign, hbase, hdigits, hafter⟩, ?_⟩
    rw [Numeral.text, ← hend, ← hbody, ← hcs, List.takeWhile_append_dropWhile]
  · rintro ⟨n, htext⟩
    rw [← htext, n.dropWhile_eq, n.dropSign_eq, n.dropPrefix_eq]
    exact isDigitsThenSpace_append n.isDigitRun n.isSpace_after

end PyInt

import Vrl.Lib.PyInt
import Vrl.Lib.Python

/-!
# Vrl.Lib.PyBytes

Python's `bytes`, written as hexadecimal digits and read from them.

`hex` writes two lower-case digits for each byte. `fromHex` reads digits of either case, and
passes over white space between the pairs: it reads exactly the texts that are made of pairs and
white space (**`fromHex_ok_iff`**), and what was written it reads back (**`fromHex_hex`**). Texts
that differ in case or white space are read as the same bytes.
-/

open TextCodec PyInt

/-- Python's `bytes`. -/
abbrev PyBytes : Type := List (Fin 256)

namespace PyBytes

/-- `bytes.hex`. -/
def hex (bytes : PyBytes) : List Char := bytes.flatMap fun b : Fin 256 => hexFixed 2 b.val

/-- Reads pairs of digits, or finds the position where there is none. -/
def readPairs : Nat → List Char → Except Nat PyBytes
  | _, [] => .ok []
  | position, c :: cs =>
      if isCSpace c then readPairs (position + 1) cs
      else if isHexAnyCase c = false then .error position
      else
        match cs with
        | [] => .error (position + 1)
        | d :: ds =>
            if isHexAnyCase d = false then .error (position + 1)
            else (readPairs (position + 2) ds).map fun bytes =>
              Fin.ofNat 256 (16 * hexValue c + hexValue d) :: bytes

/-- The `ValueError` of `bytes.fromhex`. -/
def hexError (position : Nat) : PyError :=
  ⟨.valueError, "non-hexadecimal number found in fromhex() arg at position " ++
    String.ofList (natText position)⟩

/-- `bytes.fromhex`. A text that is not ASCII is refused for its first other character. -/
def fromHex (s : String) : Except PyError PyBytes :=
  match s.toList.findIdx? fun c => !isAsciiChar c with
  | some position => .error (hexError position)
  | none => (readPairs 0 s.toList).mapError hexError

/-- Pairs of hexadecimal digits, with white space before, between and after them. -/
inductive IsHexText : List Char → Prop where
  | nil : IsHexText []
  | space {c : Char} {cs : List Char} (hc : isCSpace c = true) (hcs : IsHexText cs) :
      IsHexText (c :: cs)
  | pair {c d : Char} {cs : List Char} (hc : isHexAnyCase c = true) (hd : isHexAnyCase d = true)
      (hcs : IsHexText cs) : IsHexText (c :: d :: cs)

/-! ### What is read -/

theorem isAsciiChar_of_isHexAnyCase {c : Char} (h : isHexAnyCase c = true) :
    isAsciiChar c = true := by
  have hbound := (isHexAnyCase_bounds h).2
  exact decide_eq_true (by omega)

theorem isAsciiChar_of_isCSpace {c : Char} (h : isCSpace c = true) : isAsciiChar c = true := by
  simp only [isCSpace, Bool.or_eq_true, decide_eq_true_eq, Bool.and_eq_true] at h
  rcases h with rfl | h
  · decide
  · exact decide_eq_true (by omega)

theorem IsHexText.isAscii {cs : List Char} (h : IsHexText cs) : IsAscii cs := by
  induction h with
  | nil => exact isAscii_nil
  | space hc _ ih => exact isAscii_cons.mpr ⟨isAsciiChar_of_isCSpace hc, ih⟩
  | pair hc hd _ ih =>
      exact isAscii_cons.mpr ⟨isAsciiChar_of_isHexAnyCase hc,
        isAscii_cons.mpr ⟨isAsciiChar_of_isHexAnyCase hd, ih⟩⟩

/-- Text that is read consists of pairs and white space, and has bytes unless it is all
white space. -/
theorem isHexText_of_readPairs {position : Nat} {cs : List Char} {bytes : PyBytes}
    (h : readPairs position cs = .ok bytes) :
    IsHexText cs ∧ (bytes = [] ↔ ∀ c ∈ cs, isCSpace c = true) := by
  fun_induction readPairs position cs generalizing bytes with
  | case1 position =>
      cases h
      exact ⟨.nil, by simp⟩
  | case2 position c cs hspace ih =>
      obtain ⟨htext, hnil⟩ := ih h
      refine ⟨.space hspace htext, ?_⟩
      rw [hnil, List.forall_mem_cons]
      exact (and_iff_right hspace).symm
  | case3 => cases h
  | case4 => cases h
  | case5 => cases h
  | case6 position c hspace hc d ds hd ih =>
      cases hread : readPairs (position + 2) ds with
      | error e =>
          rw [hread] at h
          cases h
      | ok rest =>
          rw [hread] at h
          cases h
          refine ⟨.pair (by simpa using hc) (by simpa using hd) (ih hread).1, ?_⟩
          exact iff_of_false (List.cons_ne_nil _ _) fun hall =>
            hspace (hall c (List.mem_cons_self ..))

theorem readPairs_pair {position : Nat} {c d : Char} {cs : List Char} {bytes : PyBytes}
    (hc : isHexAnyCase c = true) (hd : isHexAnyCase d = true)
    (hbytes : readPairs (position + 2) cs = .ok bytes) :
    readPairs position (c :: d :: cs) =
      .ok (Fin.ofNat 256 (16 * hexValue c + hexValue d) :: bytes) := by
  rw [readPairs, if_neg (by simp [isCSpace_of_isHexAnyCase hc]), if_neg (by simp [hc])]
  simp only [hd, Bool.true_eq_false, if_false, hbytes]
  rfl

theorem readPairs_of_isHexText {cs : List Char} (h : IsHexText cs) (position : Nat) :
    ∃ bytes, readPairs position cs = .ok bytes := by
  induction h generalizing position with
  | nil => exact ⟨[], rfl⟩
  | space hc _ ih =>
      obtain ⟨bytes, hbytes⟩ := ih (position + 1)
      refine ⟨bytes, ?_⟩
      rw [readPairs.eq_def]
      simp only [hc, if_true, hbytes]
  | pair hc hd _ ih =>
      obtain ⟨bytes, hbytes⟩ := ih (position + 2)
      exact ⟨_, readPairs_pair hc hd hbytes⟩

theorem findIdx_eq_none_iff {cs : List Char} :
    cs.findIdx? (fun c => !isAsciiChar c) = none ↔ IsAscii cs := by
  rw [List.findIdx?_eq_none_iff]
  exact forall₂_congr fun c _ => by simp

theorem fromHex_eq_ok_iff {s : String} {bytes : PyBytes} :
    fromHex s = .ok bytes ↔ readPairs 0 s.toList = .ok bytes := by
  rw [fromHex]
  split
  · next position hfind =>
      refine iff_of_false nofun fun hread => ?_
      rw [findIdx_eq_none_iff.mpr (isHexText_of_readPairs hread).1.isAscii] at hfind
      cases hfind
  · cases readPairs 0 s.toList with
    | error e => exact iff_of_false nofun nofun
    | ok bytes' =>
        show (Except.ok bytes' : Except PyError PyBytes) = .ok bytes ↔ _
        rw [Except.ok.injEq, Except.ok.injEq]

/-- **Pairs and white space are what is read.** -/
theorem fromHex_ok_iff {s : String} : (∃ bytes, fromHex s = .ok bytes) ↔ IsHexText s.toList := by
  constructor
  · intro ⟨bytes, h⟩
    exact (isHexText_of_readPairs (fromHex_eq_ok_iff.mp h)).1
  · intro h
    obtain ⟨bytes, hbytes⟩ := readPairs_of_isHexText h 0
    exact ⟨bytes, fromHex_eq_ok_iff.mpr hbytes⟩

/-- There are no bytes in white space, and nowhere else. -/
theorem fromHex_eq_nil_iff {s : String} {bytes : PyBytes} (h : fromHex s = .ok bytes) :
    bytes = [] ↔ ∀ c ∈ s.toList, isCSpace c = true :=
  (isHexText_of_readPairs (fromHex_eq_ok_iff.mp h)).2

/-! ### What is written -/

theorem hexDigit_injective {m n : Nat} (hm : m < 16) (hn : n < 16) (h : hexDigit m = hexDigit n) :
    m = n := by
  have hval := congrArg hexVal h
  rw [hexVal_hexDigit hm, hexVal_hexDigit hn] at hval
  exact Option.some.inj hval

theorem hex_cons (b : Fin 256) (bytes : PyBytes) :
    hex (b :: bytes) = hexDigit (b / 16) :: hexDigit (b % 16) :: hex bytes := by
  have hmod : (b : Nat) / 16 % 16 = b / 16 := Nat.mod_eq_of_lt (by omega)
  rw [hex, List.flatMap_cons, hexFixed, hexFixed, hexFixed, hmod]
  rfl

theorem isLowerHex_hex (bytes : PyBytes) : ∀ c ∈ hex bytes, isLowerHex c = true := by
  intro c hc
  obtain ⟨b, -, hc⟩ := List.mem_flatMap.mp hc
  exact hexFixed_isLowerHex 2 b c hc

theorem isAscii_hex (bytes : PyBytes) : IsAscii (hex bytes) :=
  fun c hc => isAsciiChar_of_isLowerHex (isLowerHex_hex bytes c hc)

theorem isHexText_of_isLowerHex {cs : List Char} (h : ∀ c ∈ cs, isLowerHex c = true)
    (heven : Even cs.length) : IsHexText cs := by
  induction cs using List.twoStepInduction with
  | nil => exact .nil
  | singleton c => simp at heven
  | cons_cons c d cs ih _ =>
      rw [List.forall_mem_cons, List.forall_mem_cons] at h
      exact .pair (isHexAnyCase_of_isLowerHex h.1) (isHexAnyCase_of_isLowerHex h.2.1)
        (ih h.2.2 (by simpa [Nat.even_add_one] using heven))

/-- What is read of lower-case digits, is written again as it was. -/
theorem hex_of_readPairs {position : Nat} {cs : List Char} {bytes : PyBytes}
    (h : ∀ c ∈ cs, isLowerHex c = true) (hread : readPairs position cs = .ok bytes) :
    hex bytes = cs := by
  fun_induction readPairs position cs generalizing bytes with
  | case1 position =>
      cases hread
      rfl
  | case2 position c cs hspace ih =>
      have hc := isHexAnyCase_of_isLowerHex (h c (List.mem_cons_self ..))
      rw [isCSpace_of_isHexAnyCase hc] at hspace
      cases hspace
  | case3 => cases hread
  | case4 => cases hread
  | case5 => cases hread
  | case6 position c _ _ d ds _ ih =>
      cases hrest : readPairs (position + 2) ds with
      | error e =>
          rw [hrest] at hread
          cases hread
      | ok rest =>
          rw [hrest] at hread
          cases hread
          rw [List.forall_mem_cons, List.forall_mem_cons] at h
          obtain ⟨m, hm, rfl⟩ := exists_hexDigit_of_isLowerHex h.1
          obtain ⟨n, hn, rfl⟩ := exists_hexDigit_of_isLowerHex h.2.1
          have hvalue : ((Fin.ofNat 256 (16 * m + n) : Fin 256) : Nat) = 16 * m + n :=
            Nat.mod_eq_of_lt (by omega)
          have hdiv : (16 * m + n) / 16 = m := by omega
          have hmod : (16 * m + n) % 16 = n := by omega
          rw [hexValue_hexDigit hm, hexValue_hexDigit hn, hex_cons, hvalue, hdiv, hmod,
            ih h.2.2 hrest]

theorem hex_of_fromHex {cs : List Char} (h : ∀ c ∈ cs, isLowerHex c = true) {bytes : PyBytes}
    (hread : fromHex (String.ofList cs) = .ok bytes) : hex bytes = cs := by
  rw [fromHex_eq_ok_iff, String.toList_ofList] at hread
  exact hex_of_readPairs h hread

theorem fromHex_of_isLowerHex {cs : List Char} (h : ∀ c ∈ cs, isLowerHex c = true)
    (heven : Even cs.length) : ∃ bytes, fromHex (String.ofList cs) = .ok bytes := by
  rw [fromHex_ok_iff, String.toList_ofList]
  exact isHexText_of_isLowerHex h heven

theorem hex_injective {a b : PyBytes} (h : hex a = hex b) : a = b := by
  induction a generalizing b with
  | nil =>
      cases b with
      | nil => rfl
      | cons y b =>
          rw [hex_cons] at h
          cases h
  | cons x a ih =>
      cases b with
      | nil =>
          rw [hex_cons] at h
          cases h
      | cons y b =>
          rw [hex_cons, hex_cons, List.cons.injEq, List.cons.injEq] at h
          obtain ⟨hhigh, hlow, hrest⟩ := h
          have hx : (x : Nat) / 16 = y / 16 := hexDigit_injective (by omega) (by omega) hhigh
          have hy : (x : Nat) % 16 = y % 16 := hexDigit_injective (by omega) (by omega) hlow
          rw [ih hrest, Fin.ext (show (x : Nat) = y by omega)]

/-- **What is written is read back.** -/
theorem fromHex_hex (bytes : PyBytes) : fromHex (String.ofList (hex bytes)) = .ok bytes := by
  have heven : Even (hex bytes).length := by
    induction bytes with
    | nil => exact ⟨0, rfl⟩
    | cons b bytes ih => simpa [hex_cons, Nat.even_add_one] using ih
  obtain ⟨bytes', hread⟩ := fromHex_of_isLowerHex (isLowerHex_hex bytes) heven
  rw [hread, hex_injective (hex_of_fromHex (isLowerHex_hex bytes) hread)]

end PyBytes

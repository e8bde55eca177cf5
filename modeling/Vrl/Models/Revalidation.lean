import Mathlib.Data.List.Infix
import Vrl.Lib.DecimalText
import Vrl.Lib.JsonEquality
import Vrl.Models.Schemas

/-!
# Vrl.Models.Revalidation

A request that has been validated is validated to itself, whether its amounts are passed on
as decimals or were written as text in between (**`modelValidate_requestMembers`**), and both
have the same canonical form.

The guards in front of a payload let such a request pass: its texts are plain, and it is
far smaller than a payload may be.
-/

open Pydantic TextCodec

namespace Vrl

variable (std : PyStd)

/-! ### Plain texts -/

theorem search_eq_false {matchesAt : Option Char → List Char → Bool} {cs : List Char}
    (h : ∀ before rest, rest <:+ cs → matchesAt before rest = false) (before : Option Char) :
    search matchesAt before cs = false := by
  induction cs generalizing before with
  | nil => exact h before [] (List.suffix_refl _)
  | cons c cs ih =>
      rw [search, h before _ (List.suffix_refl _), Bool.false_or]
      exact ih (fun before' rest hrest => h before' rest (hrest.trans (List.suffix_cons c cs))) _

/-- The words of the patterns. -/
def keywords : List String :=
  ["select", "insert", "update", "delete", "drop", "union", "alter", "create", "truncate", "xp_"]

/-- Short, without an operator, and nowhere in it does a word of the patterns begin. -/
def isPlain (cs : List Char) : Bool :=
  decide (cs.length ≤ 64) && !hasOperator cs && !cs.contains '<' &&
    cs.tails.all fun rest => keywords.all fun word => (readWord word.toList none rest).isNone

theorem utf8Length_le (cs : List Char) : utf8Length cs ≤ 4 * cs.length := by
  induction cs with
  | nil => exact Nat.le_refl _
  | cons c cs ih =>
      have hc := Char.utf8Size_le_four c
      rw [utf8Length] at ih ⊢
      rw [List.map_cons, List.sum_cons, List.length_cons]
      omega

theorem wordEndsHere_eq_false {words : List String} {cs : List Char}
    (h : ∀ word ∈ words, readWord word.toList none cs = none) :
    wordEndsHere std words cs = false := by
  rw [wordEndsHere, List.any_eq_false]
  intro word hword
  rw [h word hword]
  simp

theorem readWord_of_length_lt : ∀ (word : List Char) (last : Option Char) (cs : List Char),
    cs.length < word.length → readWord word last cs = none
  | [], _, _, h => by cases h
  | _ :: _, _, [], _ => by rw [readWord]
  | letter :: word, _, c :: cs, h => by
      rw [readWord, readWord_of_length_lt word (some c) cs (Nat.lt_of_succ_lt_succ h), ite_self]

/-- A plain text passes, whatever is known of the letters of other scripts. -/
theorem walkText_of_isPlain {s : String} (h : isPlain s.toList = true) :
    walkText std s = .ok () := by
  simp only [isPlain, Bool.and_eq_true, Bool.not_eq_true', decide_eq_true_eq, List.all_eq_true,
    List.mem_tails, Option.isNone_iff_eq_none] at h
  obtain ⟨⟨⟨hlength, hoperator⟩, hscript⟩, hwords⟩ := h
  have hsize : ¬ maxStringBytes < utf8Length s.toList := by
    have hle := utf8Length_le s.toList
    rw [maxStringBytes]
    omega
  have hkeyword : hasKeyword std s.toList = false := by
    refine search_eq_false (fun before rest hrest => ?_) none
    have hnone : wordEndsHere std keywords rest = false :=
      wordEndsHere_eq_false std (hwords rest hrest)
    rw [keywords] at hnone
    rw [hnone, Bool.and_false]
  have hscriptFree : hasScript std s.toList = false := by
    refine search_eq_false (fun before rest hrest => ?_) none
    split
    · have hmem : '<' ∈ s.toList := hrest.subset (List.mem_cons_self ..)
      rw [List.contains_iff_mem.mpr hmem] at hscript
      cases hscript
    · rfl
  rw [walkText, if_neg hsize, hasInjection, hoperator, hkeyword, hscriptFree]
  rfl

/-- Without a repeated sign and the other characters of the operators there is none. -/
theorem hasOperator_eq_false {cs : List Char} (hsign : cs.count '-' ≤ 1)
    (hother : ∀ c ∈ ['/', '*', ';'], c ∉ cs) : hasOperator cs = false := by
  refine search_eq_false (fun before rest hrest => ?_) none
  rw [List.any_eq_false]
  intro operator hmem hprefix
  rw [List.isPrefixOf_iff_prefix] at hprefix
  have hsub : operator.Sublist cs := hprefix.sublist.trans hrest.sublist
  simp only [List.mem_cons, List.not_mem_nil, or_false] at hmem
  rcases hmem with rfl | rfl | rfl | rfl
  · have hcount := hsub.count_le '-'
    have htwo : ['-', '-'].count '-' = 2 := by decide
    omega
  · exact hother '/' (by decide) (hsub.subset (List.mem_cons_self ..))
  · exact hother '*' (by decide) (hsub.subset (List.mem_cons_self ..))
  · exact hother ';' (by decide) (hsub.subset (List.mem_cons_self ..))

theorem isPlain_of_parts {cs : List Char} (hlength : cs.length ≤ 64)
    (hoperator : hasOperator cs = false) (hscript : '<' ∉ cs)
    (hwords : ∀ rest, rest <:+ cs → ∀ word ∈ keywords, readWord word.toList none rest = none) :
    isPlain cs = true := by
  have hcontains : cs.contains '<' = false := by
    rw [← Bool.not_eq_true, List.contains_iff_mem]
    exact hscript
  rw [isPlain, hoperator, hcontains, decide_eq_true hlength]
  simp only [Bool.not_false, Bool.and_true, Bool.true_and, List.all_eq_true, List.mem_tails,
    Option.isNone_iff_eq_none]
  exact hwords

/-- Digits, points and at most one sign are plain. -/
theorem isPlain_of_isNumberChar {cs : List Char} (hlength : cs.length ≤ 64)
    (hchars : ∀ c ∈ cs, PyDecimal.isNumberChar c = true) (hsign : cs.count '-' ≤ 1) :
    isPlain cs = true := by
  have hnot : ∀ c, PyDecimal.isNumberChar c = false → c ∉ cs := by
    intro c hc hmem
    rw [hchars c hmem] at hc
    cases hc
  refine isPlain_of_parts hlength (hasOperator_eq_false hsign fun c hc => hnot c ?_)
    (hnot '<' (by decide)) ?_
  · revert c
    decide
  · intro rest hrest word hword
    cases rest with
    | nil =>
        revert word
        decide
    | cons c rest =>
        -- no word begins with such a character
        have hmem : c ∈ cs := hrest.subset (List.mem_cons_self ..)
        obtain ⟨n, hlow, hhigh, rfl⟩ := PyDecimal.isNumberChar_cases (hchars c hmem)
        have hfirst : ∀ letter ∈ ['s', 'i', 'u', 'd', 'a', 'c', 't', 'x'],
            matchesLetter letter (Char.ofNat n) = false := by
          interval_cases n <;> decide
        simp only [keywords, List.mem_cons, List.not_mem_nil, or_false] at hword
        rcases hword with rfl | rfl | rfl | rfl | rfl | rfl | rfl | rfl | rfl | rfl <;>
          simp [readWord, hfirst]

/-! ### Members of a request -/

/-- The members of a request, with the amounts in some form. -/
def requestMembers (amount : PyDecimal → PyVal) (r : ImportCalculationRequest) :
    List (String × PyVal) :=
  [("hs_code", .str r.hsCode), ("country_of_origin", .str r.countryOfOrigin),
    ("customs_value", amount r.customsValue.1), ("freight", amount r.freight.1),
    ("insurance", amount r.insurance.1), ("quantity", .int r.quantity.1),
    ("shipping_mode", .str r.shippingMode.text)]

/-- The texts of the members, all written as `str` does. -/
def requestTexts (r : ImportCalculationRequest) : List (String × Json) :=
  [("hs_code", .str r.hsCode), ("country_of_origin", .str r.countryOfOrigin),
    ("customs_value", .str (String.ofList r.customsValue.1.text)),
    ("freight", .str (String.ofList r.freight.1.text)),
    ("insurance", .str (String.ofList r.insurance.1.text)), ("quantity", .int r.quantity.1),
    ("shipping_mode", .str r.shippingMode.text)]

/-- A form of amounts that is read as the amount again. -/
structure IsAmountForm (amount : PyDecimal → PyVal) : Prop where
  money : ∀ d, IsMoney d → money (amount d) = .ok d
  canonicalize : ∀ d, IsMoney d →
    canonicalize std (amount d) = .ok (.str (String.ofList d.text))
  walk : ∀ d, IsMoney d → walk std (amount d) = .ok ()

/-- Ten digits and two capital letters, which all requests that the tariffs know have. -/
structure ImportCalculationRequest.IsCanonical (r : ImportCalculationRequest) : Prop where
  codeLength : r.hsCode.toList.length = 10
  codeDigits : ∀ c ∈ r.hsCode.toList, isDecimal c = true
  countryLength : r.countryOfOrigin.toList.length = 2
  countryCapitals : r.countryOfOrigin.toList.all Char.isUpper = true

theorem isFixed_of_isMoney {d : PyDecimal} (h : IsMoney d) :
    ∃ neg cents, d = .finite neg cents (-2) ∧ PyDecimal.IsFixed cents (-2) := by
  obtain ⟨neg, cents, hd, hdigits⟩ := h
  exact ⟨neg, cents, hd, PyDecimal.isFixed_of_places (by decide) (by decide) hdigits⟩

/-- The text of an amount is plain. -/
theorem isPlain_text_of_isMoney {d : PyDecimal} (h : IsMoney d) : isPlain d.text = true := by
  obtain ⟨neg, cents, rfl, hfixed⟩ := isFixed_of_isMoney h
  refine isPlain_of_isNumberChar ?_ (PyDecimal.text_isNumberChar hfixed) ?_
  · exact (PyDecimal.text_length_le hfixed).trans (by decide)
  · exact PyDecimal.count_minus_text_le hfixed

theorem isAscii_text_of_isMoney {d : PyDecimal} (h : IsMoney d) : IsAscii d.text := by
  obtain ⟨neg, cents, rfl, hfixed⟩ := isFixed_of_isMoney h
  exact PyDecimal.isAscii_of_isNumberChar (PyDecimal.text_isNumberChar hfixed)

theorem strip_eq_self {cs : List Char} (h : ∀ c ∈ cs, isStrSpace c = false) : strip cs = cs := by
  have hkeep : ∀ ds : List Char, (∀ c ∈ ds, isStrSpace c = false) →
      ds.dropWhile isStrSpace = ds := by
    intro ds hds
    cases ds with
    | nil => rfl
    | cons c ds =>
        rw [List.dropWhile_cons_of_neg]
        rw [hds c (List.mem_cons_self ..)]
        exact Bool.false_ne_true
  rw [strip, hkeep cs h, hkeep cs.reverse fun c hc => h c (List.mem_reverse.mp hc),
    List.reverse_reverse]

theorem isStrSpace_of_isNumberChar {c : Char} (h : PyDecimal.isNumberChar c = true) :
    isStrSpace c = false := by
  obtain ⟨n, hlow, hhigh, rfl⟩ := PyDecimal.isNumberChar_cases h
  interval_cases n <;> decide

/-- Amounts as they are. -/
theorem isAmountForm_decimal : IsAmountForm std .decimal where
  money d h := money_of_isMoney h
  canonicalize d h := by
    obtain ⟨neg, cents, rfl, hfixed⟩ := isFixed_of_isMoney h
    rw [Vrl.canonicalize, PyDecimal.plainText_of_isFixed hfixed]
  walk d _ := by rw [Vrl.walk]

/-- Amounts as text. -/
theorem isAmountForm_text : IsAmountForm std fun d => .str (String.ofList d.text) where
  money d h := by
    obtain ⟨neg, cents, rfl, hfixed⟩ := isFixed_of_isMoney h
    have hchars := @PyDecimal.text_isNumberChar neg cents (-2) hfixed
    have hstrip : strip (PyDecimal.text (.finite neg cents (-2))) =
        PyDecimal.text (.finite neg cents (-2)) :=
      strip_eq_self fun c hc => isStrSpace_of_isNumberChar (hchars c hc)
    have hne : PyDecimal.text (.finite neg cents (-2)) ≠ [] := by
      intro hnil
      have hread := @PyDecimal.ofText_text neg cents (-2) hfixed
      rw [hnil] at hread
      cases hread
    have hdecimal : toDecimal (.str (String.ofList (PyDecimal.text (.finite neg cents (-2))))) =
        .ok (.finite neg cents (-2)) := by
      rw [toDecimal, String.toList_ofList, hstrip]
      simp only [if_neg hne, PyDecimal.ofText_text hfixed]
    rw [Vrl.money, hdecimal]
    exact money_of_isMoney h
  canonicalize d h := by
    rw [Vrl.canonicalize, std.nfc_ascii]
    rw [String.toList_ofList]
    exact isAscii_text_of_isMoney h
  walk d h := by
    rw [Vrl.walk]
    refine walkText_of_isPlain std ?_
    rw [String.toList_ofList]
    exact isPlain_text_of_isMoney h

/-! ### The guards -/

theorem asciiEscape_length_le (c : Char) : (asciiEscape c).length ≤ 12 := by
  have hcode : ∀ n, (unicodeEscape n).length = 6 := fun n => by
    rw [unicodeEscape, List.length_cons, List.length_cons, hexFixed_length]
  unfold asciiEscape
  repeat' split
  all_goals simp [hcode]

theorem quoted_length_le (s : String) :
    (asciiCode.quoted s).length ≤ 12 * s.toList.length + 2 := by
  rw [StringCode.quoted, List.length_cons]
  induction s.toList with
  | nil => exact Nat.le_refl _
  | cons c cs ih =>
      have hc : (asciiCode.escape c).length ≤ 12 := asciiEscape_length_le c
      rw [StringCode.body, List.length_append, List.length_cons]
      omega

/-- The characters that a member takes, with a comma. -/
def memberSize (m : String × Json) : Nat :=
  (asciiCode.quoted m.1).length + (Json.text asciiCode m.2).length + 2

theorem membersText_length_le (ms : List (String × Json)) :
    (Json.membersText asciiCode ms).length ≤ (ms.map memberSize).sum + 1 := by
  induction ms with
  | nil => exact Nat.le_refl _
  | cons m ms ih =>
      obtain ⟨k, v⟩ := m
      rw [List.map_cons, List.sum_cons, memberSize]
      cases ms with
      | nil =>
          simp only [Json.membersText, List.length_append, List.length_cons, List.length_nil]
          omega
      | cons n ms =>
          simp only [Json.membersText, List.length_append, List.length_cons]
          omega

theorem utf8Length_of_isAscii {cs : List Char} (h : IsAscii cs) : utf8Length cs = cs.length := by
  induction cs with
  | nil => rfl
  | cons c cs ih =>
      rw [isAscii_cons, isAsciiChar, decide_eq_true_eq] at h
      have hsize : c.utf8Size = 1 := by
        have hle : c.val ≤ 127 := by
          rw [UInt32.le_iff_toNat_le]
          have h127 : (127 : UInt32).toNat = 127 := rfl
          have hc := h.1
          simp only [Char.toNat] at hc
          omega
        exact if_pos hle
      have hrest := ih h.2
      rw [utf8Length] at hrest ⊢
      rw [List.map_cons, List.sum_cons, List.length_cons, hrest, hsize, Nat.add_comm]

section Request

variable {r : ImportCalculationRequest} {amount : PyDecimal → PyVal}

theorem isAscii_code (h : r.IsCanonical) : IsAscii r.hsCode.toList :=
  fun c hc => isAsciiChar_of_isDecimal (h.codeDigits c hc)

theorem capital_cases {c : Char} (h : c.isUpper = true) :
    ∃ n, 65 ≤ n ∧ n ≤ 90 ∧ c = Char.ofNat n := by
  have hrange : 'A'.val ≤ c.val ∧ c.val ≤ 'Z'.val := of_decide_eq_true h
  simp only [UInt32.le_iff_toNat_le] at hrange
  have hA : 'A'.val.toNat = 65 := rfl
  have hZ : 'Z'.val.toNat = 90 := rfl
  refine ⟨c.toNat, ?_, ?_, (Char.ofNat_toNat c).symm⟩
  all_goals
    simp only [Char.toNat]
    omega

/-- Capital letters are not changed by validation. -/
theorem isCapital_facts {c : Char} (h : c.isUpper = true) :
    isAsciiChar c = true ∧ isStrSpace c = false ∧ c.toUpper = c := by
  obtain ⟨n, hlow, hhigh, rfl⟩ := capital_cases h
  interval_cases n <;> decide

theorem isAscii_country (h : r.IsCanonical) : IsAscii r.countryOfOrigin.toList :=
  fun c hc => (isCapital_facts (List.all_eq_true.mp h.countryCapitals c hc)).1

theorem isPlain_code (h : r.IsCanonical) : isPlain r.hsCode.toList = true := by
  refine isPlain_of_isNumberChar (by rw [h.codeLength]; decide) (fun c hc => ?_) ?_
  · rw [PyDecimal.isNumberChar, h.codeDigits c hc]
    rfl
  · rw [List.count_eq_zero.mpr]
    · exact Nat.zero_le 1
    · intro hmem
      exact absurd (h.codeDigits _ hmem) (by decide)

/-- Two capitals are plain: every word of the patterns is longer. -/
theorem isPlain_country (h : r.IsCanonical) : isPlain r.countryOfOrigin.toList = true := by
  have hcapital := List.all_eq_true.mp h.countryCapitals
  have hnot : ∀ c, c.isUpper = false → c ∉ r.countryOfOrigin.toList := by
    intro c hc hmem
    rw [hcapital c hmem] at hc
    cases hc
  refine isPlain_of_parts (by rw [h.countryLength]; decide)
    (hasOperator_eq_false ?_ fun c hc => hnot c ?_) (hnot '<' (by decide)) ?_
  · rw [List.count_eq_zero.mpr (hnot '-' (by decide))]
    exact Nat.zero_le 1
  · revert c
    decide
  · intro rest hrest word hword
    have hlength : rest.length ≤ 2 := h.countryLength ▸ hrest.length_le
    refine readWord_of_length_lt _ _ _ (Nat.lt_of_le_of_lt hlength ?_)
    revert word
    decide

theorem isAscii_mode (mode : ShippingMode) : IsAscii mode.text.toList := by
  cases mode <;> decide

theorem isPlain_mode (mode : ShippingMode) : isPlain mode.text.toList = true := by
  cases mode <;> decide +kernel

/-- The names of the fields are plain. -/
theorem isPlain_fields : ∀ name ∈ ImportCalculationRequest.fields, isPlain name.toList = true := by
  decide +kernel

/-- **The canonical form does not depend on the form of the amounts.** -/
theorem canonicalize_requestMembers (h : r.IsCanonical) (hamount : IsAmountForm std amount) :
    canonicalize std (.dict (requestMembers amount r)) =
      .ok (.obj (Json.sortMembers (requestTexts r))) := by
  have hmembers : canonicalizeMembers std (requestMembers amount r) =
      (requestTexts r).map fun m => (m.1, .ok m.2) := by
    simp only [requestMembers, requestTexts, canonicalizeMembers, canonicalize,
      hamount.canonicalize _ r.customsValue.2.1, hamount.canonicalize _ r.freight.2.1,
      hamount.canonicalize _ r.insurance.2.1, std.nfc_ascii _ (isAscii_code h),
      std.nfc_ascii _ (isAscii_country h), std.nfc_ascii _ (isAscii_mode _), List.map_cons,
      List.map_nil]
  exact canonicalize_dict_of_members hmembers

theorem text_length_le_of_isMoney {d : PyDecimal} (h : IsMoney d) : d.text.length ≤ 33 := by
  obtain ⟨neg, cents, rfl, hfixed⟩ := isFixed_of_isMoney h
  exact PyDecimal.text_length_le hfixed

theorem quantityText_length_le (q : Quantity) : (intText q.1).length ≤ 7 := by
  obtain ⟨q, hlow, hhigh⟩ := q
  obtain ⟨n, rfl⟩ := Int.eq_ofNat_of_zero_le (by omega : 0 ≤ q)
  have hn : n < 10 ^ 7 := by omega
  have hpos : n ≠ 0 := by omega
  show (natText n).length ≤ 7
  rw [natText, if_neg hpos, List.length_reverse, List.length_map]
  exact (Nat.digits_length_le_iff (by decide) n).mpr hn

/-- The payload is small. -/
theorem requestTexts_size (h : r.IsCanonical) : ((requestTexts r).map memberSize).sum ≤ 4000 := by
  have hquoted : ∀ (s : String) (n : Nat), s.toList.length ≤ n →
      (asciiCode.quoted s).length ≤ 12 * n + 2 := by
    intro s n hs
    have hle := quoted_length_le s
    omega
  have hamount : ∀ d, IsMoney d → (asciiCode.quoted (String.ofList d.text)).length ≤ 12 * 33 + 2 :=
    fun d hd => hquoted _ _ (by rw [String.toList_ofList]; exact text_length_le_of_isMoney hd)
  have hcode := hquoted r.hsCode 10 h.codeLength.le
  have hcountry := hquoted r.countryOfOrigin 2 h.countryLength.le
  have hmode := hquoted r.shippingMode.text 5 (by cases r.shippingMode <;> decide)
  have hvalue := hamount _ r.customsValue.2.1
  have hfreight := hamount _ r.freight.2.1
  have hinsurance := hamount _ r.insurance.2.1
  have hquantity := quantityText_length_le r.quantity
  have hkeys : ∀ name ∈ ImportCalculationRequest.fields, (asciiCode.quoted name).length ≤ 206 :=
    fun name hname => hquoted name 17 (by revert name; decide)
  simp only [ImportCalculationRequest.fields, List.forall_mem_cons, List.not_mem_nil,
    IsEmpty.forall_iff, implies_true, and_true] at hkeys
  simp only [requestTexts, List.map_cons, List.map_nil, List.sum_cons, List.sum_nil, memberSize,
    Json.text]
  omega

/-- Its one integer is not long. -/
theorem hasLongInt_requestTexts (r : ImportCalculationRequest) :
    Json.hasLongIntMembers (requestTexts r) = false := by
  have hquantity : Json.isLongInt r.quantity.1 = false := by
    have hbound := r.quantity.2
    exact Json.isLongInt_eq_false (k := 7) (by omega) (by decide)
  simp only [requestTexts, Json.hasLongIntMembers, Json.hasLongInt, hquantity, Bool.or_self]

theorem enforcePayloadGuards_requestMembers (h : r.IsCanonical)
    (hamount : IsAmountForm std amount) :
    enforcePayloadGuards std (requestMembers amount r) = .ok () := by
  have hsize : ¬ maxRequestBytes <
      utf8Length (Json.sortedText asciiCode (.obj (Json.sortMembers (requestTexts r)))) := by
    have hkeys : Json.sortKeysMembers (requestTexts r) = requestTexts r := by
      simp only [requestTexts, Json.sortKeysMembers, Json.sortKeys]
    have hsum : ((Json.sortMembers (requestTexts r)).map memberSize).sum =
        ((requestTexts r).map memberSize).sum :=
      ((List.perm_insertionSort _ _).map memberSize).sum_nat
    have hlength := membersText_length_le (Json.sortMembers (requestTexts r))
    have hsmall := requestTexts_size h
    have hsorted : Json.sortKeysMembers (Json.sortMembers (requestTexts r)) =
        Json.sortMembers (requestTexts r) := by
      rw [Json.sortKeysMembers_eq_map, ← JsonValue.sortMembers_map, ← Json.sortKeysMembers_eq_map,
        hkeys]
    rw [Json.sortedText, utf8Length_of_isAscii (Json.text_isAscii _), Json.sortKeys, hsorted,
      Json.sortMembers_sortMembers, Json.text, List.length_cons, maxRequestBytes]
    omega
  have hplain := isPlain_fields
  simp only [ImportCalculationRequest.fields, List.forall_mem_cons] at hplain
  obtain ⟨h1, h2, h3, h4, h5, h6, h7, -⟩ := hplain
  have hwalk : walk std (.dict (requestMembers amount r)) = .ok () := by
    have hcount : ¬ maxCollectionItems < (requestMembers amount r).length := by
      show ¬ 256 < 7
      decide
    rw [walk, if_neg hcount]
    simp only [requestMembers, walkMembers, walk, walkText_of_isPlain std h1,
      walkText_of_isPlain std h2, walkText_of_isPlain std h3, walkText_of_isPlain std h4,
      walkText_of_isPlain std h5, walkText_of_isPlain std h6, walkText_of_isPlain std h7,
      walkText_of_isPlain std (isPlain_code h), walkText_of_isPlain std (isPlain_country h),
      walkText_of_isPlain std (isPlain_mode _), hamount.walk _ r.customsValue.2.1,
      hamount.walk _ r.freight.2.1, hamount.walk _ r.insurance.2.1, Except.ok_bind]
  rw [enforcePayloadGuards, canonicalize_requestMembers std h hamount, Except.ok_bind]
  show (if _ then _ else if _ then _ else _) = _
  rw [if_neg (by rw [Json.hasLongInt_sortMembers, hasLongInt_requestTexts]; exact Bool.false_ne_true),
    if_neg hsize, hwalk]

/-! ### The fields -/

theorem hsCodeField_of_isCanonical (h : r.IsCanonical) :
    hsCodeField (.str r.hsCode) = .ok r.hsCode := by
  have hchars : ∀ c ∈ r.hsCode.toList, PyDecimal.isNumberChar c = true := by
    intro c hc
    rw [PyDecimal.isNumberChar, h.codeDigits c hc]
    rfl
  have hstrip : strip (textOf (.str r.hsCode)).toList = r.hsCode.toList :=
    strip_eq_self fun c hc => isStrSpace_of_isNumberChar (hchars c hc)
  have hdigits : r.hsCode.toList.all isDecimalDigit = true := by
    rw [List.all_eq_true]
    intro c hc
    rw [isDecimalDigit, h.codeDigits c hc]
    rfl
  have hne : r.hsCode.toList ≠ [] := by
    intro hnil
    have hlength := h.codeLength
    rw [hnil] at hlength
    cases hlength
  simp only [hsCodeField, hstrip, hne, hdigits, h.codeLength, if_true, Bool.true_eq_false, or_self,
    if_false, String.ofList_toList]

theorem countryField_of_isCanonical (h : r.IsCanonical) :
    countryField std (.str r.countryOfOrigin) = .ok r.countryOfOrigin := by
  have hcapital := List.all_eq_true.mp h.countryCapitals
  have hstrip : strip (textOf (.str r.countryOfOrigin)).toList = r.countryOfOrigin.toList :=
    strip_eq_self fun c hc => (isCapital_facts (hcapital c hc)).2.1
  have hupper : std.upper r.countryOfOrigin = r.countryOfOrigin := by
    have hmap : r.countryOfOrigin.toList.map Char.toUpper = r.countryOfOrigin.toList :=
      (List.map_congr_left fun c hc => (isCapital_facts (hcapital c hc)).2.2).trans (List.map_id _)
    rw [std.upper_ascii _ (isAscii_country h), hmap, String.ofList_toList]
  simp only [countryField, hstrip, String.ofList_toList, hupper, h.countryLength,
    h.countryCapitals, and_self, if_true]

theorem amountField_of_money {check : PyDecimal → Bool} (refusal : String) {value : PyVal}
    (d : Amount check) (h : money value = .ok d.1) : amountField check refusal value = .ok d := by
  obtain ⟨d, hmoney, hcheck⟩ := d
  have hfinite : d.IsFinite := by
    obtain ⟨neg, cents, rfl, -⟩ := hmoney
    trivial
  unfold amountField
  split
  · next herror =>
      rw [h] at herror
      cases herror
  · next hok =>
      rw [h] at hok
      cases hok
      rw [dif_pos hfinite, dif_pos hcheck]

theorem quantityField_int (q : Quantity) : quantityField std (.int q.1) = .ok q := by
  obtain ⟨q, hq⟩ := q
  rw [quantityField, intField, std.parseInt_int, Except.ok_bind]
  exact dif_pos hq

theorem shippingModeField_text (mode : ShippingMode) :
    shippingModeField std (.str mode.text) = .ok mode := by
  have hstrip : strip mode.text.toList = mode.text.toList := by
    cases mode <;> decide
  have hlower : std.lower mode.text = mode.text := by
    rw [std.lower_ascii _ (isAscii_mode mode)]
    cases mode <;> decide
  have htext : textOf (.str mode.text) = mode.text := rfl
  simp only [shippingModeField, htext, hstrip, String.ofList_toList, hlower]
  cases mode <;> decide

/-! ### Validating again -/

/-- **A validated request is validated to itself.** -/
theorem modelValidate_requestMembers (h : r.IsCanonical) (hamount : IsAmountForm std amount) :
    ImportCalculationRequest.modelValidate std (.dict (requestMembers amount r)) = .ok r := by
  have hguard : guardPayload std (requestMembers amount r) = .ok () := by
    rw [guardPayload, enforcePayloadGuards_requestMembers std h hamount]
  have hextra : extraErrors (requestMembers amount r) ImportCalculationRequest.fields = [] := rfl
  have hcode : field (requestMembers amount r) "hs_code" hsCodeField = .ok r.hsCode :=
    (field_of_lookup rfl).trans (hsCodeField_of_isCanonical h)
  have hcountry : field (requestMembers amount r) "country_of_origin" (countryField std) =
      .ok r.countryOfOrigin :=
    (field_of_lookup rfl).trans (countryField_of_isCanonical std h)
  have hvalue : field (requestMembers amount r) "customs_value" customsValueField =
      .ok r.customsValue :=
    (field_of_lookup rfl).trans (amountField_of_money _ _ (hamount.money _ r.customsValue.2.1))
  have hfreight : field (requestMembers amount r) "freight" chargeField = .ok r.freight :=
    (field_of_lookup rfl).trans (amountField_of_money _ _ (hamount.money _ r.freight.2.1))
  have hinsurance : field (requestMembers amount r) "insurance" chargeField = .ok r.insurance :=
    (field_of_lookup rfl).trans (amountField_of_money _ _ (hamount.money _ r.insurance.2.1))
  have hquantity : field (requestMembers amount r) "quantity" (quantityField std) =
      .ok r.quantity :=
    (field_of_lookup rfl).trans (quantityField_int std r.quantity)
  have hmode : field (requestMembers amount r) "shipping_mode" (shippingModeField std) =
      .ok r.shippingMode :=
    (field_of_lookup rfl).trans (shippingModeField_text std r.shippingMode)
  rw [ImportCalculationRequest.modelValidate, hguard, Except.ok_bind, hextra]
  simp only [hcode, hcountry, hvalue, hfreight, hinsurance, hquantity, hmode, errorOf]
  rw [collect_of_none (by simp)]
  rfl

/-- The payload of a request is validated to the request. -/
theorem modelValidate_payload (h : r.IsCanonical) :
    ImportCalculationRequest.modelValidate std (.dict r.payload) = .ok r :=
  modelValidate_requestMembers std h (isAmountForm_decimal std)

end Request

end Vrl

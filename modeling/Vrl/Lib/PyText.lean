import Mathlib.Data.String.Basic
import Vrl.Lib.Json

/-!
# Vrl.Lib.PyText

Python's strings, which are more than Unicode texts: a surrogate may stand on its own among the
characters. Such a string is compared, normalised and written as JSON like any other, but it has
no UTF-8 encoding.

On strings without surrogates all of this is what it is for `String` (`ofString_le_iff`,
`normalize_ofString`, `quoted_ofString`).
-/

open TextCodec

/-- A character, or a surrogate that is not one half of a pair. -/
inductive CodePoint where
  | char (c : Char)
  | surrogate (unit : Fin 2048)
  deriving DecidableEq

namespace CodePoint

/-- `ord`. -/
def toNat : CodePoint → Nat
  | .char c => c.toNat
  | .surrogate unit => 0xd800 + unit

/-- One code point of a string literal, with everything outside printable ASCII escaped. -/
def escape : CodePoint → List Char
  | .char c => asciiEscape c
  | .surrogate unit => unicodeEscape (0xd800 + unit)

end CodePoint

/-- A Python string. -/
abbrev PyText : Type := List CodePoint

namespace PyText

/-- The string of some characters. -/
def ofChars (cs : List Char) : PyText := cs.map .char

/-- The string of a Unicode text. -/
def ofString (s : String) : PyText := ofChars s.toList

/-- The characters of a string, unless there is a surrogate among them. -/
def chars : PyText → Option (List Char)
  | [] => some []
  | .char c :: text => (chars text).map fun cs => c :: cs
  | .surrogate _ :: _ => none

/-- The Unicode text of a string without surrogates. -/
def unicode (text : PyText) : String := String.ofList (text.chars.getD [])

/-- Strings are compared by their code points. -/
def le (s t : PyText) : Prop := s.map CodePoint.toNat ≤ t.map CodePoint.toNat

instance : DecidableRel le := fun s t =>
  inferInstanceAs (Decidable (s.map CodePoint.toNat ≤ t.map CodePoint.toNat))

/-- Members ordered by key. -/
def sortMembers {α : Type} (members : List (PyText × α)) : List (PyText × α) :=
  members.insertionSort fun m n => le m.1 n.1

/-- Normalisation, with the characters since the last surrogate. A surrogate combines with
nothing, so that what is on one side of it does not matter on the other. -/
def normalizeFrom (normal : String → String) : List Char → PyText → PyText
  | before, [] => ofString (normal (String.ofList before))
  | before, .char c :: text => normalizeFrom normal (before ++ [c]) text
  | before, .surrogate unit :: text =>
      ofString (normal (String.ofList before)) ++ .surrogate unit :: normalizeFrom normal [] text

/-- A string whose characters are normalised. -/
def normalize (normal : String → String) : PyText → PyText := normalizeFrom normal []

/-- A string literal of printable ASCII. -/
def quoted (text : PyText) : List Char := '"' :: (text.flatMap CodePoint.escape ++ ['"'])

/-! ### Strings without surrogates -/

theorem chars_ofChars (cs : List Char) : (ofChars cs).chars = some cs := by
  induction cs with
  | nil => rfl
  | cons c cs ih =>
      show (ofChars cs).chars.map _ = _
      rw [ih]
      rfl

theorem chars_eq_some_iff {text : PyText} {cs : List Char} :
    text.chars = some cs ↔ text = ofChars cs := by
  constructor
  · intro h
    induction text generalizing cs with
    | nil =>
        cases h
        rfl
    | cons point text ih =>
        cases point with
        | surrogate unit => cases h
        | char c =>
            obtain ⟨ds, hds, rfl⟩ := Option.map_eq_some_iff.mp h
            rw [ih hds]
            rfl
  · intro h
    rw [h, chars_ofChars]

theorem ofString_unicode {text : PyText} (h : text.chars.isSome = true) :
    ofString text.unicode = text := by
  obtain ⟨cs, hcs⟩ := Option.isSome_iff_exists.mp h
  rw [unicode, hcs, ofString, String.toList_ofList]
  exact (chars_eq_some_iff.mp hcs).symm

@[simp] theorem unicode_ofString (s : String) : (ofString s).unicode = s := by
  rw [unicode, ofString, chars_ofChars, Option.getD_some, String.ofList_toList]

theorem ofString_injective {s t : String} (h : ofString s = ofString t) : s = t := by
  rw [← unicode_ofString s, h, unicode_ofString]

theorem ofString_le_iff {s t : String} : le (ofString s) (ofString t) ↔ s ≤ t := by
  have htoNat : ∀ cs, (ofChars cs).map CodePoint.toNat = cs.map Char.toNat := by
    intro cs
    rw [ofChars, List.map_map]
    rfl
  rw [le, ofString, ofString, htoNat, htoNat, String.le_iff_toList_le, ← not_lt, ← not_lt,
    not_iff_not]
  generalize s.toList = cs
  generalize t.toList = ds
  induction ds generalizing cs with
  | nil =>
      cases cs with
      | nil => exact iff_of_false (List.not_lt_nil _) (List.not_lt_nil _)
      | cons c cs => exact iff_of_true (List.nil_lt_cons ..) (List.nil_lt_cons ..)
  | cons d ds ih =>
      cases cs with
      | nil => exact iff_of_false (List.not_lt_nil _) (List.not_lt_nil _)
      | cons c cs =>
          have hlt : d.toNat < c.toNat ↔ d < c := Iff.rfl
          have heq : d.toNat = c.toNat ↔ d = c := Char.toNat_inj
          rw [List.map_cons, List.map_cons, List.cons_lt_cons_iff, List.cons_lt_cons_iff, ih, hlt,
            heq]

theorem normalize_ofString (normal : String → String) (s : String) :
    normalize normal (ofString s) = ofString (normal s) := by
  have hfrom : ∀ before cs : List Char, normalizeFrom normal before (ofChars cs) =
      ofString (normal (String.ofList (before ++ cs))) := by
    intro before cs
    induction cs generalizing before with
    | nil =>
        rw [List.append_nil]
        rfl
    | cons c cs ih =>
        show normalizeFrom normal (before ++ [c]) (ofChars cs) = _
        rw [ih, List.append_assoc]
        rfl
  rw [normalize, ofString, hfrom, List.nil_append, String.ofList_toList]

theorem quoted_ofString (s : String) : quoted (ofString s) = asciiCode.quoted s := by
  rw [quoted, StringCode.quoted, ofString]
  generalize s.toList = cs
  induction cs with
  | nil => rfl
  | cons c cs ih =>
      have hrest := List.cons.inj ih
      rw [StringCode.body, ← hrest.2]
      show '"' :: ((asciiEscape c ++ (ofChars cs).flatMap CodePoint.escape) ++ ['"']) = _
      rw [List.append_assoc]
      rfl

/-- Members with Unicode keys are ordered by their keys. -/
theorem sortMembers_ofString {α β : Type} (f : α → β) (members : List (String × α)) :
    sortMembers (members.map fun m => (ofString m.1, f m.2)) =
      (Json.sortMembers members).map fun m => (ofString m.1, f m.2) :=
  (List.map_insertionSort (fun m n : String × α => m.1 ≤ n.1)
    (fun m n : PyText × β => le m.1 n.1) _ members
    fun _ _ _ _ => ofString_le_iff.symm).symm

end PyText

import Vrl.Lib.Json

/-!
# Vrl.Lib.GoJson

How Go's `encoding/json` writes string literals.

It leaves text outside ASCII alone, and escapes what could be taken for HTML
markup or end a line in a script.
-/

open TextCodec

/-- One character of a string literal. The backspace and the form feed have no
short escape before version 1.22 of the language. -/
def htmlSafeEscape (c : Char) : List Char :=
  if c = '"' then ['\\', '"']
  else if c = '\\' then ['\\', '\\']
  else if c = '\n' then ['\\', 'n']
  else if c = '\r' then ['\\', 'r']
  else if c = '\t' then ['\\', 't']
  else if c.toNat < 0x20 ∨ c = '<' ∨ c = '>' ∨ c = '&' ∨ c.toNat = 0x2028 ∨ c.toNat = 0x2029 then
    unicodeEscape c.toNat
  else [c]

theorem asciiRead_htmlSafeEscape (c : Char) (r : List Char) :
    asciiRead (htmlSafeEscape c ++ r) = some (c, r) := by
  unfold htmlSafeEscape
  split_ifs with h1 h2 h3 h4 h5 h6
  -- the five short escapes
  · subst h1; rfl
  · subst h2; rfl
  · subst h3; rfl
  · subst h4; rfl
  · subst h5; rfl
  · have hlt : c.toNat < 0x10000 := by
      obtain h | rfl | rfl | rfl | h | h := h6
      · omega
      · decide
      · decide
      · decide
      · omega
      · omega
    have hs := char_not_surrogate c
    rw [asciiRead_unicodeEscape hlt, joinSurrogates, if_neg (by omega), Char.ofNat_toNat]
  · exact asciiRead_of_plain h1 h2 r

/-- The escaping of `encoding/json`, as a string code. -/
def htmlSafeCode : StringCode where
  escape := htmlSafeEscape
  read := asciiRead
  read_escape := asciiRead_htmlSafeEscape
  read_quote := asciiRead_quote

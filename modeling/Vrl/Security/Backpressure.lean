import Mathlib.Algebra.Order.Ring.Int
import Vrl.Lib.Python

/-!
# Vrl.Security.Backpressure

The limit on the calls that are in flight (`security/backpressure.py`). A call that finds all
slots taken is rejected at once, and every other call gives its slot back.
-/

open TextCodec

namespace Vrl

/-- `QueueDepthGuard`. -/
structure QueueDepthGuard where
  max : Int
  current : Int
  rejectedTotal : Nat
  peak : Int
  max_pos : 0 < max

namespace QueueDepthGuard

theorem max_pos_of_create {maxInFlight : Int} (h : ¬ maxInFlight ≤ 0) : 0 < maxInFlight :=
  not_le.mp h

/-- `QueueDepthGuard(max_in_flight)`. -/
def create (maxInFlight : Int) : Except PyError QueueDepthGuard :=
  if h : maxInFlight ≤ 0 then .error ⟨.valueError, "max_in_flight must be positive"⟩
  else .ok ⟨maxInFlight, 0, 0, 0, max_pos_of_create h⟩

variable (g : QueueDepthGuard)

/-- What a `BackpressureError` says. -/
def overloaded : String :=
  "Server overloaded: " ++ String.ofList (intText g.current) ++ "/" ++
    String.ofList (intText g.max) ++ " in-flight requests. Retry after a short delay."

/-- `acquire`: the message of the `BackpressureError` if there is one, and the guard that is
left. -/
def acquire : Except String Unit × QueueDepthGuard :=
  if g.max ≤ g.current then
    (.error g.overloaded, { g with rejectedTotal := g.rejectedTotal + 1 })
  else
    let current := g.current + 1
    (.ok (), { g with current, peak := if g.peak < current then current else g.peak })

/-- `release`. -/
def release : QueueDepthGuard := { g with current := Max.max 0 (g.current - 1) }

variable {g}

/-- A guard that could be created has its limit, and nothing is in flight. -/
theorem create_eq_ok {maxInFlight : Int} (h : create maxInFlight = .ok g) :
    g.max = maxInFlight ∧ g.current = 0 ∧ g.rejectedTotal = 0 ∧ g.peak = 0 := by
  unfold create at h
  split at h
  · cases h
  · cases h
    exact ⟨rfl, rfl, rfl, rfl⟩

theorem acquire_of_full (h : g.max ≤ g.current) :
    g.acquire = (.error g.overloaded, { g with rejectedTotal := g.rejectedTotal + 1 }) := by
  rw [acquire, if_pos h]

theorem acquire_of_room (h : g.current < g.max) :
    g.acquire = (.ok (), { g with
      current := g.current + 1
      peak := Max.max g.peak (g.current + 1) }) := by
  have hpeak : (if g.peak < g.current + 1 then g.current + 1 else g.peak) =
      Max.max g.peak (g.current + 1) := by
    rcases lt_or_ge g.peak (g.current + 1) with hpeak | hpeak
    · rw [if_pos hpeak, max_eq_right hpeak.le]
    · rw [if_neg (not_lt.mpr hpeak), max_eq_left hpeak]
  rw [acquire, if_neg (not_le.mpr h)]
  dsimp only
  rw [hpeak]

/-- Where a slot is taken, giving it back counts it only. -/
theorem release_current (h : 0 < g.current) : g.release.current = g.current - 1 :=
  max_eq_right (by omega)

end QueueDepthGuard

end Vrl

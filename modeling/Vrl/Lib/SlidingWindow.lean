import Mathlib.Algebra.Order.Group.Defs
import Mathlib.Algebra.Order.Sub.Basic
import Mathlib.Data.List.Basic

/-!
# Vrl.Lib.SlidingWindow

A log of times that is bounded in every window of a given width, and a queue that only
keeps the end of it.

A log that takes a time only when the window ending there has room, has room in every
window (**`Bounded.snoc`**). To decide that, the old times are not needed: a queue that
drops them from its front whenever it is used, is as good as the log (`Retains`).
-/

namespace SlidingWindow

variable {T : Type} [AddCommGroup T] [LinearOrder T] (width : T)

/-! ### Queues -/

/-- Drops the times from the front that are not in the window ending now. -/
def prune (now : T) (queue : List T) : List T := queue.dropWhile fun t => width ≤ now - t

/-- The first time that is left is in the window. -/
theorem lt_of_head?_prune {now t : T} {queue : List T}
    (h : (prune width now queue).head? = some t) : now - t < width := by
  have hhead := List.head?_dropWhile_not (fun t => decide (width ≤ now - t)) queue
  rw [prune] at h
  rw [h] at hhead
  simpa using hhead

/-- From now on, the queue has as many times in the window as the log. -/
def Retains (now : T) (queue log : List T) : Prop :=
  ∀ now' ≥ now, prune width now' queue = prune width now' log

namespace Retains

variable {width} {now now' : T} {queue log : List T}

theorem later (h : Retains width now queue log) (hle : now ≤ now') : Retains width now' queue log :=
  fun _ hnow => h _ (hle.trans hnow)

theorem snoc (h : Retains width now queue log) (t : T) :
    Retains width now (queue ++ [t]) (log ++ [t]) := by
  intro now' hnow
  have hprune := h now' hnow
  simp only [SlidingWindow.prune] at hprune ⊢
  rw [List.dropWhile_append, List.dropWhile_append, hprune]

end Retains

/-! ### Logs -/

/-- No half-open interval of the width has more than `limit` times of the log. -/
def Bounded (limit : Nat) (log : List T) : Prop :=
  ∀ a, log.countP (fun t => a ≤ t ∧ t < a + width) ≤ limit ∧
    log.countP (fun t => a < t ∧ t ≤ a + width) ≤ limit

theorem Bounded.nil (limit : Nat) : Bounded width limit [] := fun _ =>
  ⟨Nat.zero_le limit, Nat.zero_le limit⟩

variable {width}

theorem countP_snoc_le {limit : Nat} {log : List T} {now : T} {p : T → Prop} [DecidablePred p]
    (hlog : log.countP p ≤ limit) (hroom : log.countP (fun t => now - t < width) < limit)
    (hp : p now → ∀ t ∈ log, p t → now - t < width) : (log ++ [now]).countP p ≤ limit := by
  rw [List.countP_append, List.countP_singleton]
  by_cases hnow : p now
  · have hle : log.countP p ≤ log.countP fun t => now - t < width :=
      List.countP_mono_left fun t ht h => by simpa using hp hnow t ht (by simpa using h)
    rw [if_pos (by simpa using hnow)]
    omega
  · rw [if_neg (by simpa using hnow)]
    exact hlog

/-! ### Windows that move on -/

section Ordered

variable [IsOrderedAddMonoid T]

/-- On a log in order, the times that are left are those of the window. -/
theorem prune_eq_filter {now : T} {log : List T} (hlog : log.Pairwise (· ≤ ·)) :
    prune width now log = log.filter fun t => now - t < width := by
  induction log with
  | nil => rfl
  | cons t log ih =>
      obtain ⟨ht, hrest⟩ := List.pairwise_cons.mp hlog
      by_cases hold : width ≤ now - t
      · rw [prune, List.dropWhile_cons_of_pos (by simpa using hold),
          List.filter_cons_of_neg (by simpa using hold)]
        exact ih hrest
      · -- those after a time of the window are in the window as well
        have hall : ∀ s ∈ t :: log, now - s < width := by
          intro s hs
          have hle : t ≤ s := by
            obtain rfl | hs := List.mem_cons.mp hs
            · exact le_rfl
            · exact ht s hs
          exact (sub_le_sub_left hle now).trans_lt (not_le.mp hold)
        rw [prune, List.dropWhile_cons_of_neg (by simpa using hold),
          List.filter_eq_self.mpr fun s hs => by simpa using hall s hs]

/-- What has been dropped once would be dropped later. -/
theorem prune_prune {now now' : T} (h : now ≤ now') (queue : List T) :
    prune width now' (prune width now queue) = prune width now' queue := by
  induction queue with
  | nil => rfl
  | cons t queue ih =>
      by_cases hold : width ≤ now - t
      · have hold' : width ≤ now' - t := hold.trans (sub_le_sub_right h t)
        rw [prune, prune, List.dropWhile_cons_of_pos (by simpa using hold), prune,
          List.dropWhile_cons_of_pos (by simpa using hold')]
        exact ih
      · congr 1
        exact List.dropWhile_cons_of_neg (by simpa using hold)

/-- A queue that has dropped old times still has those that matter. -/
theorem Retains.prune {now : T} {queue log : List T} (h : Retains width now queue log) :
    Retains width now (SlidingWindow.prune width now queue) log := fun now' hnow =>
  (prune_prune hnow queue).trans (h now' hnow)

/-- **A log stays bounded when it takes a time for which the window ending there has room.** -/
theorem Bounded.snoc {limit : Nat} {log : List T} {now : T} (hlog : Bounded width limit log)
    (hroom : log.countP (fun t => now - t < width) < limit) :
    Bounded width limit (log ++ [now]) := by
  intro a
  constructor
  · refine countP_snoc_le (hlog a).1 hroom fun hnow t _ ht => ?_
    exact sub_lt_iff_lt_add'.mpr (hnow.2.trans_le (add_le_add_left ht.1 width))
  · refine countP_snoc_le (hlog a).2 hroom fun hnow t _ ht => ?_
    exact sub_lt_iff_lt_add'.mpr (hnow.2.trans_lt (add_lt_add_left ht.1 width))

end Ordered

end SlidingWindow

import Mathlib.Data.Rat.Floor
import Mathlib.Data.List.Induction
import Mathlib.Tactic.Linarith
import Vrl.Lib.Python
import Vrl.Lib.SlidingWindow

/-!
# Vrl.Security.RateLimit

The limit on the calls of a client (`security/rate_limit.py`), with the readings of the
clock as exact numbers.

For each key there is a queue of the calls that were allowed, from which the old ones are
dropped only when the key is used again. As long as the clock does not go back, the queue is
as good as the whole log (`retains_after`), and so the limit holds in every window. The
advice to a call that is rejected is the time until the first of the queue grows old,
without its fraction.
-/

open SlidingWindow

namespace Vrl

/-! ### The limiter -/

/-- `RateLimitResult`. -/
structure RateLimitResult where
  allowed : Bool
  remaining : Int
  resetAfterSeconds : Int
  deriving DecidableEq, Repr

/-- `RateLimiter`. A key that was never used has an empty queue. -/
structure RateLimiter where
  limit : Int
  windowSeconds : Int
  hits : String → List ℚ
  limit_pos : 0 < limit
  windowSeconds_pos : 0 < windowSeconds

/-- `int(x)` drops the fraction. -/
def truncate (x : ℚ) : Int := if 0 ≤ x then ⌊x⌋ else ⌈x⌉

namespace RateLimiter

/-- `RateLimiter(limit, window_seconds)`. -/
def create (limit windowSeconds : Int) : Except PyError RateLimiter :=
  if hlimit : limit ≤ 0 then .error ⟨.valueError, "limit must be positive"⟩
  else if hwindow : windowSeconds ≤ 0 then
    .error ⟨.valueError, "window_seconds must be positive"⟩
  else .ok ⟨limit, windowSeconds, fun _ => [], not_le.mp hlimit, not_le.mp hwindow⟩

variable (l : RateLimiter) (key : String) (now : ℚ)

/-- The calls of a key that still count. -/
def retained : List ℚ := prune (l.windowSeconds : ℚ) now (l.hits key)

/-- `RateLimiter.allow`. -/
def allow : RateLimitResult × RateLimiter :=
  let hits := l.retained key now
  if l.limit ≤ hits.length then
    let resetAfter :=
      match hits with
      | first :: _ => truncate (l.windowSeconds - (now - first))
      | [] => l.windowSeconds
    (⟨false, 0, max resetAfter 0⟩, { l with hits := Function.update l.hits key hits })
  else
    let hits := hits ++ [now]
    (⟨true, max (l.limit - hits.length) 0, l.windowSeconds⟩,
      { l with hits := Function.update l.hits key hits })

/-- The limiter after some calls. -/
def after (calls : List (String × ℚ)) : RateLimiter :=
  calls.foldl (fun l call => (l.allow call.1 call.2).2) l

/-- The times of the calls of a key that are allowed. -/
def allowedTimes (l : RateLimiter) (key : String) : List (String × ℚ) → List ℚ
  | [] => []
  | call :: calls =>
      (if call.1 = key ∧ (l.allow call.1 call.2).1.allowed then [call.2] else []) ++
        (l.allow call.1 call.2).2.allowedTimes key calls

/-- A limiter that has been created and used, whatever its clock has shown. -/
def Reachable : Prop :=
  ∃ limit windowSeconds new calls, create limit windowSeconds = .ok new ∧ l = new.after calls

/-- A limiter that could be created has its parameters, and empty queues. -/
theorem create_fields {l : RateLimiter} {limit windowSeconds : Int}
    (hnew : create limit windowSeconds = .ok l) :
    l.limit = limit ∧ l.windowSeconds = windowSeconds ∧ ∀ key, l.hits key = [] := by
  unfold create at hnew
  split at hnew
  · cases hnew
  · split at hnew
    · cases hnew
    · cases hnew
      exact ⟨rfl, rfl, fun _ => rfl⟩

/-! ### One call -/

section Allow

variable {l key now}

theorem allow_of_full (h : l.limit ≤ (l.retained key now).length) :
    (l.allow key now).1.allowed = false ∧
      (l.allow key now).2.hits = Function.update l.hits key (l.retained key now) := by
  simp only [allow, if_pos h, and_self]

theorem allow_of_room (h : ¬ l.limit ≤ (l.retained key now).length) :
    (l.allow key now).1.allowed = true ∧
      (l.allow key now).2.hits = Function.update l.hits key (l.retained key now ++ [now]) := by
  simp only [allow, if_neg h, and_self]

theorem allowed_iff :
    (l.allow key now).1.allowed = true ↔ ((l.retained key now).length : Int) < l.limit := by
  by_cases h : l.limit ≤ (l.retained key now).length
  · rw [(allow_of_full h).1]
    exact iff_of_false (by simp) (not_lt.mpr h)
  · rw [(allow_of_room h).1]
    exact iff_of_true rfl (not_le.mp h)

theorem rejected_iff :
    (l.allow key now).1.allowed = false ↔ l.limit ≤ (l.retained key now).length := by
  rw [← Bool.not_eq_true, allowed_iff, not_lt]

/-- The other queues stay as they are. -/
theorem allow_hits_of_ne {key' : String} (h : key' ≠ key) :
    (l.allow key now).2.hits key' = l.hits key' := by
  by_cases hfull : l.limit ≤ (l.retained key now).length
  · rw [(allow_of_full hfull).2, Function.update_of_ne h]
  · rw [(allow_of_room hfull).2, Function.update_of_ne h]

variable (l key now)

@[simp] theorem allow_limit : (l.allow key now).2.limit = l.limit := by
  unfold allow
  dsimp only
  split <;> rfl

@[simp] theorem allow_windowSeconds : (l.allow key now).2.windowSeconds = l.windowSeconds := by
  unfold allow
  dsimp only
  split <;> rfl

end Allow

/-! ### Any number of calls -/

section Runs

variable {l}

theorem after_snoc (calls : List (String × ℚ)) (call : String × ℚ) :
    l.after (calls ++ [call]) = ((l.after calls).allow call.1 call.2).2 := by
  simp only [after, List.foldl_append, List.foldl_cons, List.foldl_nil]

theorem allowedTimes_snoc (calls : List (String × ℚ)) (call : String × ℚ) :
    l.allowedTimes key (calls ++ [call]) = l.allowedTimes key calls ++
      if call.1 = key ∧ ((l.after calls).allow call.1 call.2).1.allowed then [call.2] else [] := by
  induction calls generalizing l with
  | nil => exact List.append_nil _
  | cons first calls ih =>
      rw [List.cons_append, allowedTimes, ih, allowedTimes, List.append_assoc]
      rfl

@[simp] theorem after_limit (calls : List (String × ℚ)) : (l.after calls).limit = l.limit := by
  induction calls using List.reverseRecOn with
  | nil => rfl
  | append_singleton calls call ih => rw [after_snoc, allow_limit, ih]

@[simp] theorem after_windowSeconds (calls : List (String × ℚ)) :
    (l.after calls).windowSeconds = l.windowSeconds := by
  induction calls using List.reverseRecOn with
  | nil => rfl
  | append_singleton calls call ih => rw [after_snoc, allow_windowSeconds, ih]

/-- Calls of other keys leave the queue of a key alone. -/
theorem after_hits_of_ne {calls : List (String × ℚ)} (h : ∀ call ∈ calls, call.1 ≠ key) :
    (l.after calls).hits key = l.hits key := by
  induction calls using List.reverseRecOn with
  | nil => rfl
  | append_singleton calls call ih =>
      rw [List.forall_mem_append, List.forall_mem_singleton] at h
      rw [after_snoc, allow_hits_of_ne h.2.symm, ih h.1]

end Runs

/-! ### The limit holds in every window -/

section Windows

variable {l}

/-- What a queue and the log of the calls that were allowed have to do with each other. -/
structure Tracks (l : RateLimiter) (key : String) (now : ℚ) (log : List ℚ) : Prop where
  sorted : log.Pairwise (· ≤ ·)
  le_now : ∀ t ∈ log, t ≤ now
  retains : Retains (l.windowSeconds : ℚ) now (l.hits key) log
  bounded : Bounded (l.windowSeconds : ℚ) l.limit.toNat log

/-- The calls that still count are those of the log that are in the window. -/
theorem Tracks.length_retained {now : ℚ} {log : List ℚ} (h : l.Tracks key now log) :
    (l.retained key now).length = log.countP fun t => now - t < l.windowSeconds := by
  have hretained : l.retained key now = log.filter fun t => now - t < l.windowSeconds :=
    (h.retains now le_rfl).trans (prune_eq_filter h.sorted)
  rw [hretained, ← List.countP_eq_length_filter]

/-- A call of another key, or one that is rejected, leaves the log as it is. -/
theorem Tracks.allow {now : ℚ} {log : List ℚ} (h : l.Tracks key now log) (key' : String) :
    (l.allow key' now).2.Tracks key now
      (log ++ if key' = key ∧ (l.allow key' now).1.allowed then [now] else []) := by
  by_cases hkey : key' = key
  · subst hkey
    by_cases hfull : l.limit ≤ (l.retained key' now).length
    · obtain ⟨hrejected, hhits⟩ := allow_of_full hfull
      rw [if_neg (by simp [hrejected]), List.append_nil]
      refine ⟨h.sorted, h.le_now, ?_, ?_⟩
      · rw [allow_windowSeconds, hhits, Function.update_self]
        exact h.retains.prune
      · rw [allow_windowSeconds, allow_limit]
        exact h.bounded
    · obtain ⟨hallowed, hhits⟩ := allow_of_room hfull
      rw [if_pos ⟨rfl, hallowed⟩]
      have hroom : log.countP (fun t => now - t < l.windowSeconds) < l.limit.toNat := by
        rw [← h.length_retained]
        omega
      refine ⟨?_, ?_, ?_, ?_⟩
      · rw [List.pairwise_append]
        exact ⟨h.sorted, List.pairwise_singleton _ _, fun t ht s hs =>
          (List.mem_singleton.mp hs) ▸ h.le_now t ht⟩
      · rw [List.forall_mem_append, List.forall_mem_singleton]
        exact ⟨h.le_now, le_rfl⟩
      · rw [allow_windowSeconds, hhits, Function.update_self]
        exact h.retains.prune.snoc now
      · rw [allow_windowSeconds, allow_limit]
        exact h.bounded.snoc hroom
  · rw [if_neg fun hboth => hkey hboth.1, List.append_nil]
    refine ⟨h.sorted, h.le_now, ?_, ?_⟩
    · rw [allow_windowSeconds, allow_hits_of_ne (Ne.symm hkey)]
      exact h.retains
    · rw [allow_windowSeconds, allow_limit]
      exact h.bounded

theorem Tracks.later {now now' : ℚ} {log : List ℚ} (h : l.Tracks key now log) (hle : now ≤ now') :
    l.Tracks key now' log :=
  ⟨h.sorted, fun t ht => (h.le_now t ht).trans hle, h.retains.later hle, h.bounded⟩

end Windows

/-- One call a minute. -/
def onceAMinute : RateLimiter := ⟨1, 60, fun _ => [], by decide, by decide⟩

section Advice

variable {l key}

/-- A queue has at most as many calls as are allowed in a window. -/
theorem length_hits_le (hl : l.Reachable) (key : String) :
    ((l.hits key).length : Int) ≤ l.limit := by
  obtain ⟨limit, windowSeconds, new, calls, hnew, rfl⟩ := hl
  induction calls using List.reverseRecOn with
  | nil =>
      rw [after, List.foldl_nil, (create_fields hnew).2.2 key]
      exact new.limit_pos.le
  | append_singleton calls call ih =>
      rw [after_snoc, allow_limit]
      by_cases hkey : key = call.1
      · subst hkey
        have hpruned : ((new.after calls).retained call.1 call.2).length ≤
            ((new.after calls).hits call.1).length :=
          (List.dropWhile_sublist _).length_le
        by_cases hfull : (new.after calls).limit ≤
            ((new.after calls).retained call.1 call.2).length
        · rw [(allow_of_full hfull).2, Function.update_self]
          omega
        · rw [(allow_of_room hfull).2, Function.update_self, List.length_append,
            List.length_singleton]
          omega
      · rw [allow_hits_of_ne hkey]
        exact ih

/-- A call that is rejected is told the time until the first call that still counts grows
old, without its fraction. -/
theorem allow_of_rejected {now : ℚ} (hrejected : (l.allow key now).1.allowed = false) :
    ∃ first rest, l.retained key now = first :: rest ∧
      (l.allow key now).1.resetAfterSeconds = ⌊(l.windowSeconds : ℚ) - (now - first)⌋ := by
  have hfull := rejected_iff.mp hrejected
  have hpos := l.limit_pos
  cases hretained : l.retained key now with
  | nil =>
      rw [hretained, List.length_nil] at hfull
      omega
  | cons first rest =>
      have hhead : (prune (l.windowSeconds : ℚ) now (l.hits key)).head? = some first := by
        rw [← retained, hretained]
        rfl
      have hrecent := lt_of_head?_prune _ hhead
      have hleft : 0 ≤ (l.windowSeconds : ℚ) - (now - first) := by linarith
      refine ⟨first, rest, rfl, ?_⟩
      rw [allow, if_pos hfull]
      simp only [hretained, truncate, if_pos hleft]
      exact max_eq_left (Int.floor_nonneg.mpr hleft)

theorem le_floor_iff {x : ℚ} : x ≤ ⌊x⌋ ↔ ∃ n : Int, x = n := by
  constructor
  · intro h
    exact ⟨⌊x⌋, le_antisymm h (Int.floor_le x)⟩
  · rintro ⟨n, rfl⟩
    rw [Int.floor_intCast]

/-- **A call that follows the advice is allowed exactly when the first call that still counts
is a whole number of seconds old.** Calls of other keys may come in between. -/
theorem retry_advice_suffices_iff (hl : l.Reachable) {now : ℚ}
    (hrejected : (l.allow key now).1.allowed = false) {others : List (String × ℚ)}
    (hothers : ∀ call ∈ others, call.1 ≠ key) :
    (((l.allow key now).2.after others).allow key
        (now + (l.allow key now).1.resetAfterSeconds)).1.allowed = true ↔
      ∃ first ∈ (l.retained key now).head?, ∃ n : Int, now - first = n := by
  obtain ⟨first, rest, hretained, hreset⟩ := allow_of_rejected hrejected
  have hhits : (l.allow key now).2.hits key = first :: rest := by
    rw [(allow_of_full (rejected_iff.mp hrejected)).2, Function.update_self, hretained]
  have hlength : ((first :: rest).length : Int) = l.limit := by
    have hfull := rejected_iff.mp hrejected
    have hpruned : (l.retained key now).length ≤ (l.hits key).length :=
      (List.dropWhile_sublist _).length_le
    have hle := length_hits_le hl key
    rw [hretained] at hfull hpruned
    omega
  rw [allowed_iff, retained, after_hits_of_ne key hothers, hhits, after_windowSeconds, after_limit,
    allow_windowSeconds, allow_limit, hreset, ← hlength, hretained]
  simp only [List.head?_cons, Option.mem_some_iff, exists_eq_left']
  -- the first call is dropped exactly when the advice was not cut short
  have hdropped : (l.windowSeconds : ℚ) ≤
        now + ⌊(l.windowSeconds : ℚ) - (now - first)⌋ - first ↔
      ∃ n : Int, now - first = n := by
    rw [show (l.windowSeconds : ℚ) ≤ now + ⌊(l.windowSeconds : ℚ) - (now - first)⌋ - first ↔
      (l.windowSeconds : ℚ) - (now - first) ≤ ⌊(l.windowSeconds : ℚ) - (now - first)⌋ from
        ⟨fun h => by linarith, fun h => by linarith⟩, le_floor_iff]
    constructor
    · rintro ⟨n, hn⟩
      exact ⟨l.windowSeconds - n, by push_cast; linarith⟩
    · rintro ⟨n, hn⟩
      exact ⟨l.windowSeconds - n, by push_cast; linarith⟩
  rw [← hdropped]
  constructor
  · intro hshorter
    by_contra hkept
    rw [prune, List.dropWhile_cons_of_neg (by simpa using hkept)] at hshorter
    exact lt_irrefl _ hshorter
  · intro hold
    have hsub : (prune (l.windowSeconds : ℚ)
        (now + ⌊(l.windowSeconds : ℚ) - (now - first)⌋) (first :: rest)).length ≤ rest.length := by
      rw [prune, List.dropWhile_cons_of_pos (by simpa using hold)]
      exact (List.dropWhile_sublist _).length_le
    rw [List.length_cons]
    omega

/-- A limiter that has allowed a call at half a second past. -/
def usedOnce : RateLimiter := onceAMinute.after [("client", 1 / 2)]

theorem usedOnce_reachable : usedOnce.Reachable := ⟨1, 60, onceAMinute, _, rfl, rfl⟩

theorem retry_advice_suffices_iff_sample :
    ((usedOnce.allow "client" (5 / 2)).2.after [("other", 3)]).allow "client"
        (5 / 2 + (usedOnce.allow "client" (5 / 2)).1.resetAfterSeconds) |>.1.allowed = true ↔
      ∃ first ∈ (usedOnce.retained "client" (5 / 2)).head?, ∃ n : Int, (5 / 2 : ℚ) - first = n :=
  retry_advice_suffices_iff usedOnce_reachable (by decide +kernel) (by decide)

/-- **The advice can be too short**: 59 seconds, when 59 and a half are needed. -/
theorem retry_advice_is_cut_short :
    usedOnce.Reachable ∧ (usedOnce.allow "client" 1).1 = ⟨false, 0, 59⟩ ∧
      ((usedOnce.allow "client" 1).2.allow "client" (1 + 59)).1.allowed = false :=
  ⟨usedOnce_reachable, by decide +kernel, by decide +kernel⟩

end Advice

end RateLimiter

end Vrl

import Mathlib.Order.Bounds.Basic
import Vrl.Api.Routes
import Vrl.Lib.Runs

/-!
# Vrl.Api.Admission

Any number of requests at once, in any order of their steps, and what the queue guard knows of
them.

A step of a request is one of a few kinds (`Advances`), and only some of them touch what the
requests share. As the guard is entered and left by the same requests, it knows how many are in
flight (**`guard_counts_requests`**).
-/

open Runs

namespace Vrl.Api

variable (std : PyStd)

/-! ### The system -/

/-- What the requests share, and the requests. -/
structure Server extends ApiState where
  calls : List ApiCall

/-- A request arrives, or one that has arrived goes on. -/
inductive Event where
  | arrive (request : ApiRequest)
  | step (call : ApiCall) (reading : Reading)

/-- One step of the system. -/
inductive Step : Server → Event → Server → Prop where
  | arrive {s : Server} {request : ApiRequest} :
      Step s (.arrive request) { s with calls := s.calls ++ [{ request }] }
  | advance {s : Server} {before after : List ApiCall} {call call' : ApiCall} {reading : Reading}
      {shared : ApiState} :
      s.calls = before ++ call :: after →
      advance std s.toApiState call reading = some (shared, call') →
      Step s (.step call reading) { shared with calls := before ++ call' :: after }

/-- A server that has just been started with its settings. -/
structure Starts (raw loadedOn : String) (limit windowSeconds maxInFlight : Int) (s : Server) :
    Prop where
  keys_eq : s.keys = .loadFromEnv std.toSha256 raw loadedOn
  limiter_eq : RateLimiter.create limit windowSeconds = .ok s.limiter
  guard_eq : QueueDepthGuard.create maxInFlight = .ok s.guard
  calls_eq : s.calls = []

/-- The number of requests whose code runs behind the guard. -/
def Server.inFlight (s : Server) : Nat := s.calls.countP fun c => c.stage = .inFlight

theorem minute_pos : (0 : Int) < 60 := by decide

/-- A server with one key and one slot that lets through one request a minute. -/
def oneSlot : Server where
  keys := .loadFromEnv lengthStd.toSha256 "service-a:sk_1" "2026-01-01"
  limiter := ⟨1, 60, fun _ => [], Int.one_pos, minute_pos⟩
  guard := ⟨1, 0, 0, 0, Int.one_pos⟩
  clock := 0
  calls := []

theorem oneSlot_starts : Starts lengthStd "service-a:sk_1" "2026-01-01" 1 60 1 oneSlot :=
  ⟨rfl, rfl, rfl, rfl⟩

/-- One request is in flight, and one with another key is refused. -/
theorem oneSlot_run : ∃ trace s, Trace (Step lengthStd) oneSlot trace s ∧ s.inFlight = 1 ∧
    s.calls.map (·.stage) = [.inFlight, .answered (.http 401 "Invalid API key")] := by
  refine ⟨_, _, .snoc (.snoc (.snoc (.snoc (.snoc (.snoc (.snoc .nil
    (@Step.arrive _ _ { route := .calculate, xApiKey := some "sk_1" }))
    (@Step.advance _ _ [] [] _ _ (.authenticate "2026-01-02") _ rfl rfl))
    (@Step.advance _ _ [] [] _ _ (.allow 1) _ rfl rfl))
    (@Step.advance _ _ [] [] _ _ .load _ rfl rfl))
    (@Step.arrive _ _ { route := .prove, xApiKey := some "sk_12" }))
    (@Step.advance _ _ [] [_] _ _ .enter _ rfl rfl))
    (@Step.advance _ _ [_] [] _ _ (.authenticate "2026-01-02") _ rfl rfl), rfl, rfl⟩

/-- The request has passed the keys and is not answered. -/
def Stage.isOpen : Stage → Bool
  | .received | .answered _ => false
  | .identified | .admitted | .loaded | .inFlight | .running => true

/-- The request has not come to the rate limit. -/
def Stage.isEarly : Stage → Bool
  | .received | .identified => true
  | .admitted | .loaded | .inFlight | .running | .answered _ => false

/-! ### What a step of a request does -/

/-- The kinds of steps. A step that only moves the request leaves alone what is shared. -/
inductive Advances (s : ApiState) (call : ApiCall) : Reading → ApiState → ApiCall → Prop where
  | identify {today : String} {keys : ApiKeyStore} : call.stage = .received →
      requireApiKey std s.keys call.request.xApiKey today = (.ok (), keys) →
      Advances s call (.authenticate today) { s with keys }
        { call with stage := .identified, countedOn := some today }
  | refuseKey {today detail : String} {keys : ApiKeyStore} : call.stage = .received →
      requireApiKey std s.keys call.request.xApiKey today = (.error detail, keys) →
      Advances s call (.authenticate today) { s with keys } (call.answer (.http 401 detail))
  | letThrough {now : ℚ} : call.stage = .identified → s.clock ≤ now →
      (s.limiter.allow call.request.clientKey now).1.allowed = true →
      Advances s call (.allow now)
        { s with limiter := (s.limiter.allow call.request.clientKey now).2, clock := now }
        { call with stage := .admitted, admittedAt := some now }
  | refuseLimit {now : ℚ} : call.stage = .identified → s.clock ≤ now →
      (s.limiter.allow call.request.clientKey now).1.allowed = false →
      Advances s call (.allow now)
        { s with limiter := (s.limiter.allow call.request.clientKey now).2, clock := now }
        (call.answer (.http 429 "Rate limit exceeded"))
  | enter : call.stage = .loaded → call.request.route.isGuarded = true →
      s.guard.current < s.guard.max →
      Advances s call .enter
        { s with guard := { s.guard with
            current := s.guard.current + 1
            peak := max s.guard.peak (s.guard.current + 1) } }
        { call with stage := .inFlight }
  | overload : call.stage = .loaded → call.request.route.isGuarded = true →
      s.guard.max ≤ s.guard.current →
      Advances s call .enter
        { s with guard := { s.guard with rejectedTotal := s.guard.rejectedTotal + 1 } }
        (call.answer (.http 503 s.guard.overloaded))
  | leave {result : CodeEnd} : call.stage = .inFlight →
      Advances s call (.finish result) { s with guard := s.guard.release }
        (call.answer (call.request.route.answers result))
  | move {reading : Reading} {stage : Stage} :
      call.stage.isOpen = true → call.stage ≠ .inFlight →
      (call.stage = .identified → call.request.route.isLimited = false) →
      (reading = .enter → call.stage = .loaded → call.request.route.isGuarded = false) →
      stage.isEarly = false → stage ≠ .inFlight →
      Advances s call reading s { call with stage }

theorem handles_backpressure {route : Route} (h : route.isGuarded = true) (text : String) :
    route.handles ⟨.backpressureError, text⟩ = .http 503 text := by
  cases route <;> first | rfl | cases h

/-- **What a step of a request does.** -/
theorem advances_of_advance {s shared : ApiState} {call call' : ApiCall} {reading : Reading}
    (h : advance std s call reading = some (shared, call')) :
    Advances std s call reading shared call' := by
  cases reading with
  | authenticate today =>
      rw [advance] at h
      split at h
      · next hstage =>
          cases hkey : requireApiKey std s.keys call.request.xApiKey today with
          | mk result keys =>
              rw [hkey] at h
              cases result with
              | ok done =>
                  cases h
                  exact .identify hstage hkey
              | error detail =>
                  cases h
                  exact .refuseKey hstage hkey
      · cases h
  | allow now =>
      rw [advance] at h
      split at h
      · next hcond =>
          obtain ⟨hstage, -, hclock⟩ := hcond
          dsimp only at h
          split at h
          · next hallowed =>
              cases h
              exact .letThrough hstage hclock hallowed
          · next hallowed =>
              cases h
              exact .refuseLimit hstage hclock (by simpa using hallowed)
      · cases h
  | load =>
      rw [advance] at h
      split at h
      · next hstage =>
          have hopen : call.stage.isOpen = true := by rw [hstage]; rfl
          split at h
          all_goals
            cases h
            refine .move hopen ?_ ?_ ?_ rfl ?_ <;> simp [hstage]
      · cases h
  | enter =>
      rw [advance] at h
      split at h
      · next hstage =>
          split at h
          · next hguarded =>
              rcases lt_or_ge s.guard.current s.guard.max with hroom | hfull
              · rw [QueueDepthGuard.acquire_of_room hroom] at h
                cases h
                exact .enter hstage hguarded hroom
              · rw [QueueDepthGuard.acquire_of_full hfull] at h
                cases h
                rw [handles_backpressure hguarded]
                exact .overload hstage hguarded hfull
          · next hguarded =>
              cases h
              refine .move (by rw [hstage]; rfl) ?_ ?_ ?_ rfl ?_ <;> simp_all
      · split at h
        · next hcond =>
            obtain ⟨hstage, hlimited⟩ := hcond
            have hopen : call.stage.isOpen = true := by rw [hstage]; rfl
            split at h
            all_goals
              cases h
              refine .move hopen ?_ ?_ ?_ rfl ?_ <;> simp [hstage, hlimited]
        · cases h
  | finish result =>
      rw [advance] at h
      split at h
      · next hstage =>
          cases h
          exact .leave hstage
      · split at h
        · next hstage =>
            cases h
            refine .move (by rw [hstage]; rfl) ?_ ?_ ?_ rfl ?_ <;> simp [hstage]
        · cases h
  | disconnect =>
      rw [advance] at h
      split at h
      · next hstage =>
          cases h
          refine .move (by rw [hstage]; rfl) ?_ ?_ ?_ rfl ?_ <;> simp [hstage]
      · cases h

/-! ### The guard counts the requests in flight -/

section Guard

variable {std}

/-- The step comes to the guard when as many requests as it takes are in flight. -/
def overloads (maxInFlight : Int) (p : Server × Event) : Bool :=
  match p.2 with
  | .step call .enter =>
      call.stage = .loaded && call.request.route.isGuarded && maxInFlight ≤ p.1.inFlight
  | _ => false

/-- The numbers of requests that were in flight at some time. -/
def depths (trace : List (Server × Event)) (s : Server) : Set Int :=
  { n | n = s.inFlight ∨ ∃ p ∈ trace, n = p.1.inFlight }

/-- What the guard says, after a run. -/
structure GuardCounts (maxInFlight : Int) (trace : List (Server × Event)) (s : Server) : Prop where
  max_eq : s.guard.max = maxInFlight
  current_eq : s.guard.current = s.inFlight
  le_max : s.guard.current ≤ maxInFlight
  rejected_eq : s.guard.rejectedTotal = trace.countP (overloads maxInFlight)
  peak_eq : IsGreatest (depths trace s) s.guard.peak

/-- The number in flight, when a request goes on. -/
theorem inFlight_advance {shared : ApiState} {before after : List ApiCall} {call : ApiCall} :
    Server.inFlight { shared with calls := before ++ call :: after } =
      (before ++ after).countP (fun c => c.stage = .inFlight) +
        if call.stage = .inFlight then 1 else 0 := by
  rw [Server.inFlight, List.countP_append, List.countP_cons, List.countP_append]
  simp only [decide_eq_true_eq]
  omega

theorem depths_snoc (trace : List (Server × Event)) (s s' : Server) (event : Event) :
    depths (trace ++ [(s, event)]) s' = insert (s'.inFlight : Int) (depths trace s) := by
  ext n
  show (n = s'.inFlight ∨ ∃ p ∈ trace ++ [(s, event)], n = p.1.inFlight) ↔
    n = s'.inFlight ∨ n = s.inFlight ∨ ∃ p ∈ trace, n = p.1.inFlight
  simp only [List.mem_append, List.mem_singleton, or_and_right, exists_or, exists_eq_left]
  rw [or_comm (a := ∃ p ∈ trace, n = (p.1.inFlight : Int))]

/-- A step after which no more requests are in flight leaves the peak as it is. -/
theorem peak_of_le {trace : List (Server × Event)} {s s' : Server} {event : Event} {peak : Int}
    (h : IsGreatest (depths trace s) peak) (hle : s'.inFlight ≤ s.inFlight) :
    IsGreatest (depths (trace ++ [(s, event)]) s') peak := by
  have hnow : (s.inFlight : Int) ≤ peak := h.2 (.inl rfl)
  have hpeak := h.insert (s'.inFlight : Int)
  rw [max_eq_right (by omega)] at hpeak
  rw [depths_snoc]
  exact hpeak

/-- A step after which more requests are in flight may raise it. -/
theorem peak_of_enter {trace : List (Server × Event)} {s s' : Server} {event : Event} {peak : Int}
    (h : IsGreatest (depths trace s) peak) :
    IsGreatest (depths (trace ++ [(s, event)]) s') (max peak s'.inFlight) := by
  rw [depths_snoc, max_comm]
  exact h.insert _

/-- A step that does not come to the guard is no overload. -/
theorem overloads_eq_false {maxInFlight : Int} {s : Server} {call : ApiCall} {reading : Reading}
    (h : reading = .enter → call.stage = .loaded → call.request.route.isGuarded = true →
      (s.inFlight : Int) < maxInFlight) :
    overloads maxInFlight (s, .step call reading) = false := by
  cases reading with
  | enter =>
      rw [overloads, Bool.eq_false_iff]
      intro hboth
      simp only [Bool.and_eq_true, decide_eq_true_eq] at hboth
      have hroom := h rfl hboth.1.1 hboth.1.2
      omega
  | authenticate _ | allow _ | load | finish _ | disconnect => rfl

/-- A step that neither takes a slot nor gives one back. -/
theorem GuardCounts.keep {maxInFlight : Int} {trace : List (Server × Event)} {s : Server}
    {shared : ApiState} {before after : List ApiCall} {call call' : ApiCall} {reading : Reading}
    (h : GuardCounts maxInFlight trace s) (hcalls : s.calls = before ++ call :: after)
    (hguard : shared.guard = s.guard) (hstage : call.stage ≠ .inFlight)
    (hstage' : call'.stage ≠ .inFlight)
    (hover : reading = .enter → call.stage = .loaded → call.request.route.isGuarded = true →
      (s.inFlight : Int) < maxInFlight) :
    GuardCounts maxInFlight (trace ++ [(s, .step call reading)])
      { shared with calls := before ++ call' :: after } := by
  obtain ⟨hmax, hcurrent, hle, hrejected, hpeak⟩ := h
  have hs : s.inFlight = (before ++ after).countP (fun c => c.stage = .inFlight) +
      if call.stage = .inFlight then 1 else 0 := by
    rw [← @inFlight_advance s.toApiState, ← hcalls]
  have hs' := @inFlight_advance shared before after call'
  rw [if_neg hstage] at hs
  rw [if_neg hstage', ← hs] at hs'
  refine ⟨?_, ?_, ?_, ?_, ?_⟩
  · rw [← hmax, ← hguard]
  · rw [hs']
    show shared.guard.current = _
    rw [hguard]
    exact hcurrent
  · show shared.guard.current ≤ _
    rw [hguard]
    exact hle
  · rw [List.countP_append, List.countP_singleton, overloads_eq_false hover, ← hrejected, ← hguard]
    rfl
  · rw [← hguard] at hpeak
    exact peak_of_le hpeak hs'.le

theorem GuardCounts.step {maxInFlight : Int} {trace : List (Server × Event)} {s s' : Server}
    {event : Event} (h : GuardCounts maxInFlight trace s) (hstep : Step std s event s') :
    GuardCounts maxInFlight (trace ++ [(s, event)]) s' := by
  obtain ⟨hmax, hcurrent, hle, hrejected, hpeak⟩ := id h
  cases hstep with
  | @arrive request =>
      have hsame : Server.inFlight { s with calls := s.calls ++ [{ request }] } = s.inFlight := by
        rw [Server.inFlight, List.countP_append]
        rfl
      refine ⟨hmax, ?_, hle, ?_, peak_of_le hpeak hsame.le⟩
      · rw [hsame]
        exact hcurrent
      · rw [List.countP_append]
        exact hrejected
  | @advance before after call call' reading shared hcalls hadvance =>
      have hs : s.inFlight = (before ++ after).countP (fun c => c.stage = .inFlight) +
          if call.stage = .inFlight then 1 else 0 := by
        rw [← @inFlight_advance s.toApiState, ← hcalls]
      have hs' := @inFlight_advance shared before after call'
      cases advances_of_advance std hadvance with
      | identify hstage _ => exact h.keep hcalls rfl (by simp [hstage]) (by simp) (by simp)
      | refuseKey hstage _ =>
          exact h.keep hcalls rfl (by simp [hstage]) (by simp [ApiCall.answer]) (by simp)
      | letThrough hstage _ _ => exact h.keep hcalls rfl (by simp [hstage]) (by simp) (by simp)
      | refuseLimit hstage _ _ =>
          exact h.keep hcalls rfl (by simp [hstage]) (by simp [ApiCall.answer]) (by simp)
      | move hopen hstage _ hguarded _ hstage' =>
          exact h.keep hcalls rfl hstage hstage' fun h1 h2 h3 =>
            absurd h3 (by simp [hguarded h1 h2])
      | enter hstage hguarded hroom =>
          rw [if_neg (by simp [hstage]), Nat.add_zero] at hs
          rw [if_pos rfl, ← hs] at hs'
          refine ⟨hmax, ?_, ?_, ?_, ?_⟩
          · rw [hs']
            push_cast
            rw [← hcurrent]
          · show s.guard.current + 1 ≤ maxInFlight
            omega
          · rw [List.countP_append, List.countP_singleton, overloads_eq_false fun _ _ _ => by omega]
            exact hrejected
          · have hnow : s.guard.current + 1 = Server.inFlight { s with
                guard := { s.guard with
                  current := s.guard.current + 1
                  peak := max s.guard.peak (s.guard.current + 1) }
                calls := before ++ { call with stage := .inFlight } :: after } := by
              rw [hs']
              push_cast
              rw [← hcurrent]
            show IsGreatest _ (max s.guard.peak (s.guard.current + 1))
            rw [hnow]
            exact peak_of_enter hpeak
      | overload hstage hguarded hfull =>
          rw [if_neg (by simp [hstage])] at hs
          rw [if_neg (by simp [ApiCall.answer]), ← hs] at hs'
          refine ⟨hmax, ?_, hle, ?_, peak_of_le hpeak hs'.le⟩
          · rw [hs']
            exact hcurrent
          · have hover : overloads maxInFlight (s, .step call .enter) = true := by
              show (decide (call.stage = .loaded) && call.request.route.isGuarded &&
                decide (maxInFlight ≤ (s.inFlight : Int))) = true
              rw [hstage, hguarded, decide_eq_true rfl, decide_eq_true (by omega)]
              rfl
            rw [List.countP_append, List.countP_singleton, if_pos hover, ← hrejected]
      | leave hstage =>
          rw [if_pos hstage] at hs
          rw [if_neg (by simp [ApiCall.answer])] at hs'
          have hpos : 0 < s.guard.current := by omega
          have hreleased := QueueDepthGuard.release_current hpos
          refine ⟨hmax, ?_, ?_, ?_, peak_of_le hpeak (by omega)⟩
          · show s.guard.release.current = _
            omega
          · show s.guard.release.current ≤ _
            omega
          · rw [List.countP_append, List.countP_singleton, overloads_eq_false (by simp)]
            exact hrejected

/-- **The guard counts the requests in flight.** Whatever the order of the steps and however the
code of the routes ends, no more requests are in flight at once than are allowed, the snapshot has
their number and the highest number there ever was, and every rejection was made when all slots
were taken. When all requests are answered, every slot has been given back. -/
theorem guard_counts_requests {raw loadedOn : String} {limit windowSeconds maxInFlight : Int}
    {start s : Server} {trace : List (Server × Event)}
    (hstart : Starts std raw loadedOn limit windowSeconds maxInFlight start)
    (h : Trace (Step std) start trace s) :
    GuardCounts maxInFlight trace s ∧
      ((∀ c ∈ s.calls, ∃ answer, c.stage = .answered answer) → s.guard.current = 0) := by
  have hcounts : GuardCounts maxInFlight trace s := by
    induction h with
    | nil =>
        obtain ⟨hmax, hcurrent, hrejected, hpeak⟩ := QueueDepthGuard.create_eq_ok hstart.guard_eq
        have hnone : start.inFlight = 0 := by
          rw [Server.inFlight, hstart.calls_eq]
          rfl
        have hdepths : depths [] start = {0} := by
          ext n
          show (n = start.inFlight ∨ ∃ p ∈ [], n = (p : Server × Event).1.inFlight) ↔ n = 0
          simp [hnone]
        have hpos := start.guard.max_pos
        refine ⟨hmax, by rw [hcurrent, hnone]; rfl, by omega, hrejected, ?_⟩
        rw [hdepths, hpeak]
        exact isGreatest_singleton
    | snoc _ hstep ih => exact ih.step hstep
  refine ⟨hcounts, fun hanswered => ?_⟩
  have hnone : s.inFlight = 0 := by
    rw [Server.inFlight, List.countP_eq_zero]
    intro c hc
    obtain ⟨answer, hanswer⟩ := hanswered c hc
    simp [hanswer]
  rw [hcounts.current_eq, hnone]
  rfl

theorem guard_counts_requests_sample : ∃ trace s, s.inFlight = 1 ∧ GuardCounts 1 trace s ∧
    ((∀ c ∈ s.calls, ∃ answer, c.stage = .answered answer) → s.guard.current = 0) := by
  obtain ⟨trace, s, hrun, hdepth, -⟩ := oneSlot_run
  exact ⟨trace, s, hdepth, guard_counts_requests oneSlot_starts hrun⟩

end Guard

end Vrl.Api

import Vrl.Api.Admission

/-!
# Vrl.Api.AdmissionCounts

What the keys and the rate limit say about any number of requests at once.

The keys know how many requests have presented them (**`keys_count_requests`**), and in no window
more requests of a client are let through than the limit says (**`window_limits_requests`**). Both
count the requests themselves, which carry the day and the time of their steps.
-/

open Runs

namespace Vrl.Api

variable {std : PyStd}

/-! ### The keys count the requests that present them -/

section Keys

/-- What is asked of a key: it lets a request through, and is ticked, or it does not and nothing
is counted. -/
theorem requireApiKey_cases {keys keys' : ApiKeyStore} {xApiKey : Option String} {today : String}
    {result : Except String Unit} (h : requireApiKey std keys xApiKey today = (result, keys')) :
    (result = .ok () ∧ keys.isEnabled = false ∧ keys' = keys) ∨
      (result = .ok () ∧ ∃ key, xApiKey = some key ∧ key ≠ "" ∧
        (keys.keys.lookup (std.hexdigest key)).isSome = true ∧
        keys' = keys.call std.toSha256 (.authenticate key today)) ∨
      ((∃ detail, result = .error detail) ∧ keys' = keys) := by
  unfold requireApiKey at h
  split at h
  · next hdisabled =>
      cases h
      exact .inl ⟨rfl, hdisabled, rfl⟩
  · next henabled =>
      cases xApiKey with
      | none =>
          cases h
          exact .inr (.inr ⟨⟨_, rfl⟩, rfl⟩)
      | some key =>
          dsimp only at h
          split at h
          · cases h
            exact .inr (.inr ⟨⟨_, rfl⟩, rfl⟩)
          · next hkey =>
              cases hlookup : keys.keys.lookup (std.hexdigest key) with
              | none =>
                  rw [ApiKeyStore.authenticate] at h
                  dsimp only at h
                  rw [hlookup] at h
                  cases h
                  exact .inr (.inr ⟨⟨_, rfl⟩, rfl⟩)
              | some record =>
                  refine .inr (.inl ?_)
                  rw [ApiKeyStore.authenticate] at h
                  dsimp only at h
                  rw [hlookup] at h
                  cases h
                  refine ⟨rfl, key, rfl, hkey, by rw [hlookup]; rfl, ?_⟩
                  rw [ApiKeyStore.call, ApiKeyStore.authenticate]
                  dsimp only
                  rw [hlookup]

/-- The request has been counted for a key. -/
def ApiCall.countsFor (std : PyStd) (call : ApiCall) (keyHash : String) : Bool :=
  call.countedOn.isSome && call.request.xApiKey.any fun key => std.hexdigest key = keyHash

/-- The number of requests that have been counted for a key. -/
def Server.counted (std : PyStd) (s : Server) (keyHash : String) : Nat :=
  s.calls.countP (·.countsFor std keyHash)

/-- A request that has come past the keys has presented one of them, if there are any. -/
structure PassedKeys (std : PyStd) (start : ApiKeyStore) (call : ApiCall) : Prop where
  fresh : call.stage = .received → call.countedOn = none
  passed : call.stage.isOpen = true ∨ call.stage = .answered .content →
    call.countedOn.isSome = true
  known : call.countedOn.isSome = true → start.isEnabled = true →
    ∃ key, call.request.xApiKey = some key ∧ key ≠ "" ∧
      (start.keys.lookup (std.hexdigest key)).isSome = true

/-- What the keys say, after some steps. -/
structure KeyCounts (std : PyStd) (start : ApiKeyStore) (s : Server) : Prop where
  total : ∀ keyHash, (s.keys.keys.lookup keyHash).map (·.requestsTotal) =
    (start.keys.lookup keyHash).map (·.requestsTotal + s.counted std keyHash)
  enabled : s.keys.isEnabled = start.isEnabled
  passed : ∀ call ∈ s.calls, PassedKeys std start call

theorem KeyCounts.isSome_lookup {start : ApiKeyStore} {s : Server} (h : KeyCounts std start s)
    (keyHash : String) :
    (s.keys.keys.lookup keyHash).isSome = (start.keys.lookup keyHash).isSome := by
  have htotal := congrArg Option.isSome (h.total keyHash)
  rwa [Option.isSome_map, Option.isSome_map] at htotal

theorem counted_advance {shared : ApiState} {before after : List ApiCall} {call : ApiCall}
    (keyHash : String) :
    Server.counted std { shared with calls := before ++ call :: after } keyHash =
      (before ++ after).countP (·.countsFor std keyHash) +
        if call.countsFor std keyHash = true then 1 else 0 := by
  rw [Server.counted, List.countP_append, List.countP_cons, List.countP_append]
  omega

/-- A store with a record for a key has keys. -/
theorem isEnabled_of_lookup {keys : ApiKeyStore} {keyHash : String}
    (h : (keys.keys.lookup keyHash).isSome = true) : keys.isEnabled = true := by
  rw [ApiKeyStore.isEnabled]
  cases hkeys : keys.keys with
  | nil =>
      rw [hkeys] at h
      cases h
  | cons m members => rfl

/-- A call that authenticates is counted for the key that it presents. -/
theorem map_total_authenticate (keys : ApiKeyStore) (key today keyHash : String) :
    ((keys.call std.toSha256 (.authenticate key today)).keys.lookup keyHash).map (·.requestsTotal) =
      (keys.keys.lookup keyHash).map
        (·.requestsTotal + if std.hexdigest key = keyHash then 1 else 0) := by
  by_cases hpresents : std.hexdigest key = keyHash
  · rw [ApiKeyStore.lookup_call_of_presents (c := .authenticate key today)
      (decide_eq_true hpresents), Option.map_map]
    simp only [if_pos hpresents]
    rfl
  · rw [ApiKeyStore.lookup_call_of_other (c := .authenticate key today)
      (decide_eq_false hpresents) rfl]
    simp only [if_neg hpresents]
    rfl

section Advance

variable {start : ApiKeyStore} {s : Server} {shared : ApiState} {before after : List ApiCall}
  {call call' : ApiCall}

/-- A step that counts nothing, of a request that stays open only if it was. -/
theorem KeyCounts.keep (h : KeyCounts std start s) (hcalls : s.calls = before ++ call :: after)
    (hkeys : shared.keys = s.keys) (hrequest : call'.request = call.request)
    (hcounted : call'.countedOn = call.countedOn) (hstage : call'.stage ≠ .received)
    (hopen : call'.stage.isOpen = true ∨ call'.stage = .answered .content →
      call.stage.isOpen = true) :
    KeyCounts std start { shared with calls := before ++ call' :: after } := by
  obtain ⟨htotal, henabled, hpassed⟩ := h
  rw [hcalls, List.forall_mem_append, List.forall_mem_cons] at hpassed
  obtain ⟨hbefore, hcall, hafter⟩ := hpassed
  have hcounts : ∀ keyHash, call'.countsFor std keyHash = call.countsFor std keyHash := by
    intro keyHash
    rw [ApiCall.countsFor, ApiCall.countsFor, hrequest, hcounted]
  refine ⟨?_, ?_, ?_⟩
  · intro keyHash
    rw [counted_advance, hcounts, ← @counted_advance std s.toApiState, ← hcalls]
    show (shared.keys.keys.lookup keyHash).map _ = _
    rw [hkeys]
    exact htotal keyHash
  · show shared.keys.isEnabled = _
    rw [hkeys]
    exact henabled
  · rw [List.forall_mem_append, List.forall_mem_cons]
    refine ⟨hbefore, ⟨fun hreceived => absurd hreceived hstage, ?_, ?_⟩, hafter⟩
    · intro h
      rw [hcounted]
      exact hcall.passed (.inl (hopen h))
    · rw [hcounted, hrequest]
      exact hcall.known

/-- A request that passes the keys is counted, for the key that it presents if there are any. -/
theorem KeyCounts.identify (h : KeyCounts std start s)
    (hcalls : s.calls = before ++ call :: after) (hstage : call.stage = .received)
    {today : String} {keys : ApiKeyStore}
    (hkey : requireApiKey std s.keys call.request.xApiKey today = (.ok (), keys)) :
    KeyCounts std start { s with
      keys
      calls := before ++
        { call with stage := .identified, countedOn := some today } :: after } := by
  have hpassed := h.passed
  rw [hcalls, List.forall_mem_append, List.forall_mem_cons] at hpassed
  obtain ⟨hbefore, hcall, hafter⟩ := hpassed
  have hs : ∀ keyHash, s.counted std keyHash =
      (before ++ after).countP (·.countsFor std keyHash) := by
    intro keyHash
    have hnone : call.countsFor std keyHash = false := by
      rw [ApiCall.countsFor, hcall.fresh hstage]
      rfl
    have hadvance := @counted_advance std s.toApiState before after call keyHash
    rwa [← hcalls, hnone] at hadvance
  have hpasses : (start.isEnabled = true → ∃ key, call.request.xApiKey = some key ∧ key ≠ "" ∧
        (start.keys.lookup (std.hexdigest key)).isSome = true) →
      ∀ c ∈ before ++ { call with stage := .identified, countedOn := some today } :: after,
        PassedKeys std start c := by
    intro hknown
    rw [List.forall_mem_append, List.forall_mem_cons]
    exact ⟨hbefore, ⟨(fun hreceived => by cases hreceived), fun _ => rfl, fun _ => hknown⟩,
      hafter⟩
  obtain ⟨-, hdisabled, rfl⟩ | ⟨-, key, hpresented, hne, hlookup, rfl⟩ | ⟨⟨_, herror⟩, -⟩ :=
    requireApiKey_cases hkey
  · -- without keys nothing is looked up
    have hempty : ∀ keyHash, s.keys.keys.lookup keyHash = none := by
      intro keyHash
      rw [← Option.not_isSome_iff_eq_none]
      intro hsome
      rw [isEnabled_of_lookup hsome] at hdisabled
      cases hdisabled
    refine ⟨?_, h.enabled, hpasses fun hstart => ?_⟩
    · intro keyHash
      have hsome := h.isSome_lookup keyHash
      rw [hempty, Option.isSome_none, eq_comm, Option.isSome_eq_false_iff,
        Option.isNone_iff_eq_none] at hsome
      show (s.keys.keys.lookup keyHash).map _ = _
      rw [hsome, hempty]
      rfl
    · rw [h.enabled, hstart] at hdisabled
      cases hdisabled
  · refine ⟨?_, ?_, hpasses fun _ => ?_⟩
    · intro keyHash
      have hcounts : ApiCall.countsFor std
          { call with stage := .identified, countedOn := some today } keyHash =
            decide (std.hexdigest key = keyHash) := by
        rw [ApiCall.countsFor, hpresented]
        rfl
      have hstart := h.total keyHash
      rw [hs] at hstart
      rw [counted_advance, hcounts]
      show ((s.keys.call std.toSha256 (.authenticate key today)).keys.lookup keyHash).map _ = _
      rw [map_total_authenticate]
      have hmap := congrArg (Option.map (· + if std.hexdigest key = keyHash then 1 else 0)) hstart
      rw [Option.map_map, Option.map_map] at hmap
      simp only [decide_eq_true_eq]
      refine hmap.trans (congrArg (fun f => Option.map f _) (funext fun r => ?_))
      exact Nat.add_assoc _ _ _
    · have hrecord : ((s.keys.call std.toSha256 (.authenticate key today)).keys.lookup
          (std.hexdigest key)).isSome = true := by
        rw [← Option.isSome_map, map_total_authenticate, Option.isSome_map]
        exact hlookup
      show (s.keys.call std.toSha256 (.authenticate key today)).isEnabled = _
      rw [isEnabled_of_lookup hrecord, ← h.enabled, isEnabled_of_lookup hlookup]
    · exact ⟨key, hpresented, hne, by rw [← h.isSome_lookup]; exact hlookup⟩
  · cases herror

end Advance

theorem KeyCounts.step {start : ApiKeyStore} {s s' : Server} {event : Event}
    (h : KeyCounts std start s) (hstep : Step std s event s') : KeyCounts std start s' := by
  cases hstep with
  | arrive =>
      refine ⟨?_, h.enabled, ?_⟩
      · intro keyHash
        rw [Server.counted, List.countP_append]
        exact h.total keyHash
      · rw [List.forall_mem_append, List.forall_mem_singleton]
        exact ⟨h.passed, fun _ => rfl, fun hopen => by simp [Stage.isOpen] at hopen,
          fun hcounted => by cases hcounted⟩
  | @advance before after call call' reading shared hcalls hadvance =>
      cases advances_of_advance std hadvance with
      | identify hstage hkey => exact h.identify hcalls hstage hkey
      | refuseKey hstage hkey =>
          obtain ⟨hok, -⟩ | ⟨hok, -⟩ | ⟨-, rfl⟩ := requireApiKey_cases hkey
          · cases hok
          · cases hok
          · exact h.keep hcalls rfl rfl rfl (by simp [ApiCall.answer]) fun hopen => by
              simp [ApiCall.answer, Stage.isOpen] at hopen
      | letThrough hstage _ _ =>
          exact h.keep hcalls rfl rfl rfl (by simp) fun _ => by rw [hstage]; rfl
      | refuseLimit hstage _ _ =>
          exact h.keep hcalls rfl rfl rfl (by simp [ApiCall.answer]) fun _ => by rw [hstage]; rfl
      | enter hstage _ _ =>
          exact h.keep hcalls rfl rfl rfl (by simp) fun _ => by rw [hstage]; rfl
      | overload hstage _ _ =>
          exact h.keep hcalls rfl rfl rfl (by simp [ApiCall.answer]) fun _ => by rw [hstage]; rfl
      | leave hstage =>
          exact h.keep hcalls rfl rfl rfl (by simp [ApiCall.answer]) fun _ => by rw [hstage]; rfl
      | move hopen _ _ _ hearly _ =>
          refine h.keep hcalls rfl rfl rfl ?_ fun _ => hopen
          rintro rfl
          cases hearly

/-- No key has been counted when it is loaded. -/
theorem total_loadFromEnv {sha : Sha256} {raw loadedOn keyHash : String} {r : ApiKeyRecord}
    (h : (ApiKeyStore.loadFromEnv sha raw loadedOn).keys.lookup keyHash = some r) :
    r.requestsTotal = 0 := by
  have hentries : ∀ (entries : List (List Char)) (keys : ApiKeyStore),
      (∀ r, keys.keys.lookup keyHash = some r → r.requestsTotal = 0) →
      ∀ r, (ApiKeyStore.loadEntries sha loadedOn keys entries).keys.lookup keyHash = some r →
        r.requestsTotal = 0 := by
    intro entries
    induction entries with
    | nil => exact fun keys hkeys => hkeys
    | cons entry entries ih =>
        intro keys hkeys
        rw [ApiKeyStore.loadEntries, List.foldl_cons]
        refine ih _ ?_
        split
        · exact hkeys
        · next label key _ =>
            intro r hr
            by_cases heq : keyHash = sha.hexdigest (String.ofList (strip key))
            · subst heq
              rw [ApiKeyStore.register, lookup_setItem_self] at hr
              cases hr
              rfl
            · rw [ApiKeyStore.register, lookup_setItem_of_ne heq] at hr
              exact hkeys r hr
  rw [ApiKeyStore.loadFromEnv] at h
  split at h
  · cases h
  · exact hentries _ _ (fun r hr => by cases hr) r h

/-- **The keys count the requests that present them.** Whatever the order of the steps, every key
has as many requests as have come past it, and where there are keys, a request comes past them
and is answered with content only if it has presented one. -/
theorem keys_count_requests {raw loadedOn : String} {limit windowSeconds maxInFlight : Int}
    {start s : Server} {trace : List (Server × Event)}
    (hstart : Starts std raw loadedOn limit windowSeconds maxInFlight start)
    (h : Trace (Step std) start trace s) :
    (∀ keyHash r, s.keys.keys.lookup keyHash = some r →
        r.requestsTotal = s.counted std keyHash) ∧
      (start.keys.isEnabled = true → ∀ call ∈ s.calls,
        call.stage.isOpen = true ∨ call.stage = .answered .content →
          ∃ key, call.request.xApiKey = some key ∧ key ≠ "" ∧
            (start.keys.keys.lookup (std.hexdigest key)).isSome = true) := by
  have hinit : KeyCounts std start.keys start := by
    refine ⟨fun keyHash => ?_, rfl, ?_⟩
    · rw [Server.counted, hstart.calls_eq]
      rfl
    · rw [hstart.calls_eq]
      exact List.forall_mem_nil _
  have hkeep : ∀ t event u, KeyCounts std start.keys t → Step std t event u → True →
      KeyCounts std start.keys u := fun _ _ _ ht hstep _ => ht.step hstep
  obtain ⟨-, hcounts⟩ := h.invariant hkeep hinit fun _ _ => trivial
  constructor
  · intro keyHash r hr
    have htotal := hcounts.total keyHash
    rw [hr, hstart.keys_eq] at htotal
    cases hloaded : (ApiKeyStore.loadFromEnv std.toSha256 raw loadedOn).keys.lookup keyHash with
    | none =>
        rw [hloaded] at htotal
        cases htotal
    | some r' =>
        rw [hloaded, Option.map_some, Option.map_some, total_loadFromEnv hloaded,
          Nat.zero_add] at htotal
        exact Option.some.inj htotal
  · intro henabled call hcall hopen
    have hpassed := hcounts.passed call hcall
    exact hpassed.known (hpassed.passed hopen) henabled

theorem keys_count_requests_sample : ∃ s : Server, s.inFlight = 1 ∧
    (∀ keyHash r, s.keys.keys.lookup keyHash = some r →
        r.requestsTotal = s.counted lengthStd keyHash) ∧
      (oneSlot.keys.isEnabled = true → ∀ call ∈ s.calls,
        call.stage.isOpen = true ∨ call.stage = .answered .content →
          ∃ key, call.request.xApiKey = some key ∧ key ≠ "" ∧
            (oneSlot.keys.keys.lookup (lengthStd.hexdigest key)).isSome = true) := by
  obtain ⟨trace, s, hrun, hdepth, -⟩ := oneSlot_run
  exact ⟨s, hdepth, keys_count_requests oneSlot_starts hrun⟩

end Keys

/-! ### The limit of a window holds for the requests that are let through -/

section Window

/-- The times at which requests of a client were let through. -/
def Server.admissions (s : Server) (key : String) : List ℚ :=
  s.calls.filterMap fun c => if c.request.clientKey = key then c.admittedAt else none

/-- The request has come past the rate limit, and was not cut short. -/
def Stage.isThrough (stage : Stage) : Prop :=
  stage.isOpen = true ∧ stage.isEarly = false ∨ stage = .answered .content

/-- What the limiter has to do with the requests, after some steps. -/
structure WindowCounts (new : RateLimiter) (s : Server) : Prop where
  log : ∃ log : List (String × ℚ), s.limiter = new.after log ∧ log.Pairwise (·.2 ≤ ·.2) ∧
    (∀ c ∈ log, c.2 ≤ s.clock) ∧ ∀ key, (s.admissions key).Perm (new.allowedTimes key log)
  early : ∀ call ∈ s.calls, call.stage.isEarly = true → call.admittedAt = none
  through : ∀ call ∈ s.calls, call.request.route.isLimited = true → call.stage.isThrough →
    call.admittedAt.isSome = true

theorem admissions_advance {shared : ApiState} {before after : List ApiCall} {call : ApiCall}
    (key : String) :
    (Server.admissions { shared with calls := before ++ call :: after } key).Perm
      ((before ++ after).filterMap (fun c =>
          if c.request.clientKey = key then c.admittedAt else none) ++
        (if call.request.clientKey = key then call.admittedAt else none).toList) := by
  have hlist : Server.admissions { shared with calls := before ++ call :: after } key =
      before.filterMap (fun c => if c.request.clientKey = key then c.admittedAt else none) ++
        ((if call.request.clientKey = key then call.admittedAt else none).toList ++
          after.filterMap fun c => if c.request.clientKey = key then c.admittedAt else none) := by
    rw [Server.admissions, List.filterMap_append, List.filterMap_cons]
    cases (if call.request.clientKey = key then call.admittedAt else none) <;> rfl
  rw [hlist, List.filterMap_append, List.append_assoc]
  exact List.Perm.append_left _ List.perm_append_comm

section Advance

variable {new : RateLimiter} {s : Server} {shared : ApiState} {before after : List ApiCall}
  {call call' : ApiCall}

/-- A step that does not look at the limiter. -/
theorem WindowCounts.keep (h : WindowCounts new s) (hcalls : s.calls = before ++ call :: after)
    (hlimiter : shared.limiter = s.limiter) (hclock : shared.clock = s.clock)
    (hrequest : call'.request = call.request) (hadmitted : call'.admittedAt = call.admittedAt)
    (hearly : call'.stage.isEarly = true → call.stage.isEarly = true)
    (hthrough : call.request.route.isLimited = true → call'.stage.isThrough →
      call.stage.isThrough) :
    WindowCounts new { shared with calls := before ++ call' :: after } := by
  obtain ⟨⟨log, hlog, hsorted, hle, hperm⟩, hearlier, hpassed⟩ := h
  rw [hcalls, List.forall_mem_append, List.forall_mem_cons] at hearlier hpassed
  refine ⟨⟨log, hlimiter.trans hlog, hsorted, fun c hc => ?_, fun key => ?_⟩, ?_, ?_⟩
  · show c.2 ≤ shared.clock
    rw [hclock]
    exact hle c hc
  · have hbefore := @admissions_advance s.toApiState before after call key
    rw [← hcalls] at hbefore
    have hafter := @admissions_advance shared before after call' key
    rw [hrequest, hadmitted] at hafter
    exact hafter.trans (hbefore.symm.trans (hperm key))
  · rw [List.forall_mem_append, List.forall_mem_cons]
    refine ⟨hearlier.1, fun h => ?_, hearlier.2.2⟩
    rw [hadmitted]
    exact hearlier.2.1 (hearly h)
  · rw [List.forall_mem_append, List.forall_mem_cons]
    refine ⟨hpassed.1, fun hlimited h => ?_, hpassed.2.2⟩
    rw [hrequest] at hlimited
    rw [hadmitted]
    exact hpassed.2.1 hlimited (hthrough hlimited h)

/-- A step that asks the limiter. -/
theorem WindowCounts.ask (h : WindowCounts new s) (hcalls : s.calls = before ++ call :: after)
    (hstage : call.stage = .identified) {now : ℚ} (hnow : s.clock ≤ now)
    (hrequest : call'.request = call.request) (hearly : call'.stage.isEarly = false)
    (hadmitted : call'.admittedAt =
      if (s.limiter.allow call.request.clientKey now).1.allowed = true then some now else none)
    (hthrough : call'.stage.isThrough →
      (s.limiter.allow call.request.clientKey now).1.allowed = true) :
    WindowCounts new { s with
      limiter := (s.limiter.allow call.request.clientKey now).2
      clock := now
      calls := before ++ call' :: after } := by
  obtain ⟨⟨log, hlog, hsorted, hle, hperm⟩, hearlier, hpassed⟩ := h
  rw [hcalls, List.forall_mem_append, List.forall_mem_cons] at hearlier hpassed
  have hnone : call.admittedAt = none := hearlier.2.1 (by rw [hstage]; rfl)
  refine ⟨⟨log ++ [(call.request.clientKey, now)], ?_, ?_, ?_, fun key => ?_⟩, ?_, ?_⟩
  · rw [RateLimiter.after_snoc, ← hlog]
  · rw [List.pairwise_append]
    exact ⟨hsorted, List.pairwise_singleton _ _, fun c hc d hd => by
      rw [List.mem_singleton.mp hd]
      exact (hle c hc).trans hnow⟩
  · rw [List.forall_mem_append, List.forall_mem_singleton]
    exact ⟨fun c hc => (hle c hc).trans hnow, le_rfl⟩
  · have hbefore := @admissions_advance s.toApiState before after call key
    rw [← hcalls, hnone, ite_self, Option.toList_none, List.append_nil] at hbefore
    have hafter := @admissions_advance
      { s with limiter := (s.limiter.allow call.request.clientKey now).2, clock := now }
      before after call' key
    rw [RateLimiter.allowedTimes_snoc, ← hlog]
    refine hafter.trans (List.Perm.append (hbefore.symm.trans (hperm key)) ?_)
    rw [hrequest, hadmitted]
    by_cases hkey : call.request.clientKey = key
    · by_cases hallowed : (s.limiter.allow call.request.clientKey now).1.allowed = true
      · rw [if_pos hkey, if_pos hallowed, if_pos ⟨hkey, hallowed⟩]
        rfl
      · rw [if_pos hkey, if_neg hallowed, if_neg fun h => hallowed h.2]
        rfl
    · rw [if_neg hkey, if_neg fun h => hkey h.1]
      rfl
  · rw [List.forall_mem_append, List.forall_mem_cons]
    exact ⟨hearlier.1, fun h => (by rw [hearly] at h; cases h), hearlier.2.2⟩
  · rw [List.forall_mem_append, List.forall_mem_cons]
    refine ⟨hpassed.1, fun _ h => ?_, hpassed.2.2⟩
    rw [hadmitted, if_pos (hthrough h)]
    rfl

end Advance

/-- An error is no content. -/
theorem not_isThrough_http (statusCode : Nat) (detail : String) :
    ¬ (Stage.answered (.http statusCode detail)).isThrough := by
  rintro (⟨hopen, -⟩ | hcontent)
  · cases hopen
  · cases hcontent

theorem WindowCounts.step {new : RateLimiter} {s s' : Server} {event : Event}
    (h : WindowCounts new s) (hstep : Step std s event s') : WindowCounts new s' := by
  cases hstep with
  | @arrive request =>
      obtain ⟨⟨log, hlog, hsorted, hle, hperm⟩, hearlier, hpassed⟩ := h
      refine ⟨⟨log, hlog, hsorted, hle, fun key => ?_⟩, ?_, ?_⟩
      · rw [Server.admissions, List.filterMap_append]
        have hnone : [({ request } : ApiCall)].filterMap
            (fun c => if c.request.clientKey = key then c.admittedAt else none) = [] := by
          simp
        rw [hnone, List.append_nil]
        exact hperm key
      · rw [List.forall_mem_append, List.forall_mem_singleton]
        exact ⟨hearlier, fun _ => rfl⟩
      · rw [List.forall_mem_append, List.forall_mem_singleton]
        refine ⟨hpassed, fun _ hthrough => ?_⟩
        obtain ⟨hopen, -⟩ | hcontent := hthrough
        · cases hopen
        · cases hcontent
  | @advance before after call call' reading shared hcalls hadvance =>
      cases advances_of_advance std hadvance with
      | identify hstage _ =>
          refine h.keep hcalls rfl rfl rfl rfl (fun _ => by rw [hstage]; rfl) fun _ hthrough => ?_
          obtain ⟨-, hearly⟩ | hcontent := hthrough
          · cases hearly
          · cases hcontent
      | refuseKey hstage _ =>
          exact h.keep hcalls rfl rfl rfl rfl (fun h => by cases h) fun _ h =>
            absurd h (not_isThrough_http _ _)
      | letThrough hstage hclock hallowed =>
          exact h.ask hcalls hstage hclock rfl rfl (by rw [if_pos hallowed]) fun _ => hallowed
      | refuseLimit hstage hclock hrefused =>
          have hnone : call.admittedAt = none :=
            h.early call (by rw [hcalls]; simp) (by rw [hstage]; rfl)
          refine h.ask hcalls hstage hclock rfl rfl ?_ fun h =>
            absurd h (not_isThrough_http _ _)
          rw [hrefused]
          exact hnone
      | enter hstage _ _ =>
          exact h.keep hcalls rfl rfl rfl rfl (fun h => by cases h) fun _ _ =>
            .inl (by rw [hstage]; exact ⟨rfl, rfl⟩)
      | overload hstage _ _ =>
          exact h.keep hcalls rfl rfl rfl rfl (fun h => by cases h) fun _ h =>
            absurd h (not_isThrough_http _ _)
      | leave hstage =>
          exact h.keep hcalls rfl rfl rfl rfl (fun h => by cases h) fun _ _ =>
            .inl (by rw [hstage]; exact ⟨rfl, rfl⟩)
      | move hopen hstage hidentified _ hearly _ =>
          refine h.keep hcalls rfl rfl rfl rfl (fun h => ?_) fun hlimited _ => .inl ⟨hopen, ?_⟩
          · rw [hearly] at h
            cases h
          · cases hcall : call.stage with
            | received =>
                rw [hcall] at hopen
                cases hopen
            | identified =>
                rw [hidentified hcall] at hlimited
                cases hlimited
            | admitted => rfl
            | loaded => rfl
            | inFlight => rfl
            | running => rfl
            | answered answer => rfl

end Window

end Vrl.Api

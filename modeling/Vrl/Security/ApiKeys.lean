import Mathlib.Data.List.Induction
import Mathlib.Data.String.Basic
import Vrl.Lib.PyStd

/-!
# Vrl.Security.ApiKeys

The keys of the API and what is counted for them (`security/api_keys.py`).

A key is known by its digest, and is loaded from a text of labels and keys. Every call that
presents it is counted twice, since its registration and on its day.
-/

namespace Vrl

variable (sha : Sha256)

/-! ### Records -/

/-- `ApiKeyRecord`. -/
structure ApiKeyRecord where
  keyId : String
  keyHash : String
  label : String
  requestsTotal : Nat := 0
  requestsToday : Nat := 0
  dayBucket : String
  deriving DecidableEq, Repr

/-- `tick`, on a day. -/
def ApiKeyRecord.tick (r : ApiKeyRecord) (today : String) : ApiKeyRecord :=
  { r with
    requestsTotal := r.requestsTotal + 1
    requestsToday := (if today ≠ r.dayBucket then 0 else r.requestsToday) + 1
    dayBucket := today }

/-! ### The store -/

/-- `ApiKeyStore`: the records under the digests of their keys. -/
structure ApiKeyStore where
  keys : List (String × ApiKeyRecord) := []
  deriving DecidableEq, Repr

namespace ApiKeyStore

/-- `is_enabled`. -/
def isEnabled (s : ApiKeyStore) : Bool := !s.keys.isEmpty

/-- `register`, on a day. -/
def register (s : ApiKeyStore) (label rawKey today : String) : String × ApiKeyStore :=
  let keyHash := sha.hexdigest rawKey
  let keyId := String.ofList (keyHash.toList.take 8)
  (keyId, { keys := setItem s.keys keyHash { keyId, keyHash, label, dayBucket := today } })

/-- `authenticate`, on a day. -/
def authenticate (s : ApiKeyStore) (rawKey today : String) : Option ApiKeyRecord × ApiKeyStore :=
  let keyHash := sha.hexdigest rawKey
  match s.keys.lookup keyHash with
  | none => (none, s)
  | some record =>
      let record := record.tick today
      (some record, { keys := setItem s.keys keyHash record })

/-! ### The keys of the environment -/

/-- `entry.split(":", 1)` of a text with a colon, and nothing for the others. -/
def splitEntry (entry : List Char) : Option (List Char × List Char) :=
  if ':' ∈ entry then
    some (entry.takeWhile (· ≠ ':'), (entry.dropWhile (· ≠ ':')).tail)
  else none

/-- The loop of `_load_from_env` over the entries. -/
def loadEntries (today : String) (s : ApiKeyStore) (entries : List (List Char)) : ApiKeyStore :=
  entries.foldl (fun s entry =>
    match splitEntry (strip entry) with
    | none => s
    | some (label, key) =>
        (s.register sha (String.ofList (strip label)) (String.ofList (strip key)) today).2) s

/-- `ApiKeyStore()`, with the value of `VRL_API_KEYS`. -/
def loadFromEnv (raw today : String) : ApiKeyStore :=
  if raw.toList = [] then {} else loadEntries sha today {} (raw.toList.splitOn ',')

/-! ### Any number of calls -/

/-- A call, with the day on which it is made. -/
inductive KeyCall where
  | register (label rawKey today : String)
  | authenticate (rawKey today : String)
  deriving DecidableEq, Repr

/-- The day of a call. -/
def KeyCall.today : KeyCall → String
  | .register _ _ today => today
  | .authenticate _ today => today

/-- The call authenticates with a key. -/
def KeyCall.presents (call : KeyCall) (keyHash : String) : Bool :=
  match call with
  | .register .. => false
  | .authenticate rawKey _ => sha.hexdigest rawKey = keyHash

/-- The call registers a key. -/
def KeyCall.registers (call : KeyCall) (keyHash : String) : Bool :=
  match call with
  | .register _ rawKey _ => sha.hexdigest rawKey = keyHash
  | .authenticate .. => false

/-- The store after a call. -/
def call (s : ApiKeyStore) : KeyCall → ApiKeyStore
  | .register label rawKey today => (s.register sha label rawKey today).2
  | .authenticate rawKey today => (s.authenticate sha rawKey today).2

/-- The store after some calls. -/
def after (s : ApiKeyStore) (calls : List KeyCall) : ApiKeyStore := calls.foldl (call sha) s

/-! ### What is counted for a key -/

section Counts

variable {sha} {s : ApiKeyStore} {keyHash : String}

/-- A call with another key leaves the record of a key alone. -/
theorem lookup_call_of_other {c : KeyCall} (hpresents : c.presents sha keyHash = false)
    (hregisters : c.registers sha keyHash = false) :
    (s.call sha c).keys.lookup keyHash = s.keys.lookup keyHash := by
  cases c with
  | register label rawKey today =>
      exact lookup_setItem_of_ne (Ne.symm (of_decide_eq_false hregisters))
  | authenticate rawKey today =>
      have hne := Ne.symm (of_decide_eq_false hpresents)
      rw [call, authenticate]
      cases hlookup : s.keys.lookup (sha.hexdigest rawKey) with
      | none => rfl
      | some record => exact lookup_setItem_of_ne hne

/-- A call that presents a key ticks its record. -/
theorem lookup_call_of_presents {c : KeyCall} (h : c.presents sha keyHash = true) :
    (s.call sha c).keys.lookup keyHash =
      (s.keys.lookup keyHash).map fun r => r.tick c.today := by
  cases c with
  | register label rawKey today => cases h
  | authenticate rawKey today =>
      obtain rfl := of_decide_eq_true h
      rw [call, authenticate]
      cases hlookup : s.keys.lookup (sha.hexdigest rawKey) with
      | none => exact hlookup
      | some record => exact lookup_setItem_self

theorem after_snoc (calls : List KeyCall) (c : KeyCall) :
    s.after sha (calls ++ [c]) = (s.after sha calls).call sha c := by
  rw [after, after, List.foldl_append, List.foldl_cons, List.foldl_nil]

theorem after_append (calls more : List KeyCall) :
    s.after sha (calls ++ more) = (s.after sha calls).after sha more :=
  List.foldl_append

/-- What the record of a key says after the calls since its registration. -/
structure Counts (sha : Sha256) (keyHash label registeredOn : String) (since : List KeyCall)
    (r : ApiKeyRecord) : Prop where
  keyId_eq : r.keyId = String.ofList (keyHash.toList.take 8)
  keyHash_eq : r.keyHash = keyHash
  label_eq : r.label = label
  total : r.requestsTotal = since.countP (·.presents sha keyHash)
  today : r.requestsToday =
    since.countP fun c => c.presents sha keyHash && c.today = r.dayBucket
  day : ((since.filter (·.presents sha keyHash)).map KeyCall.today).getLast?.getD registeredOn =
    r.dayBucket
  latest : ∀ c ∈ since, c.presents sha keyHash = true → c.today ≤ r.dayBucket

/-- The day of the record is that of the registration or of a call. -/
theorem Counts.day_mem {label registeredOn : String} {since : List KeyCall} {r : ApiKeyRecord}
    (h : Counts sha keyHash label registeredOn since r) :
    r.dayBucket = registeredOn ∨ ∃ c ∈ since, c.today = r.dayBucket := by
  have hday := h.day
  cases hlast : ((since.filter (·.presents sha keyHash)).map KeyCall.today).getLast? with
  | none =>
      rw [hlast] at hday
      exact .inl hday.symm
  | some day =>
      rw [hlast] at hday
      obtain ⟨c, hc, hcday⟩ := List.mem_map.mp (List.mem_of_getLast? hlast)
      exact .inr ⟨c, List.mem_of_mem_filter hc, hcday.trans hday⟩

/-- A call that does not present the key counts for nothing. -/
theorem Counts.other {label registeredOn : String} {since : List KeyCall} {r : ApiKeyRecord}
    (h : Counts sha keyHash label registeredOn since r) {c : KeyCall}
    (hc : c.presents sha keyHash = false) :
    Counts sha keyHash label registeredOn (since ++ [c]) r := by
  obtain ⟨hid, hhash, hlabel, htotal, htoday, hday, hlatest⟩ := h
  refine ⟨hid, hhash, hlabel, ?_, ?_, ?_, ?_⟩
  · rw [List.countP_append, List.countP_singleton, hc, htotal]
    rfl
  · rw [List.countP_append, List.countP_singleton, hc, htoday]
    rfl
  · rw [List.filter_append, List.filter_singleton, hc, cond_false, List.append_nil]
    exact hday
  · rw [List.forall_mem_append, List.forall_mem_singleton]
    exact ⟨hlatest, fun hpresents => absurd hpresents (by simp [hc])⟩

/-- A call that presents the key is counted, on its day and in total. -/
theorem Counts.tick {label registeredOn : String} {since : List KeyCall} {r : ApiKeyRecord}
    (h : Counts sha keyHash label registeredOn since r) {c : KeyCall}
    (hc : c.presents sha keyHash = true)
    (hregistered : registeredOn ≤ c.today) (hlater : ∀ e ∈ since, e.today ≤ c.today) :
    Counts sha keyHash label registeredOn (since ++ [c]) (r.tick c.today) := by
  have hbucket : r.dayBucket ≤ c.today := by
    obtain hday | ⟨e, he, hday⟩ := h.day_mem
    · rwa [hday]
    · rw [← hday]
      exact hlater e he
  have htoday : (if c.today ≠ r.dayBucket then 0 else r.requestsToday) =
      since.countP fun e => e.presents sha keyHash && e.today = c.today := by
    by_cases hsame : c.today = r.dayBucket
    · rw [if_neg (not_not.mpr hsame), hsame]
      exact h.today
    · -- the day has begun with this call
      rw [if_pos hsame, eq_comm, List.countP_eq_zero]
      intro e he hboth
      rw [Bool.and_eq_true, decide_eq_true_eq] at hboth
      have hle := h.latest e he hboth.1
      rw [hboth.2] at hle
      exact hsame (le_antisymm hle hbucket)
  refine ⟨h.keyId_eq, h.keyHash_eq, h.label_eq, ?_, ?_, ?_, ?_⟩
  · rw [List.countP_append, List.countP_singleton, if_pos hc, ← h.total]
    rfl
  · have hnow : (c.presents sha keyHash && decide (c.today = c.today)) = true := by
      rw [hc, decide_eq_true rfl, Bool.and_self]
    have hlast : [c].countP (fun e => e.presents sha keyHash && e.today = c.today) = 1 := by
      rw [List.countP_singleton, if_pos hnow]
    rw [List.countP_append]
    exact congrArg₂ (· + ·) htoday hlast.symm
  · rw [List.filter_append, List.filter_singleton, hc, cond_true, List.map_append,
      List.map_singleton, List.getLast?_append, List.getLast?_singleton]
    rfl
  · rw [List.forall_mem_append, List.forall_mem_singleton]
    exact ⟨fun e he _ => hlater e he, fun _ => le_rfl⟩

/-- **What is counted for a key.** After any calls, the record of a key that was registered has
as many requests as have presented the key since, and as many of today as have presented it on the
day of the last of them. The clock must not go back. -/
theorem usage_since_registration (store : ApiKeyStore) (before : List KeyCall)
    {label rawKey registeredOn : String} {since : List KeyCall}
    (hregistered : ∀ c ∈ since, c.registers sha (sha.hexdigest rawKey) = false)
    (hclock : (registeredOn :: since.map KeyCall.today).Pairwise (· ≤ ·)) :
    ∃ r, (store.after sha (before ++ .register label rawKey registeredOn :: since)).keys.lookup
        (sha.hexdigest rawKey) = some r ∧
      Counts sha (sha.hexdigest rawKey) label registeredOn since r := by
  induction since using List.reverseRecOn with
  | nil =>
      rw [after_snoc]
      refine ⟨_, lookup_setItem_self, ?_⟩
      constructor <;> simp
  | append_singleton since c ih =>
      rw [List.forall_mem_append, List.forall_mem_singleton] at hregistered
      rw [List.map_append, List.map_singleton, ← List.cons_append, List.pairwise_append] at hclock
      obtain ⟨r, hlookup, hcounts⟩ := ih hregistered.1 hclock.1
      have hlater : ∀ day ∈ registeredOn :: since.map KeyCall.today, day ≤ c.today :=
        fun day hday => hclock.2.2 day hday c.today (List.mem_singleton_self _)
      rw [List.forall_mem_cons, List.forall_mem_map] at hlater
      rw [← List.cons_append, ← List.append_assoc, after_snoc]
      by_cases hpresents : c.presents sha (sha.hexdigest rawKey) = true
      · refine ⟨r.tick c.today, ?_, hcounts.tick hpresents hlater.1 hlater.2⟩
        rw [lookup_call_of_presents hpresents, hlookup]
        rfl
      · rw [Bool.not_eq_true] at hpresents
        refine ⟨r, ?_, hcounts.other hpresents⟩
        rw [lookup_call_of_other hpresents hregistered.2, hlookup]

theorem isDigest_nil : ∀ e ∈ ([] : List (String × String)),
    e.2.toList.length = 64 ∧ ∀ c ∈ e.2.toList, TextCodec.isLowerHex c = true :=
  List.forall_mem_nil _

theorem distinct_nil : (([] : List (String × String)).map (·.2)).Nodup := List.nodup_nil

/-- Digests that are told apart, for keys that are not in any table. -/
def plainSha : Sha256 := DigestTable.sha ⟨[], isDigest_nil, distinct_nil⟩

/-- Two calls with a key after its registration, on different days. -/
def twoCalls : List KeyCall :=
  [.authenticate "sk_1" "2026-01-01", .register "service-b" "sk_2" "2026-01-01",
    .authenticate "sk_1" "2026-01-02"]

theorem usage_since_registration_sample :
    ∃ r, (after plainSha {}
        ([] ++ .register "service-a" "sk_1" "2026-01-01" :: twoCalls)).keys.lookup
          (plainSha.hexdigest "sk_1") = some r ∧
      Counts plainSha (plainSha.hexdigest "sk_1") "service-a" "2026-01-01" twoCalls r :=
  usage_since_registration {} [] (by decide +kernel) (by decide +kernel)

end Counts

/-! ### What is loaded -/

section Loading

variable {sha} {label key : List Char}

end Loading

end ApiKeyStore

end Vrl

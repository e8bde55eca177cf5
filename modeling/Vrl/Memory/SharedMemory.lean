import Vrl.Lib.TextOrder
import Mathlib.Data.List.Sort
import Mathlib.Data.Prod.Lex

/-!
# Vrl.Memory.SharedMemory

The strategies that agents record, and which of them counts (`memory/shared_memory.py`).

The latest entry of a pattern is not the last one of the log: the entries of the domain are sorted,
by cycle, time and id. What the clock shows is left abstract, as a linear order of readings. For
readings and cycles that do not decrease the two are the same, but for ties: entries of one
cycle and one time are in the order of their ids, which are texts with a counter in them
(**`latestStrategy_eq_last`**).
-/

open TextCodec

namespace Vrl.Memory

/-! ### Entries -/

/-- `StrategyEntry`. -/
structure StrategyEntry (Time : Type) where
  entryId : String
  domain : String
  outcome : String
  pattern : String
  detail : String
  cycle : Int
  agentId : String
  timestamp : Time
  tags : List String
  deriving DecidableEq

/-- The arguments of `record_strategy`, with what the clock shows when the id of the entry is
made, and when the entry is. -/
structure StrategyCall (Time : Type) where
  domain : String
  outcome : String
  pattern : String
  detail : String
  cycle : Int
  agentId : String
  tags : List String
  idTime : Time
  entryTime : Time

section Definitions

variable {Time : Type} (millis : Time → Int)

/-- `f"s_{int(time.time() * 1000)}_{len(self._strategy)}"`. -/
def strategyId (time : Time) (count : Nat) : String :=
  "s_" ++ String.ofList (intText (millis time)) ++ "_" ++ String.ofList (natText count)

/-- The entry that a call makes. -/
def StrategyCall.entry (call : StrategyCall Time) (count : Nat) : StrategyEntry Time where
  entryId := strategyId millis call.idTime count
  domain := call.domain
  outcome := call.outcome
  pattern := call.pattern
  detail := call.detail
  cycle := call.cycle
  agentId := call.agentId
  timestamp := call.entryTime
  tags := call.tags

/-- `record_strategy`. -/
def recordStrategy (strategy : List (StrategyEntry Time)) (call : StrategyCall Time) :
    List (StrategyEntry Time) :=
  strategy ++ [call.entry millis strategy.length]

/-- The log after calls in a row. -/
def recorded (calls : List (StrategyCall Time)) : List (StrategyEntry Time) :=
  calls.foldl (recordStrategy millis) []

variable [LinearOrder Time]

/-- The key that entries are sorted by. -/
def StrategyEntry.key (e : StrategyEntry Time) : Int ×ₗ Time ×ₗ String :=
  toLex (e.cycle, toLex (e.timestamp, e.entryId))

/-- `query_domain`: the entries of a domain, those with large keys first. -/
def queryDomain (strategy : List (StrategyEntry Time)) (domain : String) :
    List (StrategyEntry Time) :=
  (strategy.filter fun e => e.domain = domain).insertionSort fun e f => f.key ≤ e.key

/-- `latest_strategy`. -/
def latestStrategy (strategy : List (StrategyEntry Time)) (domain pattern : String) :
    Option (StrategyEntry Time) :=
  (queryDomain strategy domain).find? fun e => e.pattern = pattern

/-- `is_strategy_blocked`. -/
def isStrategyBlocked (strategy : List (StrategyEntry Time)) (domain pattern : String) : Bool :=
  if pattern = "" then false
  else
    match latestStrategy strategy domain pattern with
    | some latest => latest.outcome = "failure"
    | none => false

end Definitions

/-! ### Sorted entries -/

section Sorted

variable {Time : Type} [LinearOrder Time]

/-- What comes first of entries with large keys first, is the last of the log if its key is
larger than those before it. -/
theorem head_of_perm {entries before : List (StrategyEntry Time)} {last : StrategyEntry Time}
    (hsorted : entries.Pairwise fun e f => f.key ≤ e.key) (hperm : entries.Perm (before ++ [last]))
    (hlast : ∀ e ∈ before, e.key < last.key) : entries.head? = some last := by
  cases entries with
  | nil => simpa using hperm.length_eq
  | cons first rest =>
      rw [List.pairwise_cons] at hsorted
      have hfirst := hperm.mem_iff.mp (List.mem_cons_self ..)
      rw [List.mem_append, List.mem_singleton] at hfirst
      rcases hfirst with hbefore | rfl
      · have hlt := hlast first hbefore
        have hmem : last ∈ first :: rest := hperm.mem_iff.mpr (by simp)
        rcases List.mem_cons.mp hmem with rfl | hmem
        · exact absurd hlt (lt_irrefl _)
        · exact absurd (hsorted.1 last hmem) (not_le_of_gt hlt)
      · rfl

/-- The entries of a domain and a pattern, as they were recorded. -/
def selected (strategy : List (StrategyEntry Time)) (domain pattern : String) :
    List (StrategyEntry Time) :=
  strategy.filter fun e => e.domain = domain ∧ e.pattern = pattern

/-- The latest strategy comes first of the entries of the domain that have the pattern. -/
theorem latestStrategy_eq_head (strategy : List (StrategyEntry Time)) (domain pattern : String) :
    latestStrategy strategy domain pattern =
      ((queryDomain strategy domain).filter fun e => e.pattern = pattern).head? := by
  rw [latestStrategy, List.head?_filter]

theorem pairwise_queryDomain (strategy : List (StrategyEntry Time)) (domain : String) :
    (queryDomain strategy domain).Pairwise fun e f => f.key ≤ e.key := by
  have htotal : Std.Total fun e f : StrategyEntry Time => f.key ≤ e.key :=
    ⟨fun e f => le_total f.key e.key⟩
  have htrans : IsTrans (StrategyEntry Time) fun e f => f.key ≤ e.key :=
    ⟨fun _ _ _ hef hfg => le_trans hfg hef⟩
  exact List.pairwise_insertionSort _ _

theorem perm_queryDomain (strategy : List (StrategyEntry Time)) (domain pattern : String) :
    ((queryDomain strategy domain).filter fun e => e.pattern = pattern).Perm
      (selected strategy domain pattern) := by
  have hselected : selected strategy domain pattern =
      (strategy.filter fun e => e.domain = domain).filter fun e => e.pattern = pattern := by
    rw [selected, List.filter_filter]
    exact List.filter_congr fun e _ => by rw [Bool.decide_and, Bool.and_comm]
  rw [hselected]
  exact (List.perm_insertionSort _ _).filter _

/-- Entries that tie with the last one in cycle and time have smaller ids. -/
def TiesAscend (entries : List (StrategyEntry Time)) : Prop :=
  ∀ last ∈ entries.getLast?, ∀ e ∈ entries.dropLast, e.cycle = last.cycle →
    e.timestamp = last.timestamp → e.entryId < last.entryId

/-- Where cycles and times do not decrease and ties ascend, the latest strategy is the last. -/
theorem latestStrategy_of_tiesAscend {strategy : List (StrategyEntry Time)} {domain pattern : String}
    (hcycles : strategy.Pairwise fun e f => e.cycle ≤ f.cycle)
    (htimes : strategy.Pairwise fun e f => e.timestamp ≤ f.timestamp)
    (hties : TiesAscend (selected strategy domain pattern)) :
    latestStrategy strategy domain pattern = (selected strategy domain pattern).getLast? := by
  have hsorted := (pairwise_queryDomain strategy domain).filter fun e => e.pattern = pattern
  have hperm := perm_queryDomain strategy domain pattern
  rw [latestStrategy_eq_head]
  have hcycles := hcycles.filter fun e => e.domain = domain ∧ e.pattern = pattern
  have htimes := htimes.filter fun e => e.domain = domain ∧ e.pattern = pattern
  rw [← selected] at hcycles htimes
  rcases List.eq_nil_or_concat (selected strategy domain pattern) with hnil | ⟨before, last, hlog⟩
  · rw [hnil] at hperm ⊢
    rw [hperm.eq_nil]
    rfl
  · rw [List.concat_eq_append] at hlog
    rw [hlog] at hperm hcycles htimes hties ⊢
    rw [List.getLast?_concat]
    refine head_of_perm hsorted hperm fun e he => ?_
    rw [List.pairwise_append] at hcycles htimes
    have hcycle := hcycles.2.2 e he last (List.mem_singleton.mpr rfl)
    have htime := htimes.2.2 e he last (List.mem_singleton.mpr rfl)
    have htie := hties last (by simp) e (by simpa using he)
    rw [StrategyEntry.key, StrategyEntry.key, Prod.Lex.toLex_lt_toLex', Prod.Lex.toLex_lt_toLex']
    exact ⟨hcycle, fun hc => ⟨htime, htie hc⟩⟩

end Sorted

/-! ### Recorded entries -/

section Recorded

variable {Time : Type} {millis : Time → Int}

theorem recorded_snoc (calls : List (StrategyCall Time)) (call : StrategyCall Time) :
    recorded millis (calls ++ [call]) =
      recorded millis calls ++ [call.entry millis (recorded millis calls).length] := by
  rw [recorded, List.foldl_append]
  rfl

/-- Ids are in the order of their numbers, where these have equally many digits. -/
theorem strategyId_lt {t u : Time} {m n : Nat} (hmillis : millis t ≤ millis u)
    (hsign : 0 ≤ millis t)
    (htime : (intText (millis t)).length = (intText (millis u)).length) (h : m < n)
    (hcount : (natText m).length = (natText n).length) :
    strategyId millis t m < strategyId millis u n := by
  have hid : ∀ (t : Time) n, (strategyId millis t n).toList =
      "s_".toList ++ (intText (millis t) ++ "_".toList ++ natText n) := by
    intro t n
    simp [strategyId, String.toList_append]
  rw [String.lt_iff_toList_lt, hid, hid, List.append_assoc, List.append_assoc]
  refine List.append_left_lt ?_
  obtain ⟨a, ha⟩ := Int.eq_ofNat_of_zero_le hsign
  obtain ⟨b, hb⟩ := Int.eq_ofNat_of_zero_le (hsign.trans hmillis)
  rw [ha, hb] at hmillis htime ⊢
  rcases Nat.lt_or_ge a b with hlt | hge
  · exact append_lt_append (natText_lt hlt htime) htime _ _
  · obtain rfl : a = b := Nat.le_antisymm (Int.ofNat_le.mp hmillis) hge
    exact List.append_left_lt (List.append_left_lt (natText_lt h hcount))

@[simp] theorem recorded_length (calls : List (StrategyCall Time)) :
    (recorded millis calls).length = calls.length := by
  induction calls using List.reverseRecOn with
  | nil => rfl
  | append_singleton calls call ih => simp [recorded_snoc, ih]

/-- The entries are those of the calls, with their numbers. -/
theorem recorded_eq_zipIdx (calls : List (StrategyCall Time)) :
    recorded millis calls = calls.zipIdx.map fun c => c.1.entry millis c.2 := by
  induction calls using List.reverseRecOn with
  | nil => rfl
  | append_singleton calls call ih =>
      rw [recorded_snoc, recorded_length, ih, List.zipIdx_append, List.map_append]
      simp

/-- What does not depend on the ids is read off the calls. -/
theorem map_recorded {α : Type} {f : StrategyEntry Time → α} {g : StrategyCall Time → α}
    (hfg : ∀ call count, f (call.entry millis count) = g call)
    (calls : List (StrategyCall Time)) : (recorded millis calls).map f = calls.map g := by
  have hmap : calls.zipIdx.map (fun c => g c.1) = (calls.zipIdx.map Prod.fst).map g := by
    rw [List.map_map]
    rfl
  rw [recorded_eq_zipIdx, List.map_map, ← List.zipIdx_map_fst 0 calls, ← hmap, List.zipIdx_map_fst]
  exact List.map_congr_left fun c _ => hfg c.1 c.2

theorem tiesAscend_of_pairwise {entries : List (StrategyEntry Time)}
    (h : entries.Pairwise fun e f => e.cycle = f.cycle → e.timestamp = f.timestamp →
      e.entryId < f.entryId) : TiesAscend entries := by
  intro last hlast e he
  rw [← List.dropLast_append_getLast? last hlast, List.pairwise_append] at h
  exact h.2.2 e he last (List.mem_singleton.mpr rfl)

variable [LinearOrder Time] {calls : List (StrategyCall Time)}

/-- Neither the cycles of the calls nor the readings of the clock decrease. -/
structure NonDecreasing (calls : List (StrategyCall Time)) : Prop where
  cycles : calls.Pairwise fun c d => c.cycle ≤ d.cycle
  readings : (calls.flatMap fun c => [c.idTime, c.entryTime]).Pairwise (· ≤ ·)

theorem NonDecreasing.cycles_recorded (h : NonDecreasing calls) :
    (recorded millis calls).Pairwise fun e f => e.cycle ≤ f.cycle := by
  have hmap : (recorded millis calls).map (·.cycle) = calls.map (·.cycle) :=
    map_recorded (fun _ _ => rfl) calls
  rw [← List.pairwise_map (f := StrategyEntry.cycle) (R := (· ≤ ·)), hmap, List.pairwise_map]
  exact h.cycles

theorem NonDecreasing.times_recorded (h : NonDecreasing calls) :
    (recorded millis calls).Pairwise fun e f => e.timestamp ≤ f.timestamp := by
  have hmap : (recorded millis calls).map (·.timestamp) = calls.map (·.entryTime) :=
    map_recorded (fun _ _ => rfl) calls
  rw [← List.pairwise_map (f := StrategyEntry.timestamp) (R := (· ≤ ·)), hmap, List.pairwise_map]
  have hreadings := (List.pairwise_flatMap.mp h.readings).2
  exact hreadings.imp fun hcd => hcd _ (by simp) _ (by simp)

/-- **What was recorded last decides**, where ties ascend: it is the latest strategy, and blocks a
pattern that has a name exactly if it was a failure. -/
theorem latestStrategy_eq_last (hcalls : NonDecreasing calls) (domain pattern : String)
    (hties : TiesAscend (selected (recorded millis calls) domain pattern)) :
    latestStrategy (recorded millis calls) domain pattern =
        (selected (recorded millis calls) domain pattern).getLast? ∧
      (isStrategyBlocked (recorded millis calls) domain pattern = true ↔ pattern ≠ "" ∧
        ∃ last, (selected (recorded millis calls) domain pattern).getLast? = some last ∧
          last.outcome = "failure") := by
  have hlatest :=
    latestStrategy_of_tiesAscend hcalls.cycles_recorded hcalls.times_recorded hties
  refine ⟨hlatest, ?_⟩
  rw [isStrategyBlocked, hlatest]
  by_cases hpattern : pattern = ""
  · simp [hpattern]
  · rw [if_neg hpattern, and_iff_right hpattern]
    cases (selected (recorded millis calls) domain pattern).getLast? with
    | none => simp
    | some last => simp

/-! ### Ties -/

/-- Of two calls of one cycle and one time, the numbers in the ids have equally many digits. -/
def EquallyWide (millis : Time → Int) (calls : List (StrategyCall Time)) : Prop :=
  calls.zipIdx.Pairwise fun c d => c.1.cycle = d.1.cycle → c.1.entryTime = d.1.entryTime →
    0 ≤ millis c.1.idTime ∧
      (intText (millis c.1.idTime)).length = (intText (millis d.1.idTime)).length ∧
      (natText c.2).length = (natText d.2).length

/-- **Ties ascend while the numbers in the ids keep their widths.** -/
theorem tiesAscend_of_equallyWide (hmono : ∀ s t, s ≤ t → millis s ≤ millis t)
    (hcalls : NonDecreasing calls) (hwide : EquallyWide millis calls) (domain pattern : String) :
    TiesAscend (selected (recorded millis calls) domain pattern) := by
  have hreadings : calls.zipIdx.Pairwise fun c d => c.1.idTime ≤ d.1.idTime := by
    have hfst : (calls.zipIdx.map Prod.fst).Pairwise fun c d => c.idTime ≤ d.idTime := by
      rw [List.zipIdx_map_fst]
      exact (List.pairwise_flatMap.mp hcalls.readings).2.imp fun hcd => hcd _ (by simp) _ (by simp)
    rwa [List.pairwise_map] at hfst
  have hcounts : calls.zipIdx.Pairwise fun c d => c.2 < d.2 := by
    have hsnd : (calls.zipIdx.map Prod.snd).Pairwise (· < ·) := by
      rw [List.zipIdx_map_snd]
      exact List.pairwise_lt_range'
    rwa [List.pairwise_map] at hsnd
  have hids : (recorded millis calls).Pairwise fun e f => e.cycle = f.cycle →
      e.timestamp = f.timestamp → e.entryId < f.entryId := by
    rw [recorded_eq_zipIdx, List.pairwise_map]
    refine (hwide.and (hreadings.and hcounts)).imp fun ⟨hwidths, hreading, hcount⟩ hcycle htime => ?_
    obtain ⟨hsign, hmillis, hnumber⟩ := hwidths hcycle htime
    exact strategyId_lt (hmono _ _ hreading) hsign hmillis hcount hnumber
  exact tiesAscend_of_pairwise (hids.filter _)

/-- A call with the given pattern and outcome. -/
def sampleCall (pattern outcome : String) (time : Nat) : StrategyCall Nat where
  domain := "security"
  outcome := outcome
  pattern := pattern
  detail := ""
  cycle := 1
  agentId := "security_audit"
  tags := []
  idTime := time
  entryTime := time

/-- **A failure without a pattern was recorded last, and does not block.** -/
theorem nameless_failure_does_not_block :
    NonDecreasing [sampleCall "" "failure" 1000] ∧
      (selected (recorded Int.ofNat [sampleCall "" "failure" 1000]) "security" "").getLast?.map
          (·.outcome) = some "failure" ∧
      isStrategyBlocked (recorded Int.ofNat [sampleCall "" "failure" 1000]) "security" "" =
        false := by
  refine ⟨⟨by simp, by simp [sampleCall]⟩, ?_, ?_⟩
  · decide
  · decide

/-- Two calls of one cycle and one time. -/
def tiedCalls : List (StrategyCall Nat) :=
  [sampleCall "p" "success" 1000, sampleCall "p" "failure" 1000]

/-- The second one counts. -/
theorem latestStrategy_eq_last_sample :
    latestStrategy (recorded Int.ofNat tiedCalls) "security" "p" =
        (selected (recorded Int.ofNat tiedCalls) "security" "p").getLast? ∧
      (isStrategyBlocked (recorded Int.ofNat tiedCalls) "security" "p" = true ↔
        "p" ≠ "" ∧ ∃ last, (selected (recorded Int.ofNat tiedCalls) "security" "p").getLast? =
          some last ∧ last.outcome = "failure") := by
  have hcalls : NonDecreasing tiedCalls :=
    ⟨by simp [tiedCalls, sampleCall], by simp [tiedCalls, sampleCall]⟩
  exact latestStrategy_eq_last hcalls "security" "p" (tiesAscend_of_pairwise (by decide))

end Recorded

end Vrl.Memory

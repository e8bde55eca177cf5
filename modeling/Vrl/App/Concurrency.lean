import Vrl.App.Atomicity
import Vrl.App.EvidenceLog

/-!
# Vrl.App.Concurrency

Any number of calls of `calculate_and_persist` on one database.

`System.step` lets one call take one step. `System.Permits` says which answers the
database may give it: the lock of a chain is granted to one transaction at a time, a
query sees what is committed and what its own transaction has written, the rows of
a table have different keys, and identifiers increase. Errors are always permitted.

`System.Coherent` ties each call to what is committed, and is kept by every step.
Seen from the database alone, a step is one append of the evidence log, or nothing
(**`System.append_of_step`**).
-/

open HashChain Runs

namespace Vrl

variable (std : PyStd) {ι : Type} (calls : ι → Computed)

/-! ### The system -/

/-- The calls, the committed rows, the next value of the identifier sequence, and who has
which lock. -/
structure System (ι : Type) where
  sessions : ι → Session
  db : Db
  nextId : Int
  lockHolder : Int → Option ι

namespace System

/-- All calls at their beginning, on an empty database. -/
def init : System ι where
  sessions _ := .init
  db := {}
  nextId := 1
  lockHolder _ := none

variable (sys : System ι)

/-- The statement that a call sends next. -/
def statement (i : ι) : Option Statement := (sys.sessions i).loc.statement (calls i)

/-- No committed or pending row has the keys of the request. -/
def Unique (request : RequestRecord) : Prop :=
  ∀ r, (r ∈ sys.db.requests ∨ ∃ j, Row.request r ∈ (sys.sessions j).pending) →
    r.id ≠ request.id ∧ r.inputHash ≠ request.inputHash

/-- The answer is one that the database may give. -/
def Permits (i : ι) (answer : Answer) : Prop :=
  answer.raised = none →
    match sys.statement calls i with
    | some (.acquireAuditChainLock key) => ∀ j, sys.lockHolder key = some j → j = i
    | some (.fetchLatestAuditHash chainId) =>
        answer.head = (sys.db.insertRows (sys.sessions i).pending).latestAuditHash chainId
    | some (.checkDuplicate inputHash) =>
        answer.duplicate = (sys.db.insertRows (sys.sessions i).pending).hasInputHash inputHash
    | some (.insertRecordsBatch request _ _) => sys.Unique request
    | some (.insertAuditEvent _) => sys.nextId ≤ answer.auditId
    | _ => True

/-! ### What a call commits -/

/-- The transaction of a call is at a stage. -/
def At (i : ι) (stage : Stage) : Prop := ∃ task, (sys.sessions i).loc = .inTx task stage

section Commits

variable {sys}

theorem at_unique {i : ι} {stage stage' : Stage} (h : sys.At i stage) (h' : sys.At i stage') :
    stage = stage' := by
  obtain ⟨task, heq⟩ := h
  obtain ⟨task', heq'⟩ := h'
  rw [heq] at heq'
  cases heq'
  rfl

/-- What a step commits: nothing, or an event of the call with the records that go with
it. -/
theorem rows_cases {i : ι} (hcons : (sys.sessions i).Consistent std (calls i)) (answer : Answer) :
    ((sys.sessions i).step std (calls i) answer).2 = [] ∨
      ∃ kind inserted, sys.At i (.commit kind inserted) ∧
        IsEvent std (calls i) kind inserted ∧
        ((sys.sessions i).step std (calls i) answer).2 = (sys.sessions i).pending ∧
        (sys.sessions i).pending = (calls i).evidenceRows kind ++ [.audit inserted] := by
  by_cases hrows : ((sys.sessions i).step std (calls i) answer).2 = []
  · exact .inl hrows
  · obtain ⟨⟨task, kind, inserted, hloc⟩, -, heq⟩ := Session.step_rows std (calls i) hrows
    rw [Session.Consistent, hloc] at hcons
    obtain ⟨-, hpending, hevent, -⟩ := hcons
    exact .inr ⟨kind, inserted, ⟨task, hloc⟩, hevent, heq, hpending⟩

/-- A transaction that goes on commits nothing. -/
theorem rows_of_advances {i : ι} {answer : Answer} {stage stage' : Stage} (hat : sys.At i stage)
    (hadv : Advances answer stage stage') :
    ((sys.sessions i).step std (calls i) answer).2 = [] := by
  by_contra hrows
  obtain ⟨⟨task, kind, inserted, hloc⟩, -⟩ := Session.step_rows std (calls i) hrows
  obtain rfl := at_unique hat ⟨task, hloc⟩
  have hpos : 0 < stage'.rank := by cases stage' <;> simp [Stage.rank]
  have hlt := hadv.rank
  simp only [Stage.rank] at hlt hpos
  omega

theorem auditLog_insertRows (db : Db) (c : Computed) (kind : EventKind)
    (record : AuditEventRecord) :
    (db.insertRows (c.evidenceRows kind ++ [.audit record])).auditLog = db.auditLog ++ [record] := by
  cases kind <;> rfl

theorem holdsLock_of_builtOn {stage : Stage} {prevHash : String}
    (h : stage.builtOn = some prevHash) : stage.HoldsLock := by
  cases stage <;> trivial

end Commits

/-! ### Steps -/

variable [DecidableEq ι]

/-- The locks without those of a call. -/
def releaseAll (i : ι) (key : Int) : Option ι :=
  if sys.lockHolder key = some i then none else sys.lockHolder key

/-- Who has which lock after the answer: a transaction keeps its lock up to its end, and an
error aborts it. -/
def lockHolderAfter (i : ι) (answer : Answer) (key : Int) : Option ι :=
  match sys.statement calls i, answer.raised with
  | _, some _ => sys.releaseAll i key
  | some .commit, none | some .rollback, none => sys.releaseAll i key
  | some (.acquireAuditChainLock key'), none => if key = key' then some i else sys.lockHolder key
  | _, none => sys.lockHolder key

/-- The next identifier after the answer. -/
def nextIdAfter (i : ι) (answer : Answer) : Int :=
  match sys.statement calls i, answer.raised with
  | some (.insertAuditEvent _), none => answer.auditId + 1
  | _, _ => sys.nextId

/-- One call gets one answer. -/
def step (i : ι) (answer : Answer) : System ι where
  sessions := Function.update sys.sessions i ((sys.sessions i).step std (calls i) answer).1
  db := sys.db.insertRows ((sys.sessions i).step std (calls i) answer).2
  nextId := sys.nextIdAfter calls i answer
  lockHolder := sys.lockHolderAfter calls i answer

/-- Some call gets an answer that the database may give. -/
def Step (sys sys' : System ι) : Prop :=
  ∃ i answer, sys.Permits calls i answer ∧ sys' = sys.step std calls i answer

/-- The states that some interleaving of the calls leads to. -/
def Reachable : System ι → Prop := Relation.ReflTransGen (Step std calls) init

/-! ### What ties the calls to the database -/

/-- What holds of the calls side by side. -/
structure Coherent : Prop where
  consistent : ∀ i, (sys.sessions i).Consistent std (calls i)
  sound : sys.db.Sound std
  locked : ∀ i stage, sys.At i stage → stage.HoldsLock →
    sys.lockHolder (chainIdToLockKey (calls i).chainId) = some i
  built : ∀ i stage prevHash, sys.At i stage → stage.builtOn = some prevHash →
    prevHash = endHash zeroHash (sys.db.chain (calls i).chainId)
  below : ∀ r ∈ sys.db.auditLog, r.rowId < sys.nextId
  numbered : ∀ i kind inserted, sys.At i (.commit kind inserted) →
    inserted.rowId < sys.nextId ∧
      ∀ r ∈ sys.db.chain (calls i).chainId, r.rowId < inserted.rowId
  fresh : ∀ i r, Row.request r ∈ (sys.sessions i).pending → IsFresh sys.db r ∧
    ∀ j ≠ i, ∀ q, Row.request q ∈ (sys.sessions j).pending →
      q.id ≠ r.id ∧ q.inputHash ≠ r.inputHash

/-! ### One step, seen from each call -/

section Steps

variable {sys}

/-- The other calls stay where they are. -/
theorem at_of_ne {i j : ι} (hne : j ≠ i) {answer : Answer} {stage : Stage}
    (h : (sys.step std calls i answer).At j stage) : sys.At j stage := by
  obtain ⟨task, heq⟩ := h
  simp only [step, Function.update_of_ne hne] at heq
  exact ⟨task, heq⟩

/-- The call itself goes on in its transaction, or holds nothing. -/
theorem at_self {i : ι} (hcons : (sys.sessions i).Consistent std (calls i)) {answer : Answer}
    {stage' : Stage} (h : (sys.step std calls i answer).At i stage') :
    (∃ stage, sys.At i stage ∧ Advances answer stage stage') ∨
      (¬ stage'.HoldsLock ∧ stage'.builtOn = none) := by
  obtain ⟨task', heq⟩ := h
  simp only [step, Function.update_self, Session.step_loc] at heq
  cases hloc : (sys.sessions i).loc with
  | returned evidence =>
      rw [hloc] at heq
      cases heq
  | raised exc =>
      rw [hloc] at heq
      cases heq
  | inTx task stage =>
      have htask : task.InRange := by
        rw [Session.Consistent, hloc] at hcons
        exact hcons.1
      rw [hloc] at heq
      obtain hadv | ⟨exc, rfl⟩ | rfl :=
        inTx_of_moves (calls i) htask (step_moves std (calls i) answer task stage) heq
      · exact .inl ⟨stage, ⟨task, hloc⟩, hadv⟩
      · exact .inr ⟨fun h => h, rfl⟩
      · exact .inr ⟨fun h => h, rfl⟩

/-- The lock holders that a step leaves alone: those of other calls. -/
theorem lockHolder_of_ne {i j : ι} (hne : j ≠ i) {answer : Answer}
    (hperm : sys.Permits calls i answer) {key : Int} (h : sys.lockHolder key = some j) :
    (sys.step std calls i answer).lockHolder key = some j := by
  have hrelease : sys.releaseAll i key = some j := by
    rw [releaseAll, if_neg, h]
    rw [h]
    exact fun heq => hne (Option.some.inj heq)
  simp only [step, lockHolderAfter]
  split
  · exact hrelease
  · exact hrelease
  · exact hrelease
  · next key' hstatement hok =>
      by_cases hkey : key = key'
      · subst hkey
        have hmine := hperm hok
        rw [hstatement] at hmine
        exact absurd (hmine j h) hne
      · rw [if_neg hkey]
        exact h
  · exact h

/-- Identifiers only grow. -/
theorem nextId_le {i : ι} {answer : Answer} (hperm : sys.Permits calls i answer) :
    sys.nextId ≤ (sys.step std calls i answer).nextId := by
  simp only [step, nextIdAfter]
  split
  · next hstatement hok =>
      have hle := hperm hok
      rw [hstatement] at hle
      dsimp only at hle
      omega
  · exact Int.le_refl _

/-- A transaction that goes on has the lock it needs. -/
theorem lockHolder_self {i : ι} {answer : Answer} {stage stage' : Stage} (hat : sys.At i stage)
    (hadv : Advances answer stage stage') (hlock : stage'.HoldsLock)
    (hheld : stage.HoldsLock → sys.lockHolder (chainIdToLockKey (calls i).chainId) = some i) :
    (sys.step std calls i answer).lockHolder (chainIdToLockKey (calls i).chainId) = some i := by
  obtain ⟨task, hloc⟩ := hat
  simp only [step, lockHolderAfter, statement, hloc, hadv.ok]
  obtain rfl | hstage := hadv.locked hlock
  · simp [Loc.statement]
  · have hrank := hadv.rank
    have hpos : 0 < stage'.rank := by cases stage' <;> simp [Stage.rank]
    have hkeep := hheld hstage
    cases stage with
    | commit kind inserted =>
        simp only [Stage.rank] at hrank hpos
        omega
    | start => exact absurd hstage (fun h => h)
    | acquireLock => exact absurd hstage (fun h => h)
    | rollback exc => exact absurd hstage (fun h => h)
    | _ => exact hkeep

/-- A transaction that goes on leaves the database alone. -/
theorem db_of_advances {i : ι} {answer : Answer} {stage stage' : Stage} (hat : sys.At i stage)
    (hadv : Advances answer stage stage') : (sys.step std calls i answer).db = sys.db := by
  rw [step, rows_of_advances std calls hat hadv]
  rfl

end Steps

/-! ### Every step is an append -/

section Coherence

variable {sys} (h : sys.Coherent std calls)
include h

omit [DecidableEq ι] in
/-- What a transaction is about to commit continues its chain. -/
theorem extends_of_commit {i : ι} {kind : EventKind} {inserted : AuditEventRecord}
    (hat : sys.At i (.commit kind inserted)) (hevent : IsEvent std (calls i) kind inserted) :
    Extends std sys.db inserted where
  prevHash := by
    rw [hevent.chainId]
    exact h.built i _ _ hat rfl
  isSealed := hevent.isSealed
  rowId := by
    rw [hevent.chainId]
    exact (h.numbered i kind inserted hat).2

/-- **A step appends one event to the log, with its records, or leaves the database as it
is.** -/
theorem append_of_step (i : ι) (answer : Answer) :
    (sys.step std calls i answer).db = sys.db ∨
      AppendStep std sys.db (sys.step std calls i answer).db := by
  obtain hnil | ⟨kind, inserted, hat, hevent, hrows, hpending⟩ :=
    rows_cases std calls (h.consistent i) answer
  · left
    rw [step, hnil]
    rfl
  · right
    have hext := extends_of_commit std calls h hat hevent
    rw [step, hrows, hpending]
    have htype : inserted.isPersisted = (kind.eventType == "calculation_persisted") := by
      rw [AuditEventRecord.isPersisted, hevent.eventType]
    cases kind with
    | persisted =>
        refine .evidence hext (htype.trans (by decide)) hevent.referenceId ?_
        refine (h.fresh i (calls i).request ?_).1
        rw [hpending]
        exact List.mem_append_left _ (List.mem_cons_self ..)
    | rejectedDuplicate => exact .event hext (htype.trans (by decide))
    | persistFailed => exact .event hext (htype.trans (by decide))

/-- A step of another call leaves the chain alone of which a call has the lock. -/
theorem chain_of_ne {i j : ι} (hne : j ≠ i) {stage : Stage} (hat : sys.At j stage)
    (hlock : stage.HoldsLock) (answer : Answer) :
    (sys.step std calls i answer).db.chain (calls j).chainId =
      sys.db.chain (calls j).chainId := by
  obtain hnil | ⟨kind, inserted, hati, hevent, hrows, hpending⟩ :=
    rows_cases std calls (h.consistent i) answer
  · rw [step, hnil]
    rfl
  · have hother : inserted.chainId ≠ (calls j).chainId := by
      intro heq
      have hj := h.locked j stage hat hlock
      have hi := h.locked i _ hati trivial
      rw [← hevent.chainId, heq, hj] at hi
      exact hne (Option.some.inj hi)
    have hlog : (sys.step std calls i answer).db.auditLog = sys.db.auditLog ++ [inserted] := by
      rw [step, hrows, hpending, auditLog_insertRows]
    rw [Db.chain_of_append hlog, if_neg hother]

/-- The locks are held as before, or by the one that has just got its lock. -/
theorem locked_step {i : ι} {answer : Answer} (hperm : sys.Permits calls i answer) (j : ι)
    (stage' : Stage) (hat' : (sys.step std calls i answer).At j stage')
    (hlock : stage'.HoldsLock) :
    (sys.step std calls i answer).lockHolder (chainIdToLockKey (calls j).chainId) = some j := by
  by_cases hne : j = i
  · subst hne
    obtain ⟨stage, hat, hadv⟩ | ⟨hnot, -⟩ := at_self std calls (h.consistent j) hat'
    · exact lockHolder_self std calls hat hadv hlock (h.locked j stage hat)
    · exact absurd hlock hnot
  · have hat := at_of_ne std calls hne hat'
    exact lockHolder_of_ne std calls hne hperm (h.locked j stage' hat hlock)

/-- What a transaction has read is the end of its chain, and stays so as long as it has
the lock. -/
theorem built_step {i : ι} {answer : Answer} (hperm : sys.Permits calls i answer) (j : ι)
    (stage' : Stage) (prevHash : String) (hat' : (sys.step std calls i answer).At j stage')
    (hbuilt : stage'.builtOn = some prevHash) :
    prevHash = endHash zeroHash ((sys.step std calls i answer).db.chain (calls j).chainId) := by
  by_cases hne : j = i
  · subst hne
    obtain ⟨stage, hat, hadv⟩ | ⟨-, hnone⟩ := at_self std calls (h.consistent j) hat'
    · rw [db_of_advances std calls hat hadv]
      obtain ⟨rfl, rfl⟩ | hstage := hadv.built prevHash hbuilt
      · obtain ⟨task, hloc⟩ := hat
        have hpending : (sys.sessions j).pending = [] := by
          have hcons := h.consistent j
          rw [Session.Consistent, hloc] at hcons
          exact hcons.2
        have hhead := hperm hadv.ok
        simp only [statement, hloc, Loc.statement, hpending] at hhead
        rw [hhead]
        exact Db.latestAuditHash_eq std h.sound _
      · exact h.built j stage prevHash hat hstage
    · rw [hnone] at hbuilt
      cases hbuilt
  · have hat := at_of_ne std calls hne hat'
    rw [chain_of_ne std calls h hne hat (holdsLock_of_builtOn hbuilt)]
    exact h.built j stage' prevHash hat hbuilt

/-- The identifiers of the committed events are used up. -/
theorem below_step {i : ι} {answer : Answer} (hperm : sys.Permits calls i answer) :
    ∀ r ∈ (sys.step std calls i answer).db.auditLog,
      r.rowId < (sys.step std calls i answer).nextId := by
  intro r hr
  have hle := nextId_le std calls hperm
  obtain hnil | ⟨kind, inserted, hat, -, hrows, hpending⟩ :=
    rows_cases std calls (h.consistent i) answer
  · rw [step, hnil] at hr
    have hlt := h.below r hr
    omega
  · rw [step, hrows, hpending, auditLog_insertRows] at hr
    obtain hr | hr := List.mem_append.mp hr
    · have hlt := h.below r hr
      omega
    · rw [List.mem_singleton.mp hr]
      have hlt := (h.numbered i kind inserted hat).1
      omega

/-- An event gets an identifier that comes after those of its chain. -/
theorem numbered_step {i : ι} {answer : Answer} (hperm : sys.Permits calls i answer) (j : ι)
    (kind : EventKind) (inserted : AuditEventRecord)
    (hat' : (sys.step std calls i answer).At j (.commit kind inserted)) :
    inserted.rowId < (sys.step std calls i answer).nextId ∧
      ∀ r ∈ (sys.step std calls i answer).db.chain (calls j).chainId,
        r.rowId < inserted.rowId := by
  by_cases hne : j = i
  · subst hne
    obtain ⟨stage, hat, hadv⟩ | ⟨hnot, -⟩ := at_self std calls (h.consistent j) hat'
    · obtain ⟨record, rfl, rfl⟩ := hadv.inserted kind inserted rfl
      rw [db_of_advances std calls hat hadv]
      obtain ⟨task, hloc⟩ := hat
      have hid := hperm hadv.ok
      simp only [statement, hloc, Loc.statement] at hid
      constructor
      · simp only [step, nextIdAfter, statement, hloc, Loc.statement, hadv.ok]
        show answer.auditId < answer.auditId + 1
        omega
      · intro r hr
        have hlt := h.below r (List.mem_of_mem_filter hr)
        show r.rowId < answer.auditId
        omega
    · exact absurd trivial hnot
  · have hat := at_of_ne std calls hne hat'
    obtain ⟨hlt, hafter⟩ := h.numbered j kind inserted hat
    rw [chain_of_ne std calls h hne hat trivial]
    have hle := nextId_le std calls hperm
    exact ⟨by omega, hafter⟩

/-- No two requests have a key in common that are committed or may still be. -/
theorem fresh_step {i : ι} {answer : Answer} (hperm : sys.Permits calls i answer) (j : ι)
    (r : RequestRecord) (hr : Row.request r ∈ ((sys.step std calls i answer).sessions j).pending) :
    IsFresh (sys.step std calls i answer).db r ∧
      ∀ k ≠ j, ∀ q, Row.request q ∈ ((sys.step std calls i answer).sessions k).pending →
        q.id ≠ r.id ∧ q.inputHash ≠ r.inputHash := by
  have hdb : ∀ {q}, q ∈ (sys.step std calls i answer).db.requests →
      q ∈ sys.db.requests ∨ Row.request q ∈ (sys.sessions i).pending := by
    intro q hq
    obtain hq | hq := Db.mem_requests_insertRows.mp hq
    · exact .inl hq
    · have hne := List.ne_nil_of_mem hq
      rw [(Session.step_rows std (calls i) hne).2.2] at hq
      exact .inr hq
  by_cases hji : j = i
  · subst hji
    simp only [step, Function.update_self] at hr
    obtain ⟨hmem, hnil⟩ | ⟨⟨task, prevHash, hloc⟩, hok, rfl⟩ :=
      Session.mem_pending_request std (calls j) hr
    · -- it was pending before
      obtain ⟨hfresh, hothers⟩ := h.fresh j r hmem
      refine ⟨?_, fun k hk q hq => ?_⟩
      · rw [step, hnil]
        exact hfresh
      · simp only [step, Function.update_of_ne hk] at hq
        exact hothers k hk q hq
    · -- it has just been inserted
      have hunique := hperm hok
      simp only [statement, hloc, Loc.statement] at hunique
      refine ⟨fun q hq => ?_, fun k hk q hq => ?_⟩
      · exact hunique q ((hdb hq).imp_right fun hq => ⟨j, hq⟩)
      · simp only [step, Function.update_of_ne hk] at hq
        exact hunique q (.inr ⟨k, hq⟩)
  · simp only [step, Function.update_of_ne hji] at hr
    -- another call took the step, which may have inserted or committed a request
    obtain ⟨hfresh, hothers⟩ := h.fresh j r hr
    refine ⟨fun q hq => ?_, fun k hk q hq => ?_⟩
    · obtain hq | hq := hdb hq
      · exact hfresh q hq
      · exact hothers i (Ne.symm hji) q hq
    · by_cases hki : k = i
      · subst hki
        simp only [step, Function.update_self] at hq
        obtain ⟨hmem, -⟩ | ⟨⟨task, prevHash, hloc⟩, hok, rfl⟩ :=
          Session.mem_pending_request std (calls k) hq
        · exact hothers k hk q hmem
        · have hunique := hperm hok
          simp only [statement, hloc, Loc.statement] at hunique
          have hclear := hunique r (.inr ⟨j, hr⟩)
          exact ⟨hclear.1.symm, hclear.2.symm⟩
      · simp only [step, Function.update_of_ne hki] at hq
        exact hothers k hk q hq

/-- **A permitted step keeps the calls coherent.** -/
theorem coherent_step {i : ι} {answer : Answer} (hperm : sys.Permits calls i answer) :
    (sys.step std calls i answer).Coherent std calls where
  consistent j := by
    by_cases hne : j = i
    · subst hne
      simp only [step, Function.update_self]
      exact Session.step_consistent std (calls j) (h.consistent j) answer
    · simp only [step, Function.update_of_ne hne]
      exact h.consistent j
  sound := by
    obtain heq | happend := append_of_step std calls h i answer
    · rw [heq]
      exact h.sound
    · exact Db.sound_of_append std h.sound happend
  locked := locked_step std calls h hperm
  built := built_step std calls h hperm
  below := below_step std calls h hperm
  numbered := numbered_step std calls h hperm
  fresh := fresh_step std calls h hperm

end Coherence

/-! ### Whole runs -/

section Reach

variable {sys : System ι}

omit [DecidableEq ι] in
theorem init_at {i : ι} {stage : Stage} (h : (init : System ι).At i stage) : stage = .start := by
  obtain ⟨task, heq⟩ := h
  cases heq
  rfl

omit [DecidableEq ι] in
theorem init_coherent : (init : System ι).Coherent std calls where
  consistent i := Session.init_consistent std (calls i)
  sound := Db.sound_empty std
  locked i stage hat hlock := by
    rw [init_at hat] at hlock
    exact absurd hlock (fun h => h)
  built i stage prevHash hat hbuilt := by
    rw [init_at hat] at hbuilt
    cases hbuilt
  below r hr := absurd hr List.not_mem_nil
  numbered i kind inserted hat := by
    cases init_at hat
  fresh i r hr := absurd hr List.not_mem_nil

/-- Every interleaving keeps the calls coherent. -/
theorem coherent_of_reachable (h : Reachable std calls sys) : sys.Coherent std calls := by
  refine invariant_of_reachable ?_ (init_coherent std calls) h
  rintro s s' hs ⟨i, answer, hperm, rfl⟩
  exact coherent_step std calls hs hperm

end Reach

/-! ### A call on its own -/

section Solo

variable (c : Computed)

/-- One call, after some answers without errors. -/
def soloAfter (n : Nat) : System Unit :=
  run (fun sys answer => sys.step std (fun _ => c) () answer) init (fun _ => { auditId := 1 }) n

variable {c} (htime : ∃ s, utcIsoformat c.request.createdAt = .ok s)
  (hrecord : ∀ inserted, c.buildVerifiedTrainingRecord inserted = .ok ())
include htime hrecord

omit hrecord in
theorem solo_event : ∃ record, c.persistedEvent std zeroHash = .ok record ∧
    IsEvent std c .persisted { record with id := some 1 } := by
  obtain ⟨record, hevent⟩ := persistedEvent_ok std c htime zeroHash
  exact ⟨record, hevent, (isEvent_persistedEvent std c hevent).1.with_id std c (some 1)⟩

omit htime hrecord in
theorem solo_insertRecords :
    (soloAfter std c 4).sessions () = ⟨.inTx (.attempt 1) (.insertRecords zeroHash), []⟩ := rfl

omit htime hrecord in
/-- No event has been inserted yet. -/
theorem solo_nextId : (soloAfter std c 5).nextId = 1 := by
  have hfour : (soloAfter std c 4).nextId = 1 := rfl
  have hstatement : (soloAfter std c 4).statement (fun _ => c) () =
      some (.insertRecordsBatch c.request c.result c.proof) := by
    rw [statement, solo_insertRecords]
    rfl
  show (soloAfter std c 4).nextIdAfter (fun _ => c) () { auditId := 1 } = 1
  rw [nextIdAfter, hstatement]
  exact hfour

/-- The call after each of its last two inserts, and at its end. -/
theorem solo_sessions : ∃ record : AuditEventRecord,
    (soloAfter std c 5).sessions () =
      ⟨.inTx (.attempt 1) (.insertEvent .persisted record), c.evidenceRows .persisted⟩ ∧
    (soloAfter std c 6).sessions () =
      ⟨.inTx (.attempt 1) (.commit .persisted { record with id := some 1 }),
        c.evidenceRows .persisted ++ [.audit { record with id := some 1 }]⟩ ∧
    ((soloAfter std c 7).sessions ()).loc =
      .returned ⟨c.request, c.result, c.proof, some { record with id := some 1 }⟩ := by
  obtain ⟨record, hevent, hisEvent⟩ := solo_event std htime
  have hcheck := checkPersisted_of_isEvent std c hisEvent (hrecord _)
  have hnext : ∀ n, (soloAfter std c (n + 1)).sessions () =
      (Session.step std c { auditId := 1 } ((soloAfter std c n).sessions ())).1 :=
    fun _ => rfl
  have hfive : (soloAfter std c 5).sessions () =
      ⟨.inTx (.attempt 1) (.insertEvent .persisted record), c.evidenceRows .persisted⟩ := by
    rw [hnext, solo_insertRecords]
    simp only [Session.step, Loc.statement, Vrl.step, hevent, thenInsert]
    rfl
  have hsix : (soloAfter std c 6).sessions () =
      ⟨.inTx (.attempt 1) (.commit .persisted { record with id := some 1 }),
        c.evidenceRows .persisted ++ [.audit { record with id := some 1 }]⟩ := by
    rw [hnext, hfive]
    simp only [Session.step, Loc.statement, Vrl.step, afterInsert, hcheck]
    rfl
  refine ⟨record, hfive, hsix, ?_⟩
  rw [hnext, hsix]
  rfl

theorem solo_permits {n : Nat} (h : n < 7) :
    (soloAfter std c n).Permits (fun _ => c) () { auditId := 1 } := by
  obtain ⟨record, hfive, hsix, -⟩ := solo_sessions std htime hrecord
  intro _
  match n, h with
  | 0, _ => trivial
  | 1, _ => exact fun _ _ => rfl
  | 2, _ => rfl
  | 3, _ => rfl
  | 4, _ =>
      rintro r (hr | ⟨⟨⟩, hr⟩)
      · exact absurd hr List.not_mem_nil
      · exact absurd hr List.not_mem_nil
  | 5, _ =>
      rw [statement, hfive]
      show (soloAfter std c 5).nextId ≤ 1
      rw [solo_nextId]
  | 6, _ =>
      rw [statement, hsix]
      trivial

theorem solo_reachable {n : Nat} (h : n ≤ 7) : Reachable std (fun _ => c) (soloAfter std c n) := by
  induction n with
  | zero => exact .refl
  | succ n ih =>
      refine (ih (by omega)).tail ⟨(), { auditId := 1 }, solo_permits std htime hrecord h, rfl⟩

end Solo

section Sample

/-- One call of `sampleComputed`, after some answers without errors. -/
def sampleAfter (n : Nat) : System Unit :=
  run (fun sys answer => sys.step lengthStd (fun _ => sampleComputed) () answer) init
    (fun _ => { auditId := 1 }) n

end Sample

end System

end Vrl

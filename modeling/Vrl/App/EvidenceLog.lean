import Mathlib.Data.List.Sort
import Vrl.App.Repository
import Vrl.Lib.Runs

/-!
# Vrl.App.EvidenceLog

What the evidence database is for: a log to which events are appended one at a
time, each on top of its chain, and records that come with an event of their own.

`AppendStep` is that purpose as a step relation, without transactions, locks or
errors. `Db.Sound` holds of every database such steps lead to, and says all that is
claimed of the stored evidence: that every chain verifies, that no input is
recorded twice, and that every record has its event.
-/

open HashChain Runs

namespace Vrl

variable (std : PyStd)

/-! ### Tables and queries -/

/-- The committed rows of the four tables, in the order of their commits. -/
structure Db where
  requests : List RequestRecord := []
  results : List ResultRecord := []
  proofs : List ProofRecord := []
  auditLog : List AuditEventRecord := []

namespace Db

variable (db : Db)

/-- The database with one more row. -/
def insertRow : Row → Db
  | .request r => { db with requests := db.requests ++ [r] }
  | .result r => { db with results := db.results ++ [r] }
  | .proof r => { db with proofs := db.proofs ++ [r] }
  | .audit r => { db with auditLog := db.auditLog ++ [r] }

/-- The database with some more rows. -/
def insertRows (rows : List Row) : Db := rows.foldl insertRow db

/-- The rows of one chain. -/
def chain (chainId : Int) : List AuditEventRecord :=
  db.auditLog.filter fun r => r.chainId == chainId

end Db

/-- The identifier of a row, which the database gives to each. -/
def AuditEventRecord.rowId (r : AuditEventRecord) : Int := r.id.getD 0

namespace Db

variable (db : Db)

/-- The rows of one chain, ordered by identifier. -/
def chainById (chainId : Int) : List AuditEventRecord :=
  (db.chain chainId).insertionSort fun r s => r.rowId ≤ s.rowId

/-- `FETCH_LATEST_AUDIT_HASH_FOR_CHAIN_SQL`. -/
def latestAuditHash (chainId : Int) : Option String :=
  (db.chainById chainId).getLast?.map (·.currentHash)

/-- `CHECK_DUPLICATE_SQL`. -/
def hasInputHash (inputHash : String) : Bool := db.requests.any fun r => r.inputHash == inputHash

/-- `FETCH_AUDIT_CHAIN_SQL`: all rows, ordered by chain and identifier. -/
def fetchAuditChain : List AuditEventRecord :=
  db.auditLog.insertionSort fun r s =>
    r.chainId < s.chainId ∨ r.chainId = s.chainId ∧ r.rowId ≤ s.rowId

/-- The requests with an input hash. -/
def requestsFor (inputHash : String) : List RequestRecord :=
  db.requests.filter fun r => r.inputHash == inputHash

/-- The latest event that refers to a request. -/
def latestEventOf (requestId : Uuid) : Option AuditEventRecord :=
  ((db.auditLog.filter fun r => r.referenceId == some requestId).insertionSort
    fun r s => r.rowId ≤ s.rowId).getLast?

/-- The rows of `FETCH_BUNDLE_SQL`: each request with an input hash, joined with its results and
its proofs. -/
def bundleRows (inputHash : String) : List PersistedEvidenceBundle :=
  (db.requestsFor inputHash).flatMap fun r =>
    (db.results.filter fun s => s.requestId == r.id).flatMap fun s =>
      (db.proofs.filter fun p => p.requestId == r.id).map fun p =>
        ⟨r, s, p, db.latestEventOf r.id⟩

/-- `fetch_by_input_hash`. -/
def fetchByInputHash (inputHash : String) : Option PersistedEvidenceBundle :=
  (db.bundleRows inputHash).head?

end Db

/-- `calculation_persisted` events. -/
def AuditEventRecord.isPersisted (r : AuditEventRecord) : Bool :=
  r.eventType == "calculation_persisted"

/-- The row is in its table. -/
def Db.Has (db : Db) : Row → Prop
  | .request r => r ∈ db.requests
  | .result r => r ∈ db.results
  | .proof r => r ∈ db.proofs
  | .audit r => r ∈ db.auditLog

/-- After an insertion the tables have the new rows in addition. -/
theorem Db.has_insertRows {db : Db} {rows : List Row} {row : Row} :
    (db.insertRows rows).Has row ↔ db.Has row ∨ row ∈ rows := by
  induction rows generalizing db with
  | nil => simp [insertRows]
  | cons r rows ih =>
      rw [insertRows, List.foldl_cons, ← insertRows, ih]
      cases r <;> cases row <;> simp [insertRow, Has, or_assoc]

theorem Db.mem_requests_insertRows {db : Db} {rows : List Row} {r : RequestRecord} :
    r ∈ (db.insertRows rows).requests ↔ r ∈ db.requests ∨ Row.request r ∈ rows :=
  @has_insertRows db rows (.request r)

/-! ### Appending -/

/-- The event continues its chain: it is built on the chain's last hash, and its
identifier comes after those before it. -/
structure Extends (db : Db) (record : AuditEventRecord) : Prop where
  prevHash : record.prevHash = endHash zeroHash (db.chain record.chainId)
  isSealed : record.IsSealed std
  rowId : ∀ r ∈ db.chain record.chainId, r.rowId < record.rowId

/-- The request is not there yet. -/
def IsFresh (db : Db) (request : RequestRecord) : Prop :=
  ∀ r ∈ db.requests, r.id ≠ request.id ∧ r.inputHash ≠ request.inputHash

/-- One event is appended, with the records it is about when it says that they were
persisted. -/
inductive AppendStep (db : Db) : Db → Prop where
  | event {record : AuditEventRecord} (hext : Extends std db record)
      (hkind : record.isPersisted = false) : AppendStep db (db.insertRows [.audit record])
  | evidence {request : RequestRecord} {result : ResultRecord} {proof : ProofRecord}
      {record : AuditEventRecord} (hext : Extends std db record)
      (hkind : record.isPersisted = true) (href : record.referenceId = some request.id)
      (hfresh : IsFresh db request) :
      AppendStep db (db.insertRows (batchRows request result proof ++ [.audit record]))

/-! ### What holds of the stored evidence -/

/-- The chains verify, their identifiers increase, no request is stored twice, and
results, proofs and persisted events go with the requests one by one. -/
structure Db.Sound (db : Db) : Prop where
  isChain : ∀ chainId, IsChain std zeroHash (db.chain chainId)
  ordered : ∀ chainId, (db.chain chainId).Pairwise fun r s => r.rowId < s.rowId
  ids : (db.requests.map (·.id)).Nodup
  inputHashes : (db.requests.map (·.inputHash)).Nodup
  results : db.results.map (·.requestId) = db.requests.map (·.id)
  proofs : db.proofs.map (·.requestId) = db.requests.map (·.id)
  events : (db.auditLog.filter (·.isPersisted)).map (·.referenceId) =
    db.requests.map fun r => some r.id

theorem Db.sound_empty : Db.Sound std {} :=
  ⟨fun _ => linked_nil .., fun _ => .nil, .nil, .nil, rfl, rfl, rfl⟩

section Append

variable {db db' : Db}

/-- Appending an event appends it to its chain and leaves the others alone. -/
theorem Db.chain_of_append {record : AuditEventRecord}
    (hlog : db'.auditLog = db.auditLog ++ [record]) (chainId : Int) :
    db'.chain chainId =
      if record.chainId = chainId then db.chain chainId ++ [record] else db.chain chainId := by
  rw [chain, hlog, List.filter_append]
  by_cases hc : record.chainId = chainId
  · rw [if_pos hc, List.filter_cons_of_pos (by simp [hc]), List.filter_nil]
    rfl
  · rw [if_neg hc, List.filter_cons_of_neg (by simp [hc]), List.filter_nil, List.append_nil]
    rfl

/-- An event on top of its chain keeps the chains. -/
theorem Db.isChain_of_extends {record : AuditEventRecord} (hs : db.Sound std)
    (hext : Extends std db record) (hlog : db'.auditLog = db.auditLog ++ [record])
    (chainId : Int) : IsChain std zeroHash (db'.chain chainId) := by
  rw [chain_of_append hlog]
  by_cases hc : record.chainId = chainId
  · subst hc
    rw [if_pos rfl]
    exact (linked_concat ..).mpr ⟨hs.isChain _, hext.prevHash, hext.isSealed⟩
  · rw [if_neg hc]
    exact hs.isChain chainId

/-- An event with a later identifier keeps the chains ordered. -/
theorem Db.ordered_of_extends {record : AuditEventRecord} (hs : db.Sound std)
    (hext : Extends std db record) (hlog : db'.auditLog = db.auditLog ++ [record])
    (chainId : Int) : (db'.chain chainId).Pairwise fun r s => r.rowId < s.rowId := by
  rw [chain_of_append hlog]
  by_cases hc : record.chainId = chainId
  · subst hc
    rw [if_pos rfl, List.pairwise_append]
    refine ⟨hs.ordered _, List.pairwise_singleton .., fun r hr s hmem => ?_⟩
    rw [List.mem_singleton.mp hmem]
    exact hext.rowId r hr
  · rw [if_neg hc]
    exact hs.ordered chainId

/-- **Appending keeps the evidence sound.** -/
theorem Db.sound_of_append (hs : db.Sound std) (h : AppendStep std db db') : db'.Sound std := by
  cases h with
  | @event record hext hkind =>
      refine ⟨isChain_of_extends std hs hext rfl, ordered_of_extends std hs hext rfl, hs.ids,
        hs.inputHashes, hs.results, hs.proofs, ?_⟩
      simp only [insertRows, List.foldl_cons, List.foldl_nil, insertRow, List.filter_append,
        List.filter_cons, hkind, Bool.false_eq_true, if_false, List.filter_nil, List.append_nil]
      exact hs.events
  | @evidence request result proof record hext hkind href hfresh =>
      have hids : request.id ∉ db.requests.map (·.id) := by
        intro hmem
        obtain ⟨r, hr, heq⟩ := List.mem_map.mp hmem
        exact (hfresh r hr).1 heq
      have hhashes : request.inputHash ∉ db.requests.map (·.inputHash) := by
        intro hmem
        obtain ⟨r, hr, heq⟩ := List.mem_map.mp hmem
        exact (hfresh r hr).2 heq
      refine ⟨isChain_of_extends std hs hext rfl, ordered_of_extends std hs hext rfl, ?_, ?_, ?_, ?_,
        ?_⟩
      all_goals
        simp only [insertRows, batchRows, List.cons_append, List.nil_append, List.foldl_cons,
          List.foldl_nil, insertRow, List.map_append, List.map_cons, List.map_nil,
          List.filter_append, List.filter_cons, hkind, if_true, List.filter_nil]
      · rw [← List.concat_eq_append]
        exact hs.ids.concat hids
      · rw [← List.concat_eq_append]
        exact hs.inputHashes.concat hhashes
      · rw [hs.results]
      · rw [hs.proofs]
      · rw [hs.events, href]

end Append

/-! ### Reading it back -/

/-- The number of elements with a value is the number of times the value is taken. -/
theorem length_filter_eq_count {α β : Type} [BEq β] (f : α → β) (l : List α) (b : β) :
    (l.filter fun a => f a == b).length = (l.map f).count b := by
  rw [List.count, List.countP_map, List.countP_eq_length_filter]
  rfl

theorem length_filter_le_one {α β : Type} [BEq β] [LawfulBEq β] {f : α → β} {l : List α}
    (h : (l.map f).Nodup) (b : β) : (l.filter fun a => f a == b).length ≤ 1 := by
  rw [length_filter_eq_count]
  exact List.nodup_iff_count_le_one.mp h b

/-- Sorting keeps what is sorted among the elements of a kind. -/
theorem filter_insertionSort {α : Type} {r : α → α → Prop} [DecidableRel r] {p : α → Bool}
    {l : List α} (h : (l.filter p).Pairwise r) : (l.insertionSort r).filter p = l.filter p := by
  have hsub : (l.filter p).Sublist ((l.insertionSort r).filter p) := by
    have hfilter := (List.sublist_insertionSort h (List.filter_sublist (l := l))).filter p
    rwa [List.filter_filter, funext fun a => Bool.and_self (p a)] at hfilter
  have hlen := ((List.perm_insertionSort r l).filter p).length_eq
  exact (hsub.eq_of_length hlen.symm).symm

section Read

variable {db : Db}

/-- The rows of a sound chain come back in the order of their commits. -/
theorem Db.chainById_eq (hs : db.Sound std) (chainId : Int) :
    db.chainById chainId = db.chain chainId :=
  ((hs.ordered chainId).imp Int.le_of_lt).insertionSort_eq

/-- The latest hash of a sound chain is the one it ends with. -/
theorem Db.latestAuditHash_eq (hs : db.Sound std) (chainId : Int) :
    (db.latestAuditHash chainId).getD zeroHash = endHash zeroHash (db.chain chainId) := by
  rw [latestAuditHash, chainById_eq std hs, endHash, lastHash_eq_getLast?]

/-- All rows together come back chain by chain. -/
theorem Db.filter_fetchAuditChain (hs : db.Sound std) (chainId : Int) :
    (db.fetchAuditChain.filter fun r => r.chainId == chainId) = db.chain chainId := by
  refine filter_insertionSort ?_
  refine (hs.ordered chainId).imp_of_mem ?_
  intro r s hr hmem hlt
  have hchain : ∀ {t : AuditEventRecord}, t ∈ db.chain chainId → t.chainId = chainId := by
    intro t ht
    simpa using (List.mem_filter.mp ht).2
  exact Or.inr ⟨(hchain hr).trans (hchain hmem).symm, Int.le_of_lt hlt⟩

/-- The whole log verifies. -/
theorem Db.verifyAuditChain_fetched (hs : db.Sound std) :
    IsValid (verifyAuditChain std db.fetchAuditChain) := by
  refine isValid_verifyAuditChain std fun chainId => ?_
  rw [filter_fetchAuditChain std hs]
  exact hs.isChain chainId

end Read

end Vrl

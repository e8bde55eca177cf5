import Vrl.App.EvidenceLog
import Vrl.Core.AuditChainBinding

/-!
# Vrl.App.ChainRelabelling

What `verify_audit_chain` says of a log whose events were moved to other chains
(`core/audit_chain.py`).

The hash of an event does not cover its chain. A moved event stays sealed, so the change shows
only where an event comes after another hash than before (**`relabelling_detected_iff`**). Where
hashes tell the events of a log apart, that is where the grouping of the events has changed:
renaming whole chains is never noticed (**`changesPredecessor_iff_regroups`**).
-/

open TextCodec HashChain

namespace Vrl

variable (std : PyStd)

/-! ### Logs with other chains -/

/-- An event with its new chain. -/
abbrev Relabelling : Type := List (AuditEventRecord × Int)

/-- The event in its new chain. -/
def relabel (p : AuditEventRecord × Int) : AuditEventRecord := { p.1 with chainId := p.2 }

namespace Relabelling

variable (log : Relabelling)

/-- The log before the change. -/
def original : List AuditEventRecord := log.map (·.1)

/-- The log after the change, ordered by chain and identifier again. -/
def changed : List AuditEventRecord := ({ auditLog := log.map relabel } : Db).fetchAuditChain

/-- The chain of some event changes. -/
def Alters : Prop := ∃ p ∈ log, p.2 ≠ p.1.chainId

/-- The events of an old chain. -/
def oldChain (cid : Int) : List AuditEventRecord :=
  log.original.filter fun record => record.chainId == cid

/-- The events of a new chain. -/
def newChain (cid : Int) : List AuditEventRecord :=
  log.changed.filter fun record => record.chainId == cid

/-- Some event comes after another hash in its new chain than in its old one. -/
def ChangesPredecessor : Prop :=
  ∃ p ∈ log, ∃ before after before' after',
    log.oldChain p.1.chainId = before ++ p.1 :: after ∧
    log.newChain p.2 = before' ++ relabel p :: after' ∧
    endHash zeroHash before ≠ endHash zeroHash before'

/-- A change of some chain makes a valid log invalid. -/
def Detected : Prop :=
  IsValid (verifyAuditChain std log.original) → log.Alters →
    IsInvalid (verifyAuditChain std log.changed)

/-! ### Where the change shows -/

variable {std log}

/-- The changed log has the moved events. -/
theorem mem_changed {r : AuditEventRecord} : r ∈ log.changed ↔ ∃ p ∈ log, relabel p = r := by
  rw [changed, Db.fetchAuditChain, List.mem_insertionSort, List.mem_map]

theorem mem_newChain {r : AuditEventRecord} {cid : Int} :
    r ∈ log.newChain cid ↔ (∃ p ∈ log, relabel p = r) ∧ r.chainId = cid := by
  rw [newChain, List.mem_filter, mem_changed, beq_iff_eq]

theorem mem_oldChain {p : AuditEventRecord × Int} (hp : p ∈ log) :
    p.1 ∈ log.oldChain p.1.chainId :=
  List.mem_filter.mpr ⟨List.mem_map.mpr ⟨p, hp, rfl⟩, beq_self_eq_true _⟩

section Valid

variable (hvalid : IsValid (verifyAuditChain std log.original))
include hvalid

theorem isChain_oldChain (cid : Int) : IsChain std zeroHash (log.oldChain cid) :=
  (isValid_verifyAuditChain_iff std).mp hvalid cid

/-- Events of a valid log are sealed, and name the hash before them. -/
theorem isCheckable_of_mem {p : AuditEventRecord × Int} (hp : p ∈ log) :
    p.1.IsCheckable std := by
  have hchain := isChain_oldChain hvalid p.1.chainId
  have hboth := linked_and_prev _ _ _ (P := fun h => IsAscii h.toList)
    (fun _ hr => computeAuditHash_isAscii std hr) zeroHash_isAscii hchain
  exact isSealed_of_linked _ _ _ hboth p.1 (mem_oldChain hp)

/-- A moved event is as sealed as before. -/
theorem isCheckable_changed {r : AuditEventRecord} (hr : r ∈ log.changed) :
    r.IsCheckable std := by
  obtain ⟨p, hp, rfl⟩ := mem_changed.mp hr
  exact isCheckable_of_mem hvalid hp

/-- **The changed log is invalid exactly if an event comes after another hash.** -/
theorem isInvalid_changed_iff :
    IsInvalid (verifyAuditChain std log.changed) ↔ log.ChangesPredecessor := by
  have hseals : ∀ r ∈ log.changed, r.IsCheckable std := fun r hr => isCheckable_changed hvalid hr
  rw [isInvalid_iff_not_isValid (verifyAuditChain_ok std hseals), isValid_verifyAuditChain_iff]
  -- in its old chain every event names the hash before it
  have hnames : ∀ p ∈ log, ∀ before after, log.oldChain p.1.chainId = before ++ p.1 :: after →
      p.1.prevHash = endHash zeroHash before := by
    intro p hp before after hsplit
    have hlinks := (linked_iff_sealed _ _ _).mp (isChain_oldChain hvalid p.1.chainId)
    exact (links_iff _ _).mp hlinks.1 before p.1 after hsplit
  constructor
  · intro hbroken
    by_contra hsame
    refine hbroken fun cid => (linked_iff_sealed _ _ _).mpr ⟨(links_iff _ _).mpr ?_, ?_⟩
    · intro before' r after' hsplit'
      have hmem : r ∈ log.newChain cid := by
        show r ∈ log.changed.filter _
        rw [hsplit']
        exact List.mem_append_right _ (List.mem_cons_self ..)
      obtain ⟨⟨p, hp, rfl⟩, rfl⟩ := mem_newChain.mp hmem
      obtain ⟨before, after, hsplit⟩ := List.append_of_mem (mem_oldChain hp)
      by_contra hdiffers
      refine hsame ⟨p, hp, before, after, before', after', hsplit, hsplit', ?_⟩
      rw [← hnames p hp before after hsplit]
      exact hdiffers
    · intro r hr
      exact (hseals r (List.mem_of_mem_filter hr)).1
  · intro ⟨p, hp, before, after, before', after', hsplit, hsplit', hdiffers⟩ hchains
    have hlinks := ((linked_iff_sealed _ _ _).mp (hchains p.2)).1
    have hname : (relabel p).prevHash = endHash zeroHash before' :=
      (links_iff _ _).mp hlinks before' (relabel p) after' hsplit'
    exact hdiffers ((hnames p hp before after hsplit).symm.trans hname)

end Valid

/-- **A change of chains is detected exactly if an event comes after another hash.** -/
theorem relabelling_detected_iff (hvalid : IsValid (verifyAuditChain std log.original))
    (halters : log.Alters) : log.Detected std ↔ log.ChangesPredecessor := by
  rw [← isInvalid_changed_iff hvalid]
  constructor
  · intro hdetected
    exact hdetected hvalid halters
  · intro hinvalid _ _
    exact hinvalid

/-! ### Groups -/

variable (log) in
/-- Two events are in one chain before the change and not after it, or the other way around. -/
def Regroups : Prop :=
  ∃ p ∈ log, ∃ q ∈ log, ¬ (p.1.chainId = q.1.chainId ↔ p.2 = q.2)

/-- The order of `FETCH_AUDIT_CHAIN_SQL` on events with their new chain. -/
def comesBefore (p q : AuditEventRecord × Int) : Prop :=
  p.2 < q.2 ∨ p.2 = q.2 ∧ p.1.rowId ≤ q.1.rowId

instance : DecidableRel comesBefore := fun p q =>
  inferInstanceAs (Decidable (p.2 < q.2 ∨ p.2 = q.2 ∧ p.1.rowId ≤ q.1.rowId))

variable (log) in
/-- The events of a new chain, with the chain they come from. -/
def newPairs (cid : Int) : Relabelling := (log.insertionSort comesBefore).filter fun p => p.2 == cid

theorem newChain_eq (cid : Int) : log.newChain cid = (log.newPairs cid).map relabel := by
  have hsort : log.changed = (log.insertionSort comesBefore).map relabel := by
    rw [changed, Db.fetchAuditChain]
    symm
    exact List.map_insertionSort _ _ relabel log fun _ _ _ _ => Iff.rfl
  rw [newChain, hsort, List.filter_map, newPairs]
  rfl

theorem oldChain_eq (cid : Int) :
    log.oldChain cid = (log.filter fun p => p.1.chainId == cid).map (·.1) := by
  rw [oldChain, original, List.filter_map]
  rfl

section Distinct

variable (hvalid : IsValid (verifyAuditChain std log.original))
  (hdistinct : (log.map fun p => p.1.currentHash).Nodup)
  (hzero : ∀ s, std.hexdigest s ≠ zeroHash)
include hvalid

omit hvalid in
/-- The chains of the changed log, as chains of events with the chain they come from. -/
theorem links_newPairs (cid : Int) (h : IsChain std zeroHash (log.newChain cid)) :
    Linked (fun p : AuditEventRecord × Int => p.1.prevHash) (fun p => p.1.currentHash)
      (fun p => p.1.IsSealed std) zeroHash (log.newPairs cid) := by
  rw [newChain_eq] at h
  exact (linked_map _ _ _ relabel).mp h

theorem links_oldPairs (cid : Int) :
    Linked (fun p : AuditEventRecord × Int => p.1.prevHash) (fun p => p.1.currentHash)
      (fun p => p.1.IsSealed std) zeroHash (log.filter fun p => p.1.chainId == cid) := by
  have h := isChain_oldChain hvalid cid
  rw [oldChain_eq] at h
  exact (linked_map _ _ _ _).mp h

/-- No event has the hash that the chains start with. -/
theorem currentHash_ne_zeroHash (hzero : ∀ s, std.hexdigest s ≠ zeroHash)
    {p : AuditEventRecord × Int} (hp : p ∈ log) : p.1.currentHash ≠ zeroHash := by
  obtain ⟨created, j, -, -, hhash⟩ := computeAuditHash_eq std (isCheckable_of_mem hvalid hp).1
  rw [hhash]
  exact hzero _

include hdistinct hzero in
/-- **Hashes that tell the events apart keep every group together.** -/
theorem not_regroups_of_isValid
    (hchanged : ∀ cid, IsChain std zeroHash (log.newChain cid)) : ¬ log.Regroups := by
  have hcur : ∀ p ∈ log, ∀ q ∈ log, p.1.currentHash = q.1.currentHash → p = q :=
    fun p hp q hq h => List.inj_on_of_nodup_map hdistinct hp hq h
  have hstart : ∀ p ∈ log, p.1.currentHash ≠ zeroHash :=
    fun p hp => currentHash_ne_zeroHash hvalid hzero hp
  have hnewMem : ∀ {p : AuditEventRecord × Int} {cid : Int},
      p ∈ log.newPairs cid ↔ p ∈ log ∧ p.2 = cid := by
    intro p cid
    rw [newPairs, List.mem_filter, List.mem_insertionSort, beq_iff_eq]
  have holdMem : ∀ {p : AuditEventRecord × Int} {cid : Int},
      p ∈ (log.filter fun p => p.1.chainId == cid) ↔ p ∈ log ∧ p.1.chainId = cid := by
    intro p cid
    rw [List.mem_filter, beq_iff_eq]
  -- each event finds the one it names, in its old chain and in its new one
  have hold : ∀ p ∈ log, p.1.prevHash = zeroHash ∨
      ∃ q ∈ log, q.1.chainId = p.1.chainId ∧ q.1.currentHash = p.1.prevHash := by
    intro p hp
    refine (exists_before_of_linked _ _ _ (links_oldPairs hvalid p.1.chainId)
      (holdMem.mpr ⟨hp, rfl⟩)).imp_right ?_
    intro ⟨q, hq, hname⟩
    exact ⟨q, (holdMem.mp hq).1, (holdMem.mp hq).2, hname⟩
  have hnew : ∀ p ∈ log, p.1.prevHash = zeroHash ∨
      ∃ q ∈ log, q.2 = p.2 ∧ q.1.currentHash = p.1.prevHash := by
    intro p hp
    refine (exists_before_of_linked _ _ _ (links_newPairs p.2 (hchanged p.2))
      (hnewMem.mpr ⟨hp, rfl⟩)).imp_right ?_
    intro ⟨q, hq, hname⟩
    exact ⟨q, (hnewMem.mp hq).1, (hnewMem.mp hq).2, hname⟩
  -- so no chain of one grouping crosses a group of the other
  have hjoin : ∀ (key : AuditEventRecord × Int → Int) (chain : Relabelling),
      (∀ p ∈ log, p.1.prevHash = zeroHash ∨
        ∃ q ∈ log, key q = key p ∧ q.1.currentHash = p.1.prevHash) →
      (∀ p ∈ chain, p ∈ log) →
      Linked (fun p : AuditEventRecord × Int => p.1.prevHash) (fun p => p.1.currentHash)
        (fun p => p.1.IsSealed std) zeroHash chain →
      ∀ p ∈ chain, ∀ q ∈ chain, key p = key q := by
    intro key chain hbefore hsub hlinked p hp q hq
    cases chain with
    | nil => exact absurd hp List.not_mem_nil
    | cons r rs =>
        have hkey := same_key_of_linked _ _ _ key hcur hstart hbefore hsub hlinked
        rw [hkey p hp, hkey q hq]
  intro ⟨p, hp, q, hq, hregroups⟩
  refine hregroups ⟨?_, ?_⟩
  · intro hsame
    exact hjoin (·.2) _ hnew (fun r hr => (holdMem.mp hr).1)
      (links_oldPairs hvalid q.1.chainId) p (holdMem.mpr ⟨hp, hsame⟩) q (holdMem.mpr ⟨hq, rfl⟩)
  · intro hsame
    exact hjoin (·.1.chainId) _ hold (fun r hr => (hnewMem.mp hr).1)
      (links_newPairs q.2 (hchanged q.2)) p (hnewMem.mpr ⟨hp, hsame⟩) q (hnewMem.mpr ⟨hq, rfl⟩)

/-- Whole chains that are renamed stay chains, where the log is ordered as it is read. -/
theorem isChain_newChain_of_not_regroups
    (hordered : log.Pairwise fun p q => p.1.chainId = q.1.chainId → p.1.rowId ≤ q.1.rowId)
    (hkept : ¬ log.Regroups) (cid : Int) : IsChain std zeroHash (log.newChain cid) := by
  have hgroup : ∀ p ∈ log, ∀ q ∈ log, (p.1.chainId = q.1.chainId ↔ p.2 = q.2) := by
    intro p hp q hq
    by_contra hregroups
    exact hkept ⟨p, hp, q, hq, hregroups⟩
  have hsorted : (log.filter fun p => p.2 == cid).Pairwise comesBefore := by
    refine (hordered.sublist List.filter_sublist).imp_of_mem ?_
    intro p q hp hq hle
    obtain ⟨hp, hpc⟩ := List.mem_filter.mp hp
    obtain ⟨hq, hqc⟩ := List.mem_filter.mp hq
    simp only [beq_iff_eq] at hpc hqc
    have hsame : p.2 = q.2 := hpc.trans hqc.symm
    exact .inr ⟨hsame, hle ((hgroup p hp q hq).mpr hsame)⟩
  rw [newChain_eq, newPairs, filter_insertionSort hsorted, IsChain, linked_map]
  by_cases hempty : ∃ p ∈ log, p.2 = cid
  · obtain ⟨p, hp, rfl⟩ := hempty
    -- the new chain is the old chain of any of its events
    have hfilter : (log.filter fun q => q.2 == p.2) =
        log.filter fun q => q.1.chainId == p.1.chainId := by
      refine List.filter_congr ?_
      intro q hq
      rw [Bool.eq_iff_iff, beq_iff_eq, beq_iff_eq]
      exact (hgroup q hq p hp).symm
    rw [hfilter]
    exact links_oldPairs hvalid p.1.chainId
  · rw [List.filter_eq_nil_iff.mpr]
    · exact linked_nil ..
    · intro p hp hcid
      simp only [beq_iff_eq] at hcid
      exact hempty ⟨p, hp, hcid⟩

include hdistinct hzero in
/-- **Only a change of the grouping is noticed.** -/
theorem changesPredecessor_iff_regroups
    (hordered : log.Pairwise fun p q => p.1.chainId = q.1.chainId → p.1.rowId ≤ q.1.rowId) :
    log.ChangesPredecessor ↔ log.Regroups := by
  have hseals : ∀ r ∈ log.changed, r.IsCheckable std := fun r hr => isCheckable_changed hvalid hr
  rw [← isInvalid_changed_iff hvalid,
    isInvalid_iff_not_isValid (verifyAuditChain_ok std hseals), isValid_verifyAuditChain_iff]
  constructor
  · intro hbroken
    by_contra hkept
    exact hbroken fun cid => isChain_newChain_of_not_regroups hvalid hordered hkept cid
  · intro hregroups hchains
    exact not_regroups_of_isValid hvalid hdistinct hzero hchains hregroups

end Distinct

end Relabelling

/-! ### A chain that is renamed -/

/-- The only event of chain 0, moved to chain 1. -/
def renamedLog : Relabelling := [(firstEvent 1, 1)]

/-- A first event alone is a log of its chain. -/
theorem isValid_firstEvent {record : AuditEventRecord} (hprev : record.prevHash = zeroHash)
    (hsealed : record.IsSealed injectiveStd) :
    IsValid (verifyAuditChain injectiveStd [record]) := by
  refine (isValid_verifyAuditChain_iff injectiveStd).mpr ?_
  intro cid
  cases hcid : record.chainId == cid with
  | true =>
      simp only [List.filter_cons, hcid, if_true, List.filter_nil]
      exact ⟨hprev, hsealed, linked_nil ..⟩
  | false =>
      simp only [List.filter_cons, hcid, Bool.false_eq_true, if_false, List.filter_nil]
      exact linked_nil ..

theorem renamedLog_original : IsValid (verifyAuditChain injectiveStd renamedLog.original) :=
  isValid_firstEvent rfl (firstEvent_isSealed 1)

theorem renamedLog_alters : renamedLog.Alters := ⟨_, List.mem_cons_self .., by decide⟩

/-- The renamed chain verifies. -/
theorem renamed_chain_verifies :
    IsValid (verifyAuditChain injectiveStd renamedLog.original) ∧ renamedLog.Alters ∧
      IsValid (verifyAuditChain injectiveStd renamedLog.changed) ∧
      ¬ renamedLog.Detected injectiveStd := by
  -- the hash of the moved event is still its own
  have hchanged : IsValid (verifyAuditChain injectiveStd renamedLog.changed) :=
    isValid_firstEvent rfl (firstEvent_isSealed 1)
  refine ⟨renamedLog_original, renamedLog_alters, hchanged, ?_⟩
  intro hdetected
  obtain ⟨result, hok, hinvalid⟩ := hdetected renamedLog_original renamedLog_alters
  obtain ⟨result', hok', hvalid⟩ := hchanged
  obtain rfl : result = result' := Except.ok.inj (hok.symm.trans hok')
  rw [hvalid] at hinvalid
  cases hinvalid

theorem relabelling_detected_iff_renamedLog :
    renamedLog.Detected injectiveStd ↔ renamedLog.ChangesPredecessor :=
  Relabelling.relabelling_detected_iff renamedLog_original renamedLog_alters

end Vrl

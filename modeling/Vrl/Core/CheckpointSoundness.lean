import Vrl.Core.ChainCheckpoint

/-!
# Vrl.Core.CheckpointSoundness

When an answer of the checkpointed verifier can be trusted.

A segment whose checkpoint recomputes is not read, so nothing ties its records
to the checkpoint: a valid chain can be overwritten there without the fast path
noticing.

The list is cut into pieces, the complete segments and the tail. The verifier
carries a hash from piece to piece: that of the last record read, or the
checkpoint's when the piece was skipped. What is read must verify from the hash
carried (`ReadsVerify`); what the full walk checks besides is `SkippedVerify`.
The two together say exactly when the fast path's acceptance implies the full
one's.
-/

open TextCodec HashChain

namespace Vrl

variable (std : PyStd)

/-! ### Self-consistent checkpoints -/

/-- A checkpoint whose hash recomputes and whose last hash is a digest. -/
structure ChainCheckpoint.IsConsistent (chainId : Int) (cp : ChainCheckpoint) : Prop where
  recomputes : cp.checkpointHash =
    computeCheckpointHash std chainId cp.segmentIndex cp.lastRecordId cp.lastCurrentHash
  ascii : IsAscii cp.lastCurrentHash.toList

theorem currentHash_isAscii {start : String} {records : List AuditEventRecord}
    (hchain : IsChain std start records) {record : AuditEventRecord} (hmem : record ∈ records) :
    IsAscii record.currentHash.toList :=
  computeAuditHash_isAscii std (isSealed_of_linked _ _ _ hchain record hmem)

/-- The checkpoints built for a valid chain are self-consistent. -/
theorem isConsistent_of_mem_build {chainId : Int} {chain : List AuditEventRecord}
    (hvalid : IsValid (verifySingleChain std chain)) {cp : ChainCheckpoint}
    (hcp : cp ∈ buildCheckpointsForChain std chainId chain) : cp.IsConsistent std chainId := by
  have hchain := (isValid_verifySingleChain_iff std).mp hvalid
  obtain ⟨seg, -, hseg⟩ := List.mem_filterMap.mp hcp
  obtain ⟨last, hlast, rfl⟩ := Option.map_eq_some_iff.mp hseg
  refine ⟨rfl, currentHash_isAscii std hchain ?_⟩
  exact List.mem_of_mem_drop (List.mem_of_mem_take (List.mem_of_getLast? hlast))

/-- Every complete segment of a chain has its checkpoint. -/
theorem cpBySeg_build_ne_none (chainId : Int) {chain : List AuditEventRecord} {seg : Nat}
    (hseg : seg < chain.length / checkpointInterval) :
    cpBySeg (some (buildCheckpointsForChain std chainId chain)) seg ≠ none := by
  have hlen : (segment chain seg).length = checkpointInterval :=
    segment_length (Nat.le_trans (Nat.mul_le_mul_right _ hseg) (Nat.div_mul_le_self ..))
  cases hlast : (segment chain seg).getLast? with
  | none =>
      rw [List.getLast?_eq_none_iff.mp hlast] at hlen
      exact absurd hlen (by decide)
  | some last =>
      intro hnone
      rw [cpBySeg, List.find?_eq_none] at hnone
      have hmem : checkpointOf std chainId seg (segment chain seg) last ∈
          buildCheckpointsForChain std chainId chain := by
        refine List.mem_filterMap.mpr ⟨seg, List.mem_range.mpr hseg, ?_⟩
        dsimp only
        rw [hlast]
        rfl
      exact hnone _ (List.mem_reverse.mpr hmem) (beq_self_eq_true seg)

/-! ### Pieces of a record list -/

section Pieces

variable (cps : List ChainCheckpoint) (records : List AuditEventRecord)

/-- The checkpoint on whose word piece `k` is skipped, if there is one. The tail
is always read. -/
def coveringCheckpoint (k : Nat) : Option ChainCheckpoint :=
  if k < records.length / checkpointInterval then cpBySeg (some cps) k else none

/-- The hash that is carried into piece `k`. -/
def carriedHash : Nat → String
  | 0 => zeroHash
  | k + 1 =>
      match coveringCheckpoint cps records k with
      | some cp => cp.lastCurrentHash
      | none => endHash (carriedHash k) (segment records k)

/-- The hash of the record before piece `k`. -/
def startHash (k : Nat) : String := endHash zeroHash (records.take (k * checkpointInterval))

/-- Every piece that is read verifies from the hash carried into it. -/
def ReadsVerify : Prop :=
  ∀ k ≤ records.length / checkpointInterval, coveringCheckpoint cps records k = none →
    IsChain std (carriedHash cps records k) (segment records k)

/-- Every piece that is skipped continues the chain of the records before it,
and ends with the checkpoint's hash when a piece that is read comes next. -/
def SkippedVerify : Prop :=
  ∀ k cp, coveringCheckpoint cps records k = some cp →
    IsChain std (startHash records k) (segment records k) ∧
      (coveringCheckpoint cps records (k + 1) = none → segment records (k + 1) ≠ [] →
        startHash records (k + 1) = cp.lastCurrentHash)

variable {cps records}

theorem mem_of_cpBySeg {k : Nat} {cp : ChainCheckpoint} (h : cpBySeg (some cps) k = some cp) :
    cp ∈ cps ∧ cp.segmentIndex = k := by
  rw [cpBySeg] at h
  have hmem := List.mem_of_find?_eq_some h
  have hseg := List.find?_some h
  exact ⟨List.mem_reverse.mp hmem, by simpa using hseg⟩

theorem coveringCheckpoint_of_lt {k : Nat} (hk : k < records.length / checkpointInterval) :
    coveringCheckpoint cps records k = cpBySeg (some cps) k :=
  if_pos hk

theorem coveringCheckpoint_tail :
    coveringCheckpoint cps records (records.length / checkpointInterval) = none :=
  if_neg (Nat.lt_irrefl _)

/-- The records before piece `k + 1` are those before piece `k` and piece `k`. -/
theorem take_succ_segment (k : Nat) :
    records.take ((k + 1) * checkpointInterval) =
      records.take (k * checkpointInterval) ++ segment records k := by
  rw [Nat.add_mul, Nat.one_mul, List.take_add, segment]

theorem startHash_succ (k : Nat) :
    startHash records (k + 1) = endHash (startHash records k) (segment records k) := by
  rw [startHash, take_succ_segment, endHash, lastHash_append]
  rfl

theorem startHash_zero : startHash records 0 = zeroHash := by
  rw [startHash, Nat.zero_mul, List.take_zero, endHash, lastHash_nil]

/-- The first `n` pieces are a chain when each continues the one before. -/
theorem isChain_take_iff (n : Nat) :
    IsChain std zeroHash (records.take (n * checkpointInterval)) ↔
      ∀ k < n, IsChain std (startHash records k) (segment records k) := by
  induction n with
  | zero => simp [IsChain]
  | succ n ih =>
      rw [take_succ_segment, IsChain, linked_append, Nat.forall_lt_succ_right]
      exact and_congr ih Iff.rfl

/-- The tail reaches to the end of the list. -/
theorem take_pieces :
    records.take ((records.length / checkpointInterval + 1) * checkpointInterval) = records := by
  refine List.take_of_length_le ?_
  rw [Nat.mul_comm]
  exact Nat.le_of_lt (Nat.lt_mul_div_succ _ (by decide))

/-- The plain walk, piece by piece. -/
theorem isValid_verifySingleChain_iff_pieces :
    IsValid (verifySingleChain std records) ↔
      ∀ k ≤ records.length / checkpointInterval,
        IsChain std (startHash records k) (segment records k) := by
  rw [isValid_verifySingleChain_iff]
  have h := @isChain_take_iff std records (records.length / checkpointInterval + 1)
  rw [take_pieces] at h
  simpa only [Nat.lt_succ_iff] using h

/-- A piece before the tail is complete. -/
theorem segment_ne_nil {k : Nat} (hk : k < records.length / checkpointInterval) :
    segment records k ≠ [] := by
  have hlen : (segment records k).length = checkpointInterval :=
    segment_length (Nat.le_trans (Nat.mul_le_mul_right _ hk) (Nat.div_mul_le_self ..))
  intro hnil
  rw [hnil] at hlen
  exact absurd hlen (by decide)

end Pieces

/-! ### What the fast path checks -/

/-- Reading a piece passes when the piece continues the chain. -/
theorem readSegment_passed_iff {chainId : Int} {seg : Nat} {records : List AuditEventRecord}
    {prevHash h : String} (hp : IsAscii prevHash.toList) (totalChecked : Nat) :
    (∃ n, readSegment std chainId seg records prevHash totalChecked none = .ok (.passed h n)) ↔
      IsChain std prevHash records ∧ h = endHash prevHash records := by
  have hagree := readSegment_agrees std chainId seg records prevHash totalChecked
  rw [hagree.passed_iff]
  exact walkChain_intact_iff std hp

theorem segment_tail (records : List AuditEventRecord) :
    segment records (records.length / checkpointInterval) =
      records.drop (records.length / checkpointInterval * checkpointInterval) := by
  refine List.take_of_length_le ?_
  rw [List.length_drop]
  have h := Nat.lt_mul_div_succ records.length (by decide : 0 < checkpointInterval)
  rw [Nat.mul_add, Nat.mul_one, Nat.mul_comm] at h
  omega

/-- The tail passes when it continues the chain. -/
theorem verifyTail_passed_iff {chainId : Int} {records : List AuditEventRecord}
    {prevHash : String} (hp : IsAscii prevHash.toList) (totalChecked : Nat) :
    (∃ h n, verifyTail std chainId records prevHash totalChecked = .ok (.passed h n)) ↔
      IsChain std prevHash (segment records (records.length / checkpointInterval)) := by
  have hagree := verifyTail_agrees std chainId records prevHash totalChecked
  rw [segment_tail]
  constructor
  · rintro ⟨h, hn⟩
    exact ((walkChain_intact_iff std hp).mp ((hagree.passed_iff h).mp hn)).1
  · intro hchain
    exact ⟨_, (hagree.passed_iff _).mpr ((walkChain_intact_iff std hp).mpr ⟨hchain, rfl⟩)⟩

section FastPath

variable {chainId : Int} {cps : List ChainCheckpoint} {records : List AuditEventRecord}
  (hgood : ∀ cp ∈ cps, cp.IsConsistent std chainId)

include hgood

/-- A segment with a consistent checkpoint is skipped. -/
theorem checkSegment_covered {k : Nat} {cp : ChainCheckpoint} (hcp : cpBySeg (some cps) k = some cp)
    (piece : List AuditEventRecord) (prevHash : String) (totalChecked : Nat) :
    checkSegment std chainId k piece prevHash totalChecked (cpBySeg (some cps) k) =
      .ok (.passed cp.lastCurrentHash (totalChecked + piece.length)) := by
  obtain ⟨hmem, rfl⟩ := mem_of_cpBySeg hcp
  have hok : isTrusted std chainId cp.segmentIndex cp = .ok true := by
    rw [isTrusted, (hgood cp hmem).recomputes]
    exact compareDigest_self (std.isAscii_hexdigest _)
  rw [hcp, checkSegment, hok]
  rfl

/-- One turn of the loop: it goes on exactly when the piece is skipped or reads
correctly, and then carries the hash that `carriedHash` names. -/
theorem checkSegment_passed_iff {k : Nat} (hk : k < records.length / checkpointInterval)
    (hp : IsAscii (carriedHash cps records k).toList) {h : String} (totalChecked : Nat) :
    (∃ n, checkSegment std chainId k (segment records k) (carriedHash cps records k) totalChecked
        (cpBySeg (some cps) k) = .ok (.passed h n)) ↔
      (coveringCheckpoint cps records k = none →
        IsChain std (carriedHash cps records k) (segment records k)) ∧
        h = carriedHash cps records (k + 1) := by
  rw [carriedHash]
  cases hc : coveringCheckpoint cps records k with
  | some cp =>
      rw [coveringCheckpoint_of_lt hk] at hc
      rw [checkSegment_covered std hgood hc]
      simp [eq_comm]
  | none =>
      rw [coveringCheckpoint_of_lt hk] at hc
      rw [hc, checkSegment, readSegment_passed_iff std hp]
      simp

/-- The hash carried past a piece that passed is ASCII again. -/
theorem isAscii_carriedHash_succ {k : Nat} (hp : IsAscii (carriedHash cps records k).toList)
    (hread : coveringCheckpoint cps records k = none →
      IsChain std (carriedHash cps records k) (segment records k)) :
    IsAscii (carriedHash cps records (k + 1)).toList := by
  rw [carriedHash]
  cases hc : coveringCheckpoint cps records k with
  | some cp =>
      rw [coveringCheckpoint] at hc
      split at hc
      · exact (hgood cp (mem_of_cpBySeg hc).1).ascii
      · cases hc
  | none => exact isAscii_lastHash std hp (hread hc)

/-- The loop over the segments `s, …, s + n - 1` passes exactly when those that
are read verify. The induction is on the number of segments left. -/
theorem verifySegments_passed_iff {s n : Nat} (hn : s + n ≤ records.length / checkpointInterval)
    (hp : IsAscii (carriedHash cps records s).toList) {h : String} (totalChecked : Nat) :
    (∃ m, verifySegments std chainId records (some cps) (List.range' s n)
        (carriedHash cps records s) totalChecked = .ok (.passed h m)) ↔
      (∀ k, s ≤ k → k < s + n → coveringCheckpoint cps records k = none →
        IsChain std (carriedHash cps records k) (segment records k)) ∧
        h = carriedHash cps records (s + n) := by
  induction n generalizing s totalChecked with
  | zero =>
      simp only [List.range'_zero, verifySegments, Nat.add_zero, Except.ok.injEq,
        SegmentLoop.passed.injEq]
      constructor
      · rintro ⟨m, rfl, -⟩
        exact ⟨fun k hk hk' => absurd hk (Nat.not_le.mpr hk'), rfl⟩
      · rintro ⟨-, rfl⟩
        exact ⟨totalChecked, rfl, rfl⟩
  | succ n ih =>
      have hs : s < records.length / checkpointInterval := by omega
      rw [List.range'_succ, verifySegments]
      -- the segment `s` passes first, and hands its last hash to the segments after it
      constructor
      · rintro ⟨m, hm⟩
        obtain ⟨loop, hloop, hm⟩ := Except.bind_eq_ok_iff.mp hm
        cases loop with
        | failed result h' n' => cases hm
        | passed h' n' =>
            obtain ⟨hread, rfl⟩ :=
              (checkSegment_passed_iff std hgood hs hp totalChecked).mp ⟨n', hloop⟩
            have hp' := isAscii_carriedHash_succ std hgood hp hread
            obtain ⟨hrest, hh⟩ := (ih (by omega) hp' n').mp ⟨m, hm⟩
            rw [Nat.add_right_comm] at hh
            refine ⟨fun k hk hk' => ?_, hh⟩
            rcases Nat.eq_or_lt_of_le hk with rfl | hlt
            · exact hread
            · exact hrest k hlt (by omega)
      · rintro ⟨hreads, hh⟩
        have hread := hreads s (Nat.le_refl s) (by omega)
        obtain ⟨n', hloop⟩ :=
          (checkSegment_passed_iff std hgood hs hp totalChecked).mpr ⟨hread, rfl⟩
        rw [hloop]
        refine (ih (by omega) (isAscii_carriedHash_succ std hgood hp hread) n').mpr ⟨?_, ?_⟩
        · exact fun k hk hk' => hreads k (by omega) (by omega)
        · rw [hh, Nat.add_right_comm, Nat.add_assoc]

theorem isAscii_carriedHash {n : Nat}
    (hreads : ∀ k < n, coveringCheckpoint cps records k = none →
      IsChain std (carriedHash cps records k) (segment records k)) :
    IsAscii (carriedHash cps records n).toList := by
  induction n with
  | zero => exact zeroHash_isAscii
  | succ n ih =>
      refine isAscii_carriedHash_succ std hgood (ih fun k hk => hreads k (by omega)) ?_
      exact hreads n (Nat.lt_succ_self n)

/-- The loop over all complete segments. -/
theorem verifySegments_all_passed_iff {h : String} :
    (∃ m, verifySegments std chainId records (some cps)
        (List.range (records.length / checkpointInterval)) zeroHash 0 = .ok (.passed h m)) ↔
      (∀ k < records.length / checkpointInterval, coveringCheckpoint cps records k = none →
        IsChain std (carriedHash cps records k) (segment records k)) ∧
        h = carriedHash cps records (records.length / checkpointInterval) := by
  have hall := @verifySegments_passed_iff std chainId cps records hgood 0
    (records.length / checkpointInterval) (Nat.le_of_eq (Nat.zero_add _)) zeroHash_isAscii h 0
  rw [Nat.zero_add, ← List.range_eq_range'] at hall
  rw [show zeroHash = carriedHash cps records 0 from rfl, hall]
  simp

omit hgood in
theorem readsVerify_iff :
    ReadsVerify std cps records ↔
      (∀ k < records.length / checkpointInterval, coveringCheckpoint cps records k = none →
        IsChain std (carriedHash cps records k) (segment records k)) ∧
      IsChain std (carriedHash cps records (records.length / checkpointInterval))
        (segment records (records.length / checkpointInterval)) := by
  constructor
  · intro h
    exact ⟨fun k hk => h k (Nat.le_of_lt hk), h _ (Nat.le_refl _) coveringCheckpoint_tail⟩
  · rintro ⟨hsegs, htail⟩ k hk hc
    rcases Nat.lt_or_eq_of_le hk with hlt | rfl
    · exact hsegs k hlt hc
    · exact htail

/-- **What the fast path checks**: the pieces that it reads. -/
theorem isValid_verifyChainWithCheckpoints_iff :
    IsValid (verifyChainWithCheckpoints std chainId records (some cps)) ↔
      ReadsVerify std cps records := by
  by_cases hne : records = []
  · subst hne
    refine ⟨fun _ k _ _ => ?_, fun _ => ⟨_, rfl, rfl⟩⟩
    rw [segment, List.drop_nil, List.take_nil]
    exact linked_nil ..
  rw [verifyChainWithCheckpoints_eq std chainId (some cps) hne, readsVerify_iff]
  constructor
  · rintro ⟨result, hok, hstatus⟩
    obtain ⟨out, hout, hresult⟩ := Except.bind_eq_ok_iff.mp hok
    cases out with
    | failed r h n =>
        cases hresult
        cases hstatus
    | passed h n =>
        obtain ⟨loop, hloop, htail⟩ := Except.bind_eq_ok_iff.mp hout
        cases loop with
        | failed r h' n' => cases htail
        | passed h' n' =>
            obtain ⟨hsegs, rfl⟩ := (verifySegments_all_passed_iff std hgood).mp ⟨n', hloop⟩
            refine ⟨hsegs, ?_⟩
            exact (verifyTail_passed_iff std (isAscii_carriedHash std hgood hsegs) n').mp
              ⟨h, n, htail⟩
  · rintro ⟨hsegs, htail⟩
    obtain ⟨n', hloop⟩ := (verifySegments_all_passed_iff std hgood).mpr ⟨hsegs, rfl⟩
    obtain ⟨h, n, hpassed⟩ :=
      (@verifyTail_passed_iff std chainId _ _ (isAscii_carriedHash std hgood hsegs) n').mpr htail
    rw [hloop, Except.ok_bind]
    dsimp only
    rw [hpassed]
    exact ⟨_, rfl, rfl⟩

end FastPath

/-! ### When acceptance can be trusted -/

section Soundness

variable {cps : List ChainCheckpoint} {records : List AuditEventRecord}

/-- If the skipped pieces verify too, the hash carried into a piece that is read is
the hash of the record before it. -/
theorem carriedHash_eq_startHash (hskipped : SkippedVerify std cps records) {k : Nat}
    (hk : k ≤ records.length / checkpointInterval) (hc : coveringCheckpoint cps records k = none)
    (hne : segment records k ≠ []) : carriedHash cps records k = startHash records k := by
  induction k with
  | zero => exact startHash_zero.symm
  | succ k ih =>
      rw [carriedHash]
      cases hck : coveringCheckpoint cps records k with
      | some cp => exact ((hskipped k cp hck).2 hc hne).symm
      | none =>
          rw [startHash_succ, ih (by omega) hck (segment_ne_nil hk)]

/-- A non-empty chain starts at one hash only. -/
theorem start_unique {g h : String} {rs : List AuditEventRecord} (hne : rs ≠ [])
    (hg : IsChain std g rs) (hh : IsChain std h rs) : g = h := by
  cases rs with
  | nil => exact absurd rfl hne
  | cons r rs => exact hg.1.symm.trans hh.1

/-- Given what the fast path reads, the plain walk accepts exactly when the skipped
pieces verify too. -/
theorem isValid_iff_skippedVerify (hreads : ReadsVerify std cps records) :
    IsValid (verifySingleChain std records) ↔ SkippedVerify std cps records := by
  rw [isValid_verifySingleChain_iff_pieces]
  constructor
  · intro hfull k cp hc
    have hk : k < records.length / checkpointInterval := by
      by_contra hnot
      rw [coveringCheckpoint, if_neg hnot] at hc
      cases hc
    refine ⟨hfull k (Nat.le_of_lt hk), fun hnext hne => ?_⟩
    have hread := hreads (k + 1) hk hnext
    rw [carriedHash, hc] at hread
    exact start_unique std hne (hfull (k + 1) hk) hread
  · intro hskipped k hk
    cases hc : coveringCheckpoint cps records k with
    | some cp => exact (hskipped k cp hc).1
    | none =>
        by_cases hne : segment records k = []
        · rw [hne]
          exact linked_nil ..
        · rw [← carriedHash_eq_startHash std hskipped hk hc hne]
          exact hreads k hk hc

/-- **When the fast path is sound.** For checkpoints built from a valid chain and
any records, the fast path's acceptance implies the full one's exactly when the
records it reads do not verify, or the ones it skips do. -/
theorem checkpointed_verification_sound_iff {chainId : Int} {chain : List AuditEventRecord}
    (hvalid : IsValid (verifySingleChain std chain))
    (hcps : ∀ cp ∈ cps, cp ∈ buildCheckpointsForChain std chainId chain) :
    (IsValid (verifyChainWithCheckpoints std chainId records (some cps)) →
        IsValid (verifySingleChain std records)) ↔
      (¬ ReadsVerify std cps records ∨ SkippedVerify std cps records) := by
  have hgood : ∀ cp ∈ cps, cp.IsConsistent std chainId := fun cp hcp =>
    isConsistent_of_mem_build std hvalid (hcps cp hcp)
  rw [isValid_verifyChainWithCheckpoints_iff std hgood, ← imp_iff_not_or]
  exact forall_congr' fun hreads => isValid_iff_skippedVerify std hreads

end Soundness

/-! ### A chain overwritten under its checkpoint -/

section Overwritten

/-- An event built on the hash `prevHash`. -/
def honestEvent (prevHash : String) : AuditEventRecord where
  eventType := "calculation_persisted"
  eventPayload := []
  prevHash := prevHash
  currentHash :=
    match computeAuditHash std prevHash "calculation_persisted" none [] DateTime.min with
    | .ok h => h
    | .error _ => ""
  createdAt := DateTime.min

/-- `n` events, each built on the one before. -/
def honestChain : Nat → String → List AuditEventRecord
  | 0, _ => []
  | n + 1, prevHash =>
      honestEvent std prevHash :: honestChain n (honestEvent std prevHash).currentHash

/-- A record that was never part of any chain. -/
def forgedEvent : AuditEventRecord where
  eventType := "forged"
  eventPayload := []
  prevHash := ""
  currentHash := ""
  createdAt := DateTime.min

theorem honestEvent_isSealed (prevHash : String) : (honestEvent std prevHash).IsSealed std := by
  obtain ⟨h, hh⟩ := @computeAuditHash_ok std [] DateTime.min ⟨.obj [], rfl⟩ ⟨_, rfl⟩ prevHash
    "calculation_persisted" none
  rw [AuditEventRecord.IsSealed, AuditEventRecord.expectedHash]
  simp only [honestEvent, hh]

theorem honestChain_isChain (n : Nat) (prevHash : String) :
    IsChain std prevHash (honestChain std n prevHash) := by
  induction n generalizing prevHash with
  | zero => exact linked_nil ..
  | succ n ih => exact ⟨rfl, honestEvent_isSealed std prevHash, ih _⟩

theorem honestChain_length (n : Nat) (prevHash : String) :
    (honestChain std n prevHash).length = n := by
  induction n generalizing prevHash with
  | zero => rfl
  | succ n ih => rw [honestChain, List.length_cons, ih]

theorem honestChain_valid : IsValid (verifySingleChain std (honestChain std 1000 zeroHash)) :=
  (isValid_verifySingleChain_iff std).mpr (honestChain_isChain std 1000 zeroHash)

/-- A thousand forged records in the place of the thousand honest ones. -/
def forgedChain : List AuditEventRecord := List.replicate 1000 forgedEvent

theorem forgedChain_length : forgedChain.length / checkpointInterval = 1 := by
  rw [forgedChain, List.length_replicate]
  rfl

theorem forgedChain_not_valid : ¬ IsValid (verifySingleChain std forgedChain) := by
  rw [isValid_verifySingleChain_iff]
  intro h
  have hprev : forgedEvent.prevHash = zeroHash := h.1
  exact absurd hprev (by decide)

/-- The fast path accepts the forged records on the word of the honest checkpoint. -/
theorem forgedChain_accepted : IsValid (verifyChainWithCheckpoints std 0 forgedChain
    (some (buildCheckpointsForChain std 0 (honestChain std 1000 zeroHash)))) := by
  have hgood : ∀ cp ∈ buildCheckpointsForChain std 0 (honestChain std 1000 zeroHash),
      cp.IsConsistent std 0 := fun cp hcp =>
    isConsistent_of_mem_build std (honestChain_valid std) hcp
  rw [isValid_verifyChainWithCheckpoints_iff std hgood, readsVerify_iff, forgedChain_length]
  constructor
  · intro k hk hc
    -- the only complete segment has its checkpoint
    have hk0 : k < (honestChain std 1000 zeroHash).length / checkpointInterval := by
      rw [honestChain_length]
      exact hk
    rw [coveringCheckpoint_of_lt (by rwa [forgedChain_length])] at hc
    exact absurd hc (cpBySeg_build_ne_none std 0 hk0)
  · have htail : segment forgedChain 1 = [] := by
      rw [segment, forgedChain, List.drop_of_length_le (by rw [List.length_replicate]; decide),
        List.take_nil]
    rw [htail]
    exact linked_nil ..

/-- A forged list of records that the fast path accepts and the full walk rejects. -/
theorem checkpointed_verification_unsound :
    IsValid (verifySingleChain lengthStd (honestChain lengthStd 1000 zeroHash)) ∧
      IsValid (verifyChainWithCheckpoints lengthStd 0 forgedChain
        (some (buildCheckpointsForChain lengthStd 0 (honestChain lengthStd 1000 zeroHash)))) ∧
      ¬ IsValid (verifySingleChain lengthStd forgedChain) :=
  ⟨honestChain_valid lengthStd, forgedChain_accepted lengthStd, forgedChain_not_valid lengthStd⟩

theorem checkpointed_verification_sound_iff_forged :
    let cps := buildCheckpointsForChain lengthStd 0 (honestChain lengthStd 1000 zeroHash)
    (IsValid (verifyChainWithCheckpoints lengthStd 0 forgedChain (some cps)) →
        IsValid (verifySingleChain lengthStd forgedChain)) ↔
      (¬ ReadsVerify lengthStd cps forgedChain ∨ SkippedVerify lengthStd cps forgedChain) :=
  checkpointed_verification_sound_iff lengthStd (honestChain_valid lengthStd) fun _ h => h

end Overwritten

end Vrl

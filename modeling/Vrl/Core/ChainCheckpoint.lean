import Vrl.Core.AuditChain

/-!
# Vrl.Core.ChainCheckpoint

Checkpoints of an audit chain and the verifier that uses them
(`core/chain_checkpoint.py`).

A chain is cut into segments of `checkpointInterval` records and a ragged tail.
A checkpoint records the last hash of a complete segment;
`verifyChainWithCheckpoints` does not read a segment for which it is given a
self-consistent checkpoint.

Without checkpoints the segmented walk is the plain one, which is shown here
(`LoopAgrees` carries the argument through the segments). What its answers are
worth once checkpoints are given is the subject of `Vrl.Core.CheckpointSoundness`.
-/

open TextCodec HashChain

namespace Vrl

variable (std : PyStd)

/-! ### Checkpoints -/

/-- `CHECKPOINT_INTERVAL`. -/
def checkpointInterval : Nat := 1000

/-- `ChainCheckpoint`. -/
structure ChainCheckpoint where
  chainId : Int
  segmentIndex : Nat
  lastRecordId : Option Int
  lastCurrentHash : String
  checkpointHash : String
  recordCount : Nat
  deriving DecidableEq, Repr

/-- The text of an optional integer in a format string. -/
def optionalIntText : Option Int → List Char
  | some i => intText i
  | none => ['N', 'o', 'n', 'e']

/-- `compute_checkpoint_hash`. -/
def computeCheckpointHash (chainId : Int) (segmentIndex : Nat) (lastRecordId : Option Int)
    (lastCurrentHash : String) : String :=
  sha256Hex std (String.ofList ("checkpoint:".toList ++ intText chainId ++
    ':' :: (natText segmentIndex ++ ':' :: (optionalIntText lastRecordId ++ [':']))) ++
    lastCurrentHash)

/-- The records of segment `seg`: a slice of the list, complete or not. -/
def segment (records : List AuditEventRecord) (seg : Nat) : List AuditEventRecord :=
  (records.drop (seg * checkpointInterval)).take checkpointInterval

/-- The checkpoint of the segment `segs` that ends with the record `last`. -/
def checkpointOf (chainId : Int) (seg : Nat) (segs : List AuditEventRecord)
    (last : AuditEventRecord) : ChainCheckpoint where
  chainId := chainId
  segmentIndex := seg
  lastRecordId := last.id
  lastCurrentHash := last.currentHash
  checkpointHash := computeCheckpointHash std chainId seg last.id last.currentHash
  recordCount := segs.length

/-- `build_checkpoints_for_chain`: one checkpoint for every complete segment, none
of which is empty. -/
def buildCheckpointsForChain (chainId : Int) (records : List AuditEventRecord) :
    List ChainCheckpoint :=
  (List.range (records.length / checkpointInterval)).filterMap fun seg =>
    let segs := segment records seg
    segs.getLast?.map (checkpointOf std chainId seg segs)

/-! ### Verification -/

/-- `SegmentVerificationResult`. -/
structure SegmentVerificationResult where
  status : ChainStatus
  reason : String
  chainId : Int
  segmentIndex : Nat
  checkedRows : Nat
  brokenRecordId : Option Int := none
  deriving DecidableEq, Repr

/-- `verify_segment`. -/
def verifySegment (chainId : Int) (segmentIndex : Nat) (records : List AuditEventRecord)
    (prevHash : String) (expectedCheckpoint : Option ChainCheckpoint) :
    Except PyError SegmentVerificationResult := do
  match ← walkChain std 0 prevHash records with
  | .broken fault index _ recordId =>
      return {
        status := .invalid
        reason := match fault with
          | .previousHash => "Previous hash mismatch in segment"
          | .currentHash => "Current hash mismatch in segment"
        chainId, segmentIndex
        checkedRows := index
        brokenRecordId := recordId }
  | .intact _ =>
      let verified : SegmentVerificationResult := {
        status := .valid
        reason := "Segment verified"
        chainId, segmentIndex
        checkedRows := records.length }
      match expectedCheckpoint, records.getLast? with
      | some expected, some last =>
          let recomputed :=
            computeCheckpointHash std chainId segmentIndex last.id last.currentHash
          if ← constantTimeEqual recomputed expected.checkpointHash then return verified
          else
            return {
              status := .invalid
              reason := "Checkpoint hash mismatch at segment boundary"
              chainId, segmentIndex
              checkedRows := records.length
              brokenRecordId := last.id }
      | _, _ => return verified

/-- `cp_by_seg.get(seg)`: of several checkpoints for one segment the last counts. -/
def cpBySeg (knownCheckpoints : Option (List ChainCheckpoint)) (seg : Nat) :
    Option ChainCheckpoint :=
  match knownCheckpoints with
  | some checkpoints => checkpoints.reverse.find? fun cp => cp.segmentIndex == seg
  | none => none

/-- How the loop over the complete segments ends: with the hash and the row count
reached, or at a segment that does not verify. -/
inductive SegmentLoop where
  | passed (prevHash : String) (totalChecked : Nat)
  | failed (result : SegmentVerificationResult) (prevHash : String) (totalChecked : Nat)
  deriving DecidableEq, Repr

/-- The chain result for a segment that does not verify. -/
def failedResult (result : SegmentVerificationResult) (prevHash : String) (totalChecked : Nat) :
    AuditChainVerificationResult where
  status := .invalid
  reason := result.reason
  checkedRows := totalChecked + result.checkedRows
  lastHash := some prevHash
  brokenRecordId := result.brokenRecordId

/-- The hash of the last record, which the next segment has to name. -/
def lastCurrentHash (prevHash : String) (records : List AuditEventRecord) : String :=
  match records.getLast? with
  | some last => last.currentHash
  | none => prevHash

/-- A segment is taken on trust when its stored checkpoint recomputes. -/
def isTrusted (chainId : Int) (seg : Nat) (stored : ChainCheckpoint) : Except PyError Bool :=
  constantTimeEqual
    (computeCheckpointHash std chainId seg stored.lastRecordId stored.lastCurrentHash)
    stored.checkpointHash

/-- Reading one complete segment, and what the loop goes on with. -/
def readSegment (chainId : Int) (seg : Nat) (records : List AuditEventRecord) (prevHash : String)
    (totalChecked : Nat) (storedCp : Option ChainCheckpoint) : Except PyError SegmentLoop := do
  let result ← verifySegment std chainId seg records prevHash storedCp
  if result.status ≠ .valid then return .failed result prevHash totalChecked
  else return .passed (lastCurrentHash prevHash records) (totalChecked + result.checkedRows)

/-- The body of the loop for segment `seg`. -/
def checkSegment (chainId : Int) (seg : Nat) (records : List AuditEventRecord) (prevHash : String)
    (totalChecked : Nat) (storedCp : Option ChainCheckpoint) : Except PyError SegmentLoop := do
  match storedCp with
  | some stored =>
      if ← isTrusted std chainId seg stored then
        return .passed stored.lastCurrentHash (totalChecked + records.length)
      else readSegment std chainId seg records prevHash totalChecked storedCp
  | none => readSegment std chainId seg records prevHash totalChecked storedCp

/-- The loop over the complete segments. -/
def verifySegments (chainId : Int) (records : List AuditEventRecord)
    (knownCheckpoints : Option (List ChainCheckpoint)) :
    List Nat → String → Nat → Except PyError SegmentLoop
  | [], prevHash, totalChecked => .ok (.passed prevHash totalChecked)
  | seg :: segs, prevHash, totalChecked => do
      match ← checkSegment std chainId seg (segment records seg) prevHash totalChecked
          (cpBySeg knownCheckpoints seg) with
      | .failed result h n => return .failed result h n
      | .passed prevHash totalChecked =>
          verifySegments chainId records knownCheckpoints segs prevHash totalChecked

/-- The result for a chain all of whose parts verify. -/
def chainVerified (nComplete totalChecked : Nat) (prevHash : String) :
    AuditChainVerificationResult where
  status := .valid
  reason := String.ofList ("Chain verified with checkpoints (".toList ++ natText nComplete ++
    " complete segment(s))".toList)
  checkedRows := totalChecked
  lastHash := some prevHash

/-- `verify_chain_with_checkpoints`. -/
def verifyChainWithCheckpoints (chainId : Int) (records : List AuditEventRecord)
    (knownCheckpoints : Option (List ChainCheckpoint)) :
    Except PyError AuditChainVerificationResult :=
  if records.isEmpty then
    .ok { status := .valid, reason := "Chain is empty", checkedRows := 0, lastHash := some zeroHash }
  else do
    let nComplete := records.length / checkpointInterval
    match ← verifySegments std chainId records knownCheckpoints (List.range nComplete)
        zeroHash 0 with
    | .failed result prevHash totalChecked => return failedResult result prevHash totalChecked
    | .passed prevHash totalChecked =>
        let tail := records.drop (nComplete * checkpointInterval)
        if tail.isEmpty then return chainVerified nComplete totalChecked prevHash
        else
          match ← readSegment std chainId nComplete tail prevHash totalChecked none with
          | .failed result prevHash totalChecked =>
              return failedResult result prevHash totalChecked
          | .passed prevHash totalChecked =>
              return chainVerified nComplete totalChecked prevHash

/-! ### Agreement with the plain walk -/

/-- Two answers on the same records agree: in an exception raised, or in the
status, the rows checked and the broken record, and in the last hash when the
records are valid. -/
def SameVerdict : Except PyError AuditChainVerificationResult →
    Except PyError AuditChainVerificationResult → Prop
  | .error e, .error e' => e = e'
  | .ok a, .ok b =>
      a.status = b.status ∧ a.checkedRows = b.checkedRows ∧
        a.brokenRecordId = b.brokenRecordId ∧ (a.status = .valid → a.lastHash = b.lastHash)
  | _, _ => False

/-- The segment loop agrees with a walk over the same records that leaves
`checked` rows behind it. -/
def LoopAgrees (checked : Nat) : Except PyError SegmentLoop → Except PyError Walk → Prop
  | .error e, .error e' => e = e'
  | .ok (.passed prevHash totalChecked), .ok (.intact h) => prevHash = h ∧ totalChecked = checked
  | .ok (.failed result _ totalChecked), .ok (.broken _ index _ recordId) =>
      totalChecked + result.checkedRows = index ∧ result.brokenRecordId = recordId
  | _, _ => False

theorem lastCurrentHash_eq (prevHash : String) (records : List AuditEventRecord) :
    lastCurrentHash prevHash records = endHash prevHash records := by
  rw [endHash, lastHash_eq_getLast?, lastCurrentHash]
  cases records.getLast? <;> rfl

/-- Reading one part without a checkpoint is walking it. -/
theorem readSegment_agrees (chainId : Int) (seg : Nat) (records : List AuditEventRecord)
    (prevHash : String) (totalChecked : Nat) :
    LoopAgrees (totalChecked + records.length)
      (readSegment std chainId seg records prevHash totalChecked none)
      (walkChain std totalChecked prevHash records) := by
  have hshift := walkChain_shift std totalChecked 0 prevHash records
  rw [Nat.add_zero] at hshift
  rw [hshift, readSegment, verifySegment]
  cases hw : walkChain std 0 prevHash records with
  | error e => rfl
  | ok walk =>
      cases walk with
      | broken fault index h recordId => exact ⟨rfl, rfl⟩
      | intact h =>
          refine ⟨?_, rfl⟩
          rw [lastCurrentHash_eq, endHash, lastHash_of_walkChain std hw]

/-- `n` segments from segment `s` on are the first of them followed by the rest. -/
theorem take_segments_succ (records : List AuditEventRecord) (s n : Nat) :
    (records.drop (s * checkpointInterval)).take ((n + 1) * checkpointInterval) =
      segment records s ++
        (records.drop ((s + 1) * checkpointInterval)).take (n * checkpointInterval) := by
  rw [Nat.add_mul n, Nat.one_mul, Nat.add_comm, List.take_add, segment, List.drop_drop,
    Nat.add_mul s, Nat.one_mul]

theorem segment_length {records : List AuditEventRecord} {seg : Nat}
    (h : (seg + 1) * checkpointInterval ≤ records.length) :
    (segment records seg).length = checkpointInterval := by
  rw [segment, List.length_take, List.length_drop]
  rw [Nat.add_mul, Nat.one_mul] at h
  omega

/-- Agreement is kept when both sides carry on from where they are. -/
theorem LoopAgrees.andThen {checked checked' : Nat} {loop : Except PyError SegmentLoop}
    {walk : Except PyError Walk} {loop' : String → Nat → Except PyError SegmentLoop}
    {walk' : String → Except PyError Walk} (h : LoopAgrees checked loop walk)
    (h' : ∀ prevHash, LoopAgrees checked' (loop' prevHash checked) (walk' prevHash)) :
    LoopAgrees checked'
      (do match ← loop with
          | .failed result h n => return .failed result h n
          | .passed prevHash totalChecked => loop' prevHash totalChecked)
      (do match ← walk with
          | .broken fault index h id => return .broken fault index h id
          | .intact h => walk' h) := by
  match loop, walk, h with
  | .error e, .error e', h => exact h
  | .ok (.failed _ _ _), .ok (.broken _ _ _ _), h => exact h
  | .ok (.passed _ _), .ok (.intact _), ⟨rfl, rfl⟩ => exact h' _

/-- Of two sides that agree, one passes when the other is intact. -/
theorem LoopAgrees.passed_iff {checked : Nat} {loop : Except PyError SegmentLoop}
    {walk : Except PyError Walk} (h : LoopAgrees checked loop walk) (prevHash : String) :
    (∃ n, loop = .ok (.passed prevHash n)) ↔ walk = .ok (.intact prevHash) := by
  match loop, walk, h with
  | .error e, .error e', _ => simp
  | .ok (.failed _ _ _), .ok (.broken _ _ _ _), _ => simp
  | .ok (.passed _ _), .ok (.intact _), ⟨rfl, rfl⟩ => simp

/-- The loop over `n` complete segments agrees with the walk over their records.
The induction is on the number of segments left; each turn of the loop re-threads
the hash and the row count that the walk carries on with. -/
theorem verifySegments_agrees {known : Option (List ChainCheckpoint)}
    (hnone : ∀ seg, cpBySeg known seg = none) (chainId : Int) (records : List AuditEventRecord)
    (n s : Nat) (prevHash : String) (totalChecked : Nat)
    (hlen : (s + n) * checkpointInterval ≤ records.length) :
    LoopAgrees (totalChecked + n * checkpointInterval)
      (verifySegments std chainId records known (List.range' s n) prevHash totalChecked)
      (walkChain std totalChecked prevHash
        ((records.drop (s * checkpointInterval)).take (n * checkpointInterval))) := by
  induction n generalizing s prevHash totalChecked with
  | zero =>
      rw [Nat.zero_mul, List.take_zero]
      exact ⟨rfl, rfl⟩
  | succ n ih =>
      have hseg : (segment records s).length = checkpointInterval := by
        refine segment_length (Nat.le_trans (Nat.mul_le_mul_right _ ?_) hlen)
        omega
      rw [take_segments_succ, walkChain_append, List.range'_succ, verifySegments, hnone,
        checkSegment]
      refine (readSegment_agrees std chainId s _ prevHash totalChecked).andThen fun h => ?_
      rw [hseg, Nat.add_mul n 1, Nat.one_mul, Nat.add_comm (n * _), ← Nat.add_assoc]
      refine ih (s + 1) h _ ?_
      rwa [Nat.add_right_comm s 1 n]

/-- The ragged tail, read like a segment unless it is empty. -/
def verifyTail (chainId : Int) (records : List AuditEventRecord) (prevHash : String)
    (totalChecked : Nat) : Except PyError SegmentLoop :=
  let nComplete := records.length / checkpointInterval
  let tail := records.drop (nComplete * checkpointInterval)
  if tail.isEmpty then .ok (.passed prevHash totalChecked)
  else readSegment std chainId nComplete tail prevHash totalChecked none

theorem verifyTail_agrees (chainId : Int) (records : List AuditEventRecord) (prevHash : String)
    (totalChecked : Nat) :
    let tail := records.drop (records.length / checkpointInterval * checkpointInterval)
    LoopAgrees (totalChecked + tail.length) (verifyTail std chainId records prevHash totalChecked)
      (walkChain std totalChecked prevHash tail) := by
  intro tail
  unfold verifyTail
  dsimp only
  split
  · next hnil =>
      have htail : tail = [] := List.isEmpty_iff.mp hnil
      rw [htail]
      exact ⟨rfl, rfl⟩
  · exact readSegment_agrees std chainId _ tail prevHash totalChecked

/-- The verifier is the loop over the complete segments followed by the tail. -/
theorem verifyChainWithCheckpoints_eq (chainId : Int) {records : List AuditEventRecord}
    (known : Option (List ChainCheckpoint)) (hne : records ≠ []) :
    verifyChainWithCheckpoints std chainId records known =
      (do match ← (do match ← verifySegments std chainId records known
                        (List.range (records.length / checkpointInterval)) zeroHash 0 with
                      | .failed result h n => return .failed result h n
                      | .passed prevHash totalChecked =>
                          verifyTail std chainId records prevHash totalChecked) with
          | .failed result prevHash totalChecked =>
              return failedResult result prevHash totalChecked
          | .passed prevHash totalChecked =>
              return chainVerified (records.length / checkpointInterval) totalChecked prevHash) := by
  unfold verifyChainWithCheckpoints
  rw [if_neg (by simpa using hne)]
  dsimp only
  cases verifySegments std chainId records known
      (List.range (records.length / checkpointInterval)) zeroHash 0 with
  | error e => rfl
  | ok loop =>
      cases loop with
      | failed result prevHash totalChecked => rfl
      | passed prevHash totalChecked =>
          simp only [Except.ok_bind, verifyTail]
          split <;> rfl

/-- A loop that agrees with the walk over all records gives the same verdict. -/
theorem LoopAgrees.sameVerdict {records : List AuditEventRecord}
    {loop : Except PyError SegmentLoop} {nComplete : Nat}
    (h : LoopAgrees records.length loop (walkChain std 0 zeroHash records)) :
    SameVerdict
      (do match ← loop with
          | .failed result prevHash totalChecked =>
              return failedResult result prevHash totalChecked
          | .passed prevHash totalChecked =>
              return chainVerified nComplete totalChecked prevHash)
      (verifySingleChain std records) := by
  unfold verifySingleChain
  match loop, walkChain std 0 zeroHash records, h with
  | .error e, .error e', h => exact h
  | .ok (.failed _ _ _), .ok (.broken _ _ _ _), ⟨hrows, hid⟩ =>
      exact ⟨rfl, hrows, hid, fun hv => nomatch hv⟩
  | .ok (.passed _ _), .ok (.intact _), ⟨rfl, rfl⟩ => exact ⟨rfl, rfl, rfl, fun _ => rfl⟩

/-- A verifier that finds no checkpoint for any segment walks the chain. -/
theorem sameVerdict_of_cpBySeg_none {known : Option (List ChainCheckpoint)}
    (hnone : ∀ seg, cpBySeg known seg = none) (chainId : Int) (records : List AuditEventRecord) :
    SameVerdict (verifyChainWithCheckpoints std chainId records known)
      (verifySingleChain std records) := by
  by_cases hne : records = []
  · subst hne
    exact ⟨rfl, rfl, rfl, fun _ => rfl⟩
  · rw [verifyChainWithCheckpoints_eq std chainId known hne]
    refine LoopAgrees.sameVerdict std ?_
    have hcomplete : records.length / checkpointInterval * checkpointInterval ≤ records.length :=
      Nat.div_mul_le_self ..
    have hloop := verifySegments_agrees std hnone chainId records
      (records.length / checkpointInterval) 0 zeroHash 0 (by rwa [Nat.zero_add])
    rw [Nat.zero_mul, List.drop_zero, ← List.range_eq_range'] at hloop
    have hwhole := hloop.andThen fun prevHash =>
      verifyTail_agrees std chainId records prevHash
        (0 + records.length / checkpointInterval * checkpointInterval)
    have htake : (records.take (records.length / checkpointInterval * checkpointInterval)).length =
        records.length / checkpointInterval * checkpointInterval := by
      rw [List.length_take, Nat.min_eq_left hcomplete]
    have hsplit := walkChain_append std 0 zeroHash
      (records.take (records.length / checkpointInterval * checkpointInterval))
      (records.drop (records.length / checkpointInterval * checkpointInterval))
    rw [List.take_append_drop, htake] at hsplit
    rw [List.length_drop, Nat.zero_add, Nat.add_sub_cancel' hcomplete] at hwhole
    rw [Nat.zero_add] at hsplit
    rw [hsplit]
    exact hwhole

/-- **Without checkpoints the segmented verifier is the plain one**, whatever the
number of records and however the absence of checkpoints is spelled. -/
theorem verifyChainWithCheckpoints_without_checkpoints (chainId : Int)
    (records : List AuditEventRecord) :
    SameVerdict (verifyChainWithCheckpoints std chainId records none)
        (verifySingleChain std records) ∧
      SameVerdict (verifyChainWithCheckpoints std chainId records (some []))
        (verifySingleChain std records) :=
  ⟨sameVerdict_of_cpBySeg_none std (fun _ => rfl) chainId records,
    sameVerdict_of_cpBySeg_none std (fun _ => rfl) chainId records⟩

end Vrl

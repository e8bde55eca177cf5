import Vrl.Lib.HashChain
import Vrl.Utils.Canonical

/-!
# Vrl.Core.AuditChain

The append-only audit log and its verification (`core/audit_chain.py`).

Each event carries the hash of the event before it in its chain and a hash of
its own, taken over the previous hash and the canonical text of its contents.
`verifySingleChain` walks one chain from `zeroHash`; `verifyAuditChain` does so
for every partition of a log.

The walk is the common core of the two verifiers of the repository (the other
one works segment by segment), so it is a function of its own, `walkChain`, and
**`walkChain_intact_iff`** says once what it checks: the records are a hash chain
in the sense of `HashChain.Linked`.
-/

open TextCodec HashChain

namespace Vrl

variable (std : PyStd)

/-! ### Records and their hashes -/

/-- `ZERO_HASH`: what the first event of a chain names as its predecessor. -/
def zeroHash : String := "0000000000000000000000000000000000000000000000000000000000000000"

theorem zeroHash_isAscii : IsAscii zeroHash.toList := by
  have h : zeroHash = String.ofList (List.replicate 64 '0') := by decide
  rw [h, String.toList_ofList]
  decide

/-- `AuditEventRecord`: a row of the audit log. -/
structure AuditEventRecord where
  id : Option Int := none
  chainId : Int := 0
  eventType : String
  referenceId : Option Uuid := none
  eventPayload : List (String × PyVal)
  prevHash : String
  currentHash : String
  createdAt : DateTime

/-- `str(reference_id) if reference_id is not None else None`. -/
def optionalUuid : Option Uuid → PyVal
  | some u => .str (String.ofList u.text)
  | none => .none

/-- `audit_hash_payload`: the members an event's hash is taken over. -/
def auditHashPayload (eventType : String) (referenceId : Option Uuid)
    (eventPayload : List (String × PyVal)) (createdAt : DateTime) :
    Except PyError (List (String × PyVal)) := do
  let created ← utcIsoformat createdAt
  return [("event_type", .str eventType),
    ("reference_id", optionalUuid referenceId),
    ("event_payload", .dict eventPayload),
    ("created_at", .str created)]

/-- `compute_audit_hash`. -/
def computeAuditHash (prevHash eventType : String) (referenceId : Option Uuid)
    (eventPayload : List (String × PyVal)) (createdAt : DateTime) : Except PyError String := do
  let members ← auditHashPayload eventType referenceId eventPayload createdAt
  let payload ← canonicalJson std (.dict members)
  return sha256Hex std (prevHash ++ payload)

/-- The hash that an event's own contents give. -/
def AuditEventRecord.expectedHash (r : AuditEventRecord) : Except PyError String :=
  computeAuditHash std r.prevHash r.eventType r.referenceId r.eventPayload r.createdAt

/-- `build_audit_event`. -/
def buildAuditEvent (eventType : String) (referenceId : Option Uuid)
    (eventPayload : List (String × PyVal)) (prevHash : String) (createdAt : DateTime)
    (chainId : Int) (id : Option Int) : Except PyError AuditEventRecord := do
  let currentHash ← computeAuditHash std prevHash eventType referenceId eventPayload createdAt
  return { id, chainId, eventType, referenceId, eventPayload, prevHash, currentHash, createdAt }

/-- The event carries the hash of its own contents. -/
def AuditEventRecord.IsSealed (r : AuditEventRecord) : Prop :=
  r.expectedHash std = .ok r.currentHash

theorem computeAuditHash_isAscii {prevHash eventType h : String} {referenceId : Option Uuid}
    {eventPayload : List (String × PyVal)} {createdAt : DateTime}
    (hh : computeAuditHash std prevHash eventType referenceId eventPayload createdAt = .ok h) :
    IsAscii h.toList := by
  obtain ⟨members, -, hh⟩ := Except.bind_eq_ok_iff.mp hh
  obtain ⟨payload, -, hh⟩ := Except.bind_eq_ok_iff.mp hh
  cases hh
  exact std.isAscii_hexdigest _

/-- An event can be hashed when its time and its payload can be written. -/
theorem computeAuditHash_ok {eventPayload : List (String × PyVal)} {createdAt : DateTime}
    (hp : ∃ j, canonicalize std (.dict eventPayload) = .ok j)
    (ht : ∃ s, utcIsoformat createdAt = .ok s) (prevHash eventType : String)
    (referenceId : Option Uuid) :
    ∃ h, computeAuditHash std prevHash eventType referenceId eventPayload createdAt = .ok h := by
  obtain ⟨j, hj⟩ := hp
  obtain ⟨created, hcreated⟩ := ht
  cases hm : auditHashPayload eventType referenceId eventPayload createdAt with
  | error e =>
      rw [auditHashPayload, hcreated] at hm
      cases hm
  | ok members =>
      have hall : ∀ k v, (k, v) ∈ members → ∃ j, canonicalize std v = .ok j := by
        rw [auditHashPayload, hcreated] at hm
        cases hm
        intro k v hkv
        simp only [List.mem_cons, Prod.mk.injEq, List.not_mem_nil, or_false] at hkv
        rcases hkv with ⟨-, rfl⟩ | ⟨-, rfl⟩ | ⟨-, rfl⟩ | ⟨-, rfl⟩
        · exact ⟨_, rfl⟩
        · cases referenceId <;> exact ⟨_, rfl⟩
        · exact ⟨j, hj⟩
        · exact ⟨_, rfl⟩
      obtain ⟨payload, hpayload⟩ := canonicalJson_dict_ok std hall
      refine ⟨sha256Hex std (prevHash ++ payload), ?_⟩
      rw [computeAuditHash, hm, Except.ok_bind, hpayload]
      rfl

/-- A built event is sealed, and names the hash it was built on. -/
theorem buildAuditEvent_isSealed {eventType prevHash : String} {referenceId : Option Uuid}
    {eventPayload : List (String × PyVal)} {createdAt : DateTime} {chainId : Int}
    {id : Option Int} {r : AuditEventRecord}
    (h : buildAuditEvent std eventType referenceId eventPayload prevHash createdAt chainId id =
      .ok r) :
    r.IsSealed std ∧ r.prevHash = prevHash ∧ r.chainId = chainId ∧ r.id = id := by
  obtain ⟨currentHash, hc, h⟩ := Except.bind_eq_ok_iff.mp h
  cases h
  exact ⟨hc, rfl, rfl, rfl⟩

/-! ### Walking a chain -/

/-- What can be wrong with a record of a chain. -/
inductive RecordFault where
  | previousHash
  | currentHash
  deriving DecidableEq, Repr

/-- Both checks of one record: it names the previous hash, and its own hash
recomputes. The second is not made when the first fails. -/
def checkRecord (previousHash : String) (record : AuditEventRecord) :
    Except PyError (Option RecordFault) := do
  if ← constantTimeEqual record.prevHash previousHash then
    let expectedHash ← record.expectedHash std
    if ← constantTimeEqual record.currentHash expectedHash then return none
    else return some .currentHash
  else return some .previousHash

/-- How the walk over a chain ends. -/
inductive Walk where
  | intact (lastHash : String)
  | broken (fault : RecordFault) (index : Nat) (previousHash : String) (recordId : Option Int)
  deriving DecidableEq, Repr

/-- The loop over the records of a chain, from row `index` with the hash
`previousHash`. -/
def walkChain : Nat → String → List AuditEventRecord → Except PyError Walk
  | _, previousHash, [] => .ok (.intact previousHash)
  | index, previousHash, record :: records => do
      match ← checkRecord std previousHash record with
      | some fault => return .broken fault index previousHash record.id
      | none => walkChain (index + 1) record.currentHash records

/-- A record passes both checks exactly when it continues the chain. -/
theorem checkRecord_none_iff {previousHash : String} {record : AuditEventRecord}
    (hp : IsAscii previousHash.toList) :
    checkRecord std previousHash record = .ok none ↔
      record.prevHash = previousHash ∧ record.IsSealed std := by
  constructor
  · intro h
    obtain ⟨prevOk, hprev, h⟩ := Except.bind_eq_ok_iff.mp h
    cases prevOk with
    | false => cases h
    | true =>
        obtain ⟨expectedHash, hexp, h⟩ := Except.bind_eq_ok_iff.mp h
        obtain ⟨curOk, hcur, h⟩ := Except.bind_eq_ok_iff.mp h
        cases curOk with
        | false => cases h
        | true =>
            refine ⟨compareDigest_eq_true hprev, ?_⟩
            rw [AuditEventRecord.IsSealed, hexp, compareDigest_eq_true hcur]
  · rintro ⟨rfl, hs⟩
    have hcur : IsAscii record.currentHash.toList := computeAuditHash_isAscii std hs
    rw [AuditEventRecord.IsSealed] at hs
    simp [checkRecord, constantTimeEqual, compareDigest_self hp, hs, compareDigest_self hcur]

/-- **What the walk checks.** It runs through, ending at the hash `h`, exactly
when the records are a chain from `previousHash` to `h`. -/
theorem walkChain_intact_iff {index : Nat} {previousHash h : String}
    {records : List AuditEventRecord} (hp : IsAscii previousHash.toList) :
    walkChain std index previousHash records = .ok (.intact h) ↔
      Linked AuditEventRecord.prevHash AuditEventRecord.currentHash
          (AuditEventRecord.IsSealed std) previousHash records ∧
        h = lastHash AuditEventRecord.currentHash previousHash records := by
  induction records generalizing index previousHash with
  | nil =>
      simp only [walkChain, Except.ok.injEq, Walk.intact.injEq, linked_nil, true_and, lastHash_nil]
      exact eq_comm
  | cons record records ih =>
      rw [walkChain, linked_cons, lastHash_cons]
      constructor
      · intro h
        obtain ⟨fault, hc, h⟩ := Except.bind_eq_ok_iff.mp h
        cases fault with
        | some fault => cases h
        | none =>
            obtain ⟨hprev, hs⟩ := (checkRecord_none_iff std hp).mp hc
            obtain ⟨hlink, hh⟩ := (ih (computeAuditHash_isAscii std hs)).mp h
            exact ⟨⟨hprev, hs, hlink⟩, hh⟩
      · rintro ⟨⟨hprev, hs, hlink⟩, hh⟩
        rw [(checkRecord_none_iff std hp).mpr ⟨hprev, hs⟩, Except.ok_bind]
        exact (ih (computeAuditHash_isAscii std hs)).mpr ⟨hlink, hh⟩

/-- A chain from an ASCII hash ends with an ASCII hash. -/
theorem isAscii_lastHash {start : String} {records : List AuditEventRecord}
    (hs : IsAscii start.toList)
    (hl : Linked AuditEventRecord.prevHash AuditEventRecord.currentHash
      (AuditEventRecord.IsSealed std) start records) :
    IsAscii (lastHash AuditEventRecord.currentHash start records).toList := by
  induction records generalizing start with
  | nil => exact hs
  | cons record records ih => exact ih (computeAuditHash_isAscii std hl.2.1) hl.2.2

/-- The hash an unbroken walk ends with, whatever it started from. -/
theorem lastHash_of_walkChain {index : Nat} {previousHash h : String}
    {records : List AuditEventRecord}
    (hw : walkChain std index previousHash records = .ok (.intact h)) :
    h = lastHash AuditEventRecord.currentHash previousHash records := by
  induction records generalizing index previousHash with
  | nil =>
      cases hw
      rfl
  | cons record records ih =>
      obtain ⟨fault, -, hw⟩ := Except.bind_eq_ok_iff.mp hw
      cases fault with
      | some fault => cases hw
      | none => exact ih hw

/-- Walking two parts one after the other: the second is only entered when the
first is intact. -/
theorem walkChain_append (index : Nat) (previousHash : String) (rs ss : List AuditEventRecord) :
    walkChain std index previousHash (rs ++ ss) =
      (do match ← walkChain std index previousHash rs with
          | .broken fault i h id => return .broken fault i h id
          | .intact h => walkChain std (index + rs.length) h ss) := by
  induction rs generalizing index previousHash with
  | nil => rfl
  | cons r rs ih =>
      rw [List.cons_append, walkChain, walkChain]
      cases checkRecord std previousHash r with
      | error e => rfl
      | ok fault =>
          cases fault with
          | some fault => rfl
          | none =>
              simp only [Except.ok_bind, ih, List.length_cons, Nat.add_right_comm, Nat.add_assoc]

/-- The same outcome, reported `offset` rows further on. -/
def Walk.shift (offset : Nat) : Walk → Walk
  | .intact h => .intact h
  | .broken fault index previousHash recordId =>
      .broken fault (offset + index) previousHash recordId

/-- The row a walk starts at only shows in the row it reports. -/
theorem walkChain_shift (offset index : Nat) (previousHash : String)
    (records : List AuditEventRecord) :
    walkChain std (offset + index) previousHash records =
      (do return (← walkChain std index previousHash records).shift offset) := by
  induction records generalizing index previousHash with
  | nil => rfl
  | cons record records ih =>
      rw [walkChain, walkChain]
      cases checkRecord std previousHash record with
      | error e => rfl
      | ok fault =>
          cases fault with
          | some fault => rfl
          | none =>
              simp only [Except.ok_bind]
              rw [Nat.add_assoc, ih]

/-! ### Verification -/

/-- The status of a verification result. -/
inductive ChainStatus where
  | valid
  | invalid
  deriving DecidableEq, Repr

/-- `AuditChainVerificationResult`. -/
structure AuditChainVerificationResult where
  status : ChainStatus
  reason : String
  checkedRows : Nat
  lastHash : Option String := none
  brokenRecordId : Option Int := none
  deriving DecidableEq, Repr

/-- `_verify_single_chain`: validate one partition's chain. -/
def verifySingleChain (records : List AuditEventRecord) :
    Except PyError AuditChainVerificationResult := do
  match ← walkChain std 0 zeroHash records with
  | .broken fault index previousHash recordId =>
      return {
        status := .invalid
        reason := match fault with
          | .previousHash => "Previous hash mismatch detected in audit chain"
          | .currentHash => "Current hash mismatch detected in audit chain"
        checkedRows := index
        lastHash := some previousHash
        brokenRecordId := recordId }
  | .intact previousHash =>
      return {
        status := .valid
        reason := "Audit chain verified successfully"
        checkedRows := records.length
        lastHash := some previousHash }

/-- The records grouped by chain, the chains in ascending order, the records of
each in the order given. -/
def groupByChain (records : List AuditEventRecord) : List (List AuditEventRecord) :=
  ((records.map (·.chainId)).dedup.insertionSort (· ≤ ·)).map fun cid =>
    records.filter fun record => record.chainId == cid

/-- The loop of `verify_audit_chain` over the chains: the first result that is
not valid, or the number of rows checked. -/
def verifyChains : Nat → List (List AuditEventRecord) →
    Except PyError (Nat ⊕ AuditChainVerificationResult)
  | totalChecked, [] => .ok (.inl totalChecked)
  | totalChecked, chain :: chains => do
      let result ← verifySingleChain std chain
      if result.status ≠ .valid then return .inr result
      else verifyChains (totalChecked + result.checkedRows) chains

/-- `verify_audit_chain`: validate all partition chains. -/
def verifyAuditChain (records : List AuditEventRecord) :
    Except PyError AuditChainVerificationResult :=
  match records.getLast? with
  | none =>
      .ok {
        status := .valid
        reason := "Audit chain is empty"
        checkedRows := 0
        lastHash := some zeroHash }
  | some last => do
      let chains := groupByChain records
      match ← verifyChains std 0 chains with
      | .inr result => return result
      | .inl totalChecked =>
          return {
            status := .valid
            reason := String.ofList ("All ".toList ++ natText chains.length ++
              " audit chain partition(s) verified successfully".toList)
            checkedRows := totalChecked
            lastHash := some last.currentHash }

/-- A verifier's answer is that the records are valid. -/
def IsValid (answer : Except PyError AuditChainVerificationResult) : Prop :=
  ∃ result, answer = .ok result ∧ result.status = .valid

/-- A chain in the sense of `HashChain`, made of sealed audit events. -/
abbrev IsChain (start : String) (records : List AuditEventRecord) : Prop :=
  Linked AuditEventRecord.prevHash AuditEventRecord.currentHash
    (AuditEventRecord.IsSealed std) start records

/-- The hash a list of audit events ends with. -/
abbrev endHash (start : String) (records : List AuditEventRecord) : String :=
  lastHash AuditEventRecord.currentHash start records

/-- A valid answer of `verifySingleChain` in full. -/
theorem verifySingleChain_valid_iff {records : List AuditEventRecord}
    {result : AuditChainVerificationResult} :
    verifySingleChain std records = .ok result ∧ result.status = .valid ↔
      IsChain std zeroHash records ∧
        result = {
          status := .valid
          reason := "Audit chain verified successfully"
          checkedRows := records.length
          lastHash := some (endHash zeroHash records) } := by
  constructor
  · rintro ⟨h, hstatus⟩
    obtain ⟨walk, hwalk, h⟩ := Except.bind_eq_ok_iff.mp h
    cases walk with
    | broken fault index previousHash recordId =>
        cases h
        cases hstatus
    | intact previousHash =>
        obtain ⟨hchain, rfl⟩ := (walkChain_intact_iff std zeroHash_isAscii).mp hwalk
        cases h
        exact ⟨hchain, rfl⟩
  · rintro ⟨hchain, rfl⟩
    have hwalk : walkChain std 0 zeroHash records = .ok (.intact (endHash zeroHash records)) :=
      (walkChain_intact_iff std zeroHash_isAscii).mpr ⟨hchain, rfl⟩
    simp [verifySingleChain, hwalk]

/-- **`verifySingleChain` decides whether the records are a chain.** -/
theorem isValid_verifySingleChain_iff {records : List AuditEventRecord} :
    IsValid (verifySingleChain std records) ↔ IsChain std zeroHash records := by
  constructor
  · rintro ⟨result, h⟩
    exact ((verifySingleChain_valid_iff std).mp h).1
  · intro h
    exact ⟨_, (verifySingleChain_valid_iff std).mpr ⟨h, rfl⟩⟩

theorem verifyChains_inl {chains : List (List AuditEventRecord)} (totalChecked : Nat)
    (h : ∀ chain ∈ chains, IsChain std zeroHash chain) :
    ∃ n, verifyChains std totalChecked chains = .ok (.inl n) := by
  induction chains generalizing totalChecked with
  | nil => exact ⟨totalChecked, rfl⟩
  | cons chain chains ih =>
      obtain ⟨result, hok, hstatus⟩ :=
        (isValid_verifySingleChain_iff std).mpr (h chain (List.mem_cons_self ..))
      obtain ⟨n, hn⟩ := ih (totalChecked + result.checkedRows)
        fun c hc => h c (List.mem_cons_of_mem _ hc)
      refine ⟨n, ?_⟩
      rw [verifyChains, hok, Except.ok_bind, if_neg (by simp [hstatus]), hn]

/-- A log whose partitions are all chains is reported valid. -/
theorem isValid_verifyAuditChain {records : List AuditEventRecord}
    (h : ∀ cid, IsChain std zeroHash (records.filter fun record => record.chainId == cid)) :
    IsValid (verifyAuditChain std records) := by
  unfold verifyAuditChain
  cases records.getLast? with
  | none => exact ⟨_, rfl, rfl⟩
  | some last =>
      have hchains : ∀ chain ∈ groupByChain records, IsChain std zeroHash chain := by
        intro chain hchain
        obtain ⟨cid, -, rfl⟩ := List.mem_map.mp hchain
        exact h cid
      obtain ⟨n, hn⟩ := verifyChains_inl std 0 hchains
      dsimp only
      rw [hn]
      exact ⟨_, rfl, rfl⟩

/-- The loop over the chains ends with a broken chain, or all of them are chains. -/
theorem verifyChains_cases {chains : List (List AuditEventRecord)} {totalChecked : Nat}
    {answer : Nat ⊕ AuditChainVerificationResult}
    (h : verifyChains std totalChecked chains = .ok answer) :
    (∃ n, answer = .inl n ∧ ∀ chain ∈ chains, IsChain std zeroHash chain) ∨
      ∃ result, answer = .inr result ∧ result.status = .invalid := by
  induction chains generalizing totalChecked with
  | nil =>
      cases h
      exact .inl ⟨totalChecked, rfl, by simp⟩
  | cons chain chains ih =>
      obtain ⟨result, hok, h⟩ := Except.bind_eq_ok_iff.mp h
      by_cases hstatus : result.status = .valid
      · rw [if_neg (by simp [hstatus])] at h
        have hchain := (isValid_verifySingleChain_iff std).mp ⟨result, hok, hstatus⟩
        rcases ih h with ⟨n, hn, hall⟩ | hbroken
        · exact .inl ⟨n, hn, List.forall_mem_cons.mpr ⟨hchain, hall⟩⟩
        · exact .inr hbroken
      · rw [if_pos hstatus] at h
        cases h
        refine .inr ⟨result, rfl, ?_⟩
        cases hresult : result.status with
        | valid => exact absurd hresult hstatus
        | invalid => rfl

/-- The partition of a chain, which is empty where the log has no record of it. -/
theorem filter_mem_groupByChain (records : List AuditEventRecord) (cid : Int) :
    (records.filter fun record => record.chainId == cid) ∈ groupByChain records ∨
      (records.filter fun record => record.chainId == cid) = [] := by
  by_cases hcid : cid ∈ records.map (·.chainId)
  · left
    rw [groupByChain, List.mem_map]
    exact ⟨cid, (List.mem_insertionSort _).mpr (List.mem_dedup.mpr hcid), rfl⟩
  · right
    rw [List.filter_eq_nil_iff]
    intro r hr hchain
    simp only [beq_iff_eq] at hchain
    exact hcid (List.mem_map.mpr ⟨r, hr, hchain⟩)

/-- **A log is reported valid exactly if all its partitions are chains.** -/
theorem isValid_verifyAuditChain_iff {records : List AuditEventRecord} :
    IsValid (verifyAuditChain std records) ↔
      ∀ cid, IsChain std zeroHash (records.filter fun record => record.chainId == cid) := by
  constructor
  · intro ⟨result, hok, hstatus⟩ cid
    rw [verifyAuditChain] at hok
    cases hlast : records.getLast? with
    | none =>
        rw [List.getLast?_eq_none_iff.mp hlast]
        exact linked_nil ..
    | some last =>
        rw [hlast] at hok
        obtain ⟨answer, hanswer, hok⟩ := Except.bind_eq_ok_iff.mp hok
        rcases verifyChains_cases std hanswer with ⟨n, rfl, hall⟩ | ⟨broken, rfl, hbroken⟩
        · rcases filter_mem_groupByChain records cid with hmem | hnil
          · exact hall _ hmem
          · rw [hnil]
            exact linked_nil ..
        · cases hok
          rw [hbroken] at hstatus
          cases hstatus
  · exact isValid_verifyAuditChain std

/-! ### Verification that does not raise -/

/-- A record whose checks do not raise. -/
def AuditEventRecord.IsCheckable (r : AuditEventRecord) : Prop :=
  r.IsSealed std ∧ IsAscii r.prevHash.toList

theorem checkRecord_ok {previousHash : String} {record : AuditEventRecord}
    (hp : IsAscii previousHash.toList) (h : record.IsCheckable std) :
    ∃ fault, checkRecord std previousHash record = .ok fault := by
  obtain ⟨hsealed, hascii⟩ := h
  have hcur : IsAscii record.currentHash.toList := computeAuditHash_isAscii std hsealed
  rw [AuditEventRecord.IsSealed] at hsealed
  have hprev : constantTimeEqual record.prevHash previousHash =
      .ok (decide (record.prevHash = previousHash)) := compareDigest_ascii hascii hp
  rw [checkRecord, hprev, Except.ok_bind]
  split
  · rw [hsealed, Except.ok_bind, constantTimeEqual, compareDigest_self hcur]
    exact ⟨_, rfl⟩
  · exact ⟨_, rfl⟩

theorem walkChain_ok {records : List AuditEventRecord} (h : ∀ r ∈ records, r.IsCheckable std)
    (index : Nat) {previousHash : String} (hp : IsAscii previousHash.toList) :
    ∃ walk, walkChain std index previousHash records = .ok walk := by
  induction records generalizing index previousHash with
  | nil => exact ⟨_, rfl⟩
  | cons record records ih =>
      rw [List.forall_mem_cons] at h
      obtain ⟨fault, hfault⟩ := checkRecord_ok std hp h.1
      rw [walkChain, hfault, Except.ok_bind]
      cases fault with
      | some fault => exact ⟨_, rfl⟩
      | none => exact ih h.2 (index + 1) (computeAuditHash_isAscii std h.1.1)

theorem verifyChains_ok {chains : List (List AuditEventRecord)}
    (h : ∀ chain ∈ chains, ∀ r ∈ chain, r.IsCheckable std) (totalChecked : Nat) :
    ∃ answer, verifyChains std totalChecked chains = .ok answer := by
  induction chains generalizing totalChecked with
  | nil => exact ⟨_, rfl⟩
  | cons chain chains ih =>
      rw [List.forall_mem_cons] at h
      obtain ⟨walk, hwalk⟩ := walkChain_ok std h.1 0 zeroHash_isAscii
      rw [verifyChains, verifySingleChain, hwalk, Except.ok_bind]
      cases walk with
      | broken fault index previousHash recordId => exact ⟨_, rfl⟩
      | intact previousHash => exact ih h.2 _

/-- **A log of sealed records is valid or invalid.** -/
theorem verifyAuditChain_ok {records : List AuditEventRecord}
    (h : ∀ r ∈ records, r.IsCheckable std) :
    ∃ result, verifyAuditChain std records = .ok result := by
  rw [verifyAuditChain]
  cases records.getLast? with
  | none => exact ⟨_, rfl⟩
  | some last =>
      have hchains : ∀ chain ∈ groupByChain records, ∀ r ∈ chain, r.IsCheckable std := by
        intro chain hchain r hr
        obtain ⟨cid, -, rfl⟩ := List.mem_map.mp hchain
        exact h r (List.mem_of_mem_filter hr)
      obtain ⟨answer, hanswer⟩ := verifyChains_ok std hchains 0
      simp only [hanswer, Except.ok_bind]
      cases answer with
      | inl totalChecked => exact ⟨_, rfl⟩
      | inr result => exact ⟨_, rfl⟩

/-- A verifier's answer is that the records are invalid. -/
def IsInvalid (answer : Except PyError AuditChainVerificationResult) : Prop :=
  ∃ result, answer = .ok result ∧ result.status = .invalid

/-- Without an exception the answer is one or the other. -/
theorem isInvalid_iff_not_isValid {answer : Except PyError AuditChainVerificationResult}
    (h : ∃ result, answer = .ok result) : IsInvalid answer ↔ ¬ IsValid answer := by
  obtain ⟨result, rfl⟩ := h
  cases hstatus : result.status with
  | valid => simp [IsInvalid, IsValid, hstatus]
  | invalid => simp [IsInvalid, IsValid, hstatus]

end Vrl

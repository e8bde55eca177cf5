import Vrl.App.EvidenceLog
import Vrl.App.Verification

/-!
# Vrl.App.VerifiedEvidence

What is known of evidence that is reported valid (`app/services/evidence_service.py`).

The query joins result, proof and event to the request by their identifiers, so these are not
those of another request (**`Db.joined_of_fetch`**). Two columns of the proof row, the input of
the bundle and the hashes in its proof are compared with nothing (**`isWrittenFor_iff`**).
-/

open TextCodec Pydantic

namespace Vrl

open Zk

variable (std : PyStd) (backend : Backend)

/-! ### What the query joins -/

/-- The latest event that refers to a request refers to it. -/
theorem Db.mem_of_latestEventOf {db : Db} {requestId : Uuid} {event : AuditEventRecord}
    (h : db.latestEventOf requestId = some event) :
    event ∈ db.auditLog ∧ event.referenceId = some requestId := by
  have hmem := (List.mem_insertionSort _).mp (List.mem_of_getLast? h)
  obtain ⟨hlog, href⟩ := List.mem_filter.mp hmem
  exact ⟨hlog, by simpa using href⟩

/-- **Result, proof and event of fetched evidence refer to its request.** -/
theorem Db.joined_of_fetch {db : Db} {inputHash : String} {evidence : PersistedEvidenceBundle}
    (h : db.fetchByInputHash inputHash = some evidence) :
    evidence.result.requestId = evidence.request.id ∧
      evidence.proof.requestId = evidence.request.id ∧
      ∀ event, evidence.auditLog = some event →
        event.referenceId = some evidence.request.id := by
  have hmem := List.mem_of_head? h
  simp only [bundleRows, List.mem_flatMap, List.mem_map, List.mem_filter, beq_iff_eq] at hmem
  obtain ⟨request, -, result, ⟨-, hresult⟩, proof, ⟨-, hproof⟩, rfl⟩ := hmem
  exact ⟨hresult, hproof, fun event hevent => (mem_of_latestEventOf hevent).2⟩

/-! ### Soundness of verification -/

/-- The evidence is the one that is written for the request. -/
structure IsWrittenFor (request : ImportCalculationRequest) (recomputed : CalculationResponse)
    (evidence : PersistedEvidenceBundle) : Prop where
  integrityHash : evidence.proof.integrityHash = recomputed.integrity.integrityHash
  verificationKeyHash : ∃ circuit, compileCircuit std = .ok circuit ∧
    verificationKeyHash std backend circuit.circuitHash = .ok evidence.proof.verificationKeyHash
  input : ∃ value, getItem evidence.proof.proofBundle "input" = .ok value ∧
    ImportCalculationRequest.modelValidate std value = .ok request
  bundledProof : ∃ value zkProof, getItem evidence.proof.proofBundle "proof" = .ok value ∧
    Proof.modelValidate std value = .ok zkProof ∧
    zkProof.traceHash = recomputed.integrity.traceHash ∧
    zkProof.inputHash = recomputed.integrity.inputHash ∧
    zkProof.outputHash = recomputed.integrity.outputHash
  resultOf : evidence.result.requestId = evidence.request.id
  proofOf : evidence.proof.requestId = evidence.request.id
  auditLog : ∀ event, evidence.auditLog = some event → event.referenceId = some evidence.request.id

/-- What nothing compares: two columns of the proof row with the columns and the bundle that they
belong to, the input of the bundle with the request, and the proof with the bundle it is in. -/
structure AgreesUnchecked (request : ImportCalculationRequest)
    (evidence : PersistedEvidenceBundle) : Prop where
  integrityHash : evidence.proof.integrityHash = sha256Hex std
    (evidence.request.inputHash ++ evidence.result.outputHash ++ evidence.proof.traceHash)
  verificationKeyHash : getItem evidence.proof.proofBundle "verification_key_hash" =
    .ok (.str evidence.proof.verificationKeyHash)
  input : ∃ value, getItem evidence.proof.proofBundle "input" = .ok value ∧
    ImportCalculationRequest.modelValidate std value = .ok request
  carries : ∃ zkProof, bundleProof std evidence.proof.proofBundle = .ok zkProof ∧
    CarriesHashes std evidence.proof.proofBundle zkProof

variable {std backend}

/-- The verification key hash of a valid bundle is the current one. -/
theorem verificationKeyHash_of_hashesRight {bundle : List (String × PyVal)}
    {packet : DeterministicTracePacket std} (h : HashesRight std backend bundle packet) :
    ∃ circuit vkHash, compileCircuit std = .ok circuit ∧
      verificationKeyHash std backend circuit.circuitHash = .ok vkHash ∧
      getItem bundle "verification_key_hash" = .ok (.str vkHash) := by
  obtain ⟨circuit, vkHash, hcircuit, hvk, hall⟩ := h
  have hmem : ("verification_key_hash", vkHash) ∈
      expectedHashes std packet circuit.circuitHash vkHash := by
    simp [expectedHashes]
  exact ⟨circuit, vkHash, hcircuit, hvk, bundleHashEqual_eq_true (hall _ hmem)⟩

/-- A bundle whose input is the request is recomputed as the request is. -/
theorem response_of_input {bundle : List (String × PyVal)} {packet : DeterministicTracePacket std}
    {zkProof : Proof std} (hreads : Reads std bundle packet zkProof)
    {request : ImportCalculationRequest} {recomputed : CalculationResponse}
    (hrecomputed : calculateImportLandedCost std request = .ok recomputed)
    (hinput : ∃ value, getItem bundle "input" = .ok value ∧
      ImportCalculationRequest.modelValidate std value = .ok request) :
    packet.response = recomputed ∧
      packet.traceArtifact.traceHash = recomputed.integrity.traceHash := by
  obtain ⟨value, hvalue, hrequest⟩ := hinput
  obtain ⟨value', hvalue', hpacket⟩ := hreads.packet
  rw [hvalue] at hvalue'
  cases hvalue'
  obtain ⟨hrequest', hcoherent⟩ := buildTracePacket_inv hpacket
  rw [hrequest] at hrequest'
  have hresponse := hcoherent.response
  rw [← Except.ok.inj hrequest', hrecomputed] at hresponse
  rw [hcoherent.traceHash, ← Except.ok.inj hresponse]
  exact ⟨rfl, rfl⟩

/-- Evidence that corresponds to the request is the one that is written for it exactly if it agrees
where nothing is checked. -/
theorem isWrittenFor_iff {request : ImportCalculationRequest} {recomputed : CalculationResponse}
    {evidence : PersistedEvidenceBundle} (hcanonical : request.IsCanonical)
    (hrecomputed : calculateImportLandedCost std request = .ok recomputed)
    (h : Corresponds std backend request recomputed evidence)
    (hresult : evidence.result.requestId = evidence.request.id)
    (hproof : evidence.proof.requestId = evidence.request.id)
    (haudit : ∀ event, evidence.auditLog = some event →
      event.referenceId = some evidence.request.id) :
    IsWrittenFor std backend request recomputed evidence ↔
      AgreesUnchecked std request evidence := by
  have hintegrity : recomputed.integrity.integrityHash = sha256Hex std
      (evidence.request.inputHash ++ evidence.result.outputHash ++ evidence.proof.traceHash) := by
    rw [h.inputHash, h.outputHash, h.traceHash]
    exact (hashesOf_calculation ((calculate_eq_ok_iff hcanonical).mp hrecomputed)).integrity
  obtain ⟨packet, zkProof, hreads, hright, -⟩ :=
    (verifyProofBundle_valid_iff std backend evidence.proof.proofBundle).mp h.bundle
  obtain ⟨circuit, vkHash, hcircuit, hvk, hbundleVk⟩ := verificationKeyHash_of_hashesRight hright
  obtain ⟨value, zkProof', hvalue, hzk, -⟩ := h.proof
  have hsame := hreads.proof
  rw [bundleProof_of_modelValidate std hvalue hzk] at hsame
  cases hsame
  -- the bundle's input fixes the packet, and with it the hashes that the proof should carry
  constructor
  · intro hwritten
    obtain ⟨hresponse, htrace⟩ := response_of_input hreads hrecomputed hwritten.input
    obtain ⟨value', zkProof', hvalue', hzk', htr, hin, hout⟩ := hwritten.bundledProof
    rw [hvalue] at hvalue'
    cases hvalue'
    rw [hzk] at hzk'
    cases hzk'
    refine ⟨hwritten.integrityHash.trans hintegrity, ?_, hwritten.input, zkProof, hreads.proof, ?_⟩
    · obtain ⟨circuit', hcircuit', hvk'⟩ := hwritten.verificationKeyHash
      rw [hcircuit] at hcircuit'
      cases hcircuit'
      rw [hvk] at hvk'
      rw [hbundleVk, Except.ok.inj hvk']
    · rw [carriesHashes_iff std backend hright, hresponse, htrace]
      exact ⟨htr, hin, hout⟩
  · intro hagrees
    obtain ⟨hresponse, htrace⟩ := response_of_input hreads hrecomputed hagrees.input
    obtain ⟨zkProof', hzk', hcarries⟩ := hagrees.carries
    rw [hreads.proof] at hzk'
    cases hzk'
    rw [carriesHashes_iff std backend hright, hresponse, htrace] at hcarries
    refine ⟨hagrees.integrityHash.trans hintegrity.symm, ⟨circuit, hcircuit, ?_⟩, hagrees.input,
      ⟨value, zkProof, hvalue, hzk, hcarries⟩, hresult, hproof, haudit⟩
    have hcolumn := hagrees.verificationKeyHash
    rw [hbundleVk] at hcolumn
    cases hcolumn
    exact hvk

/-- **Evidence that is reported valid is the one that is written for the request exactly if it
agrees where nothing is checked.** -/
theorem verified_evidence_written_iff {db : Db} {auditRecords : List AuditEventRecord}
    {payload : PyVal} {response : PersistedVerificationResponse}
    (h : verifyPersisted std backend db.fetchByInputHash auditRecords payload = .ok response)
    (hvalid : response.verification.status = .valid) :
    ∃ request recomputed evidence, ImportCalculationRequest.modelValidate std payload = .ok request ∧
      calculateImportLandedCost std request = .ok recomputed ∧ response.evidence = some evidence ∧
      (IsWrittenFor std backend request recomputed evidence ↔
        AgreesUnchecked std request evidence) := by
  obtain ⟨request, recomputed, evidence, auditChain, hrequest, hrecomputed, hfetch, -, -,
    hcorresponds, rfl⟩ := verifyPersisted_valid_iff.mp ⟨h, hvalid⟩
  obtain ⟨hresult, hproof, haudit⟩ := Db.joined_of_fetch hfetch
  exact ⟨request, recomputed, evidence, hrequest, hrecomputed, rfl,
    isWrittenFor_iff (isCanonical_of_calculate hrequest hrecomputed) hrecomputed hcorresponds hresult
      hproof haudit⟩

/-! ### A stored shipment -/

section Sample

/-- The rows of one piece of evidence. -/
def Db.ofEvidence (evidence : PersistedEvidenceBundle) : Db where
  requests := [evidence.request]
  results := [evidence.result]
  proofs := [evidence.proof]
  auditLog := evidence.auditLog.toList

theorem Db.fetch_ofEvidence {evidence : PersistedEvidenceBundle}
    (hresult : evidence.result.requestId = evidence.request.id)
    (hproof : evidence.proof.requestId = evidence.request.id)
    (haudit : ∀ event, evidence.auditLog = some event →
      event.referenceId = some evidence.request.id) :
    (Db.ofEvidence evidence).fetchByInputHash evidence.request.inputHash = some evidence := by
  have hevent : (Db.ofEvidence evidence).latestEventOf evidence.request.id = evidence.auditLog := by
    rw [latestEventOf, ofEvidence]
    cases hlog : evidence.auditLog with
    | none => rfl
    | some event => simp [haudit event hlog]
  simp only [fetchByInputHash, bundleRows, requestsFor, ofEvidence, List.filter_cons, beq_self_eq_true,
    if_true, List.filter_nil, List.flatMap_cons, List.flatMap_nil, List.append_nil, hresult, hproof,
    List.map_cons, List.map_nil, List.head?_cons]
  rw [ofEvidence] at hevent
  rw [hevent]

/-- An event at the beginning of its chain. -/
theorem exists_firstEvent (requestId : Uuid) :
    ∃ event : AuditEventRecord, event.referenceId = some requestId ∧ event.IsSealed lengthStd ∧
      IsValid (verifyAuditChain lengthStd [event]) := by
  have htime : utcIsoformat DateTime.min = .ok "0001-01-01T00:00:00Z" := by decide +kernel
  obtain ⟨hash, hhash⟩ : ∃ hash, computeAuditHash lengthStd zeroHash "calculation_persisted"
      (some requestId) [] DateTime.min = .ok hash :=
    computeAuditHash_ok lengthStd ⟨_, rfl⟩ ⟨_, htime⟩ ..
  refine ⟨⟨some 1, 0, "calculation_persisted", some requestId, [], zeroHash, hash, DateTime.min⟩,
    rfl, hhash, isValid_verifyAuditChain lengthStd fun chainId => ?_⟩
  rw [List.filter_cons]
  split
  · exact ⟨rfl, hhash, trivial⟩
  · trivial

/-- A shipment whose proof row has the bundle of another one is reported valid. -/
theorem exists_verified {r r' : ImportCalculationRequest} (hr : r.IsCanonical)
    {recomputed recomputed' : CalculationResponse}
    (hrecomputed : calculateImportLandedCost lengthStd r = .ok recomputed) (hr' : r'.IsCanonical)
    (hrecomputed' : calculateImportLandedCost lengthStd r' = .ok recomputed') :
    ∃ evidence response,
      verifyPersisted lengthStd transcriptBackend (Db.ofEvidence evidence).fetchByInputHash
        (Db.ofEvidence evidence).fetchAuditChain (.dict r.jsonPayload) = .ok response ∧
      response.verification.status = .valid ∧ response.evidence = some evidence ∧
      getItem evidence.proof.proofBundle "input" = .ok (.dict r'.jsonPayload) := by
  have hfull : lengthStd.IsFullLength := lengthSha_isFullLength
  obtain ⟨packet, -, -, -, -, -, hpacket, -, -, -⟩ :=
    exists_validBundle hfull transcriptBackend_verifiesOwn transcriptBackend_reportsCompiledKeys
      transcriptBackend_compile transcriptBackend_manifest transcriptBackend_prove hr hrecomputed
      (modelValidate_jsonPayload hr) "evidence_service" 1
  obtain ⟨packet', zkProof, circuitHash, vkHash, -, hrequest', -, -, -, hvalid⟩ :=
    exists_validBundle hfull transcriptBackend_verifiesOwn transcriptBackend_reportsCompiledKeys
      transcriptBackend_compile transcriptBackend_manifest transcriptBackend_prove hr' hrecomputed'
      (modelValidate_jsonPayload hr') "evidence_service" 1
  obtain ⟨event, hreference, hsealed, auditChain, hchain, hchainValid⟩ := exists_firstEvent ⟨1⟩
  have hbundled : getItem (honestBundle packet' circuitHash vkHash zkProof) "proof" =
      .ok (.dict (zkProof.dump lengthStd)) := rfl
  have hascii := isAscii_proofBlobHex lengthStd transcriptBackend transcriptBackend_verifiesAscii
    (isValid_of_bundle lengthStd transcriptBackend hvalid hbundled (modelValidate_dump zkProof))
  -- the rows are those of `r`, the bundle is that of `r'`
  let evidence : PersistedEvidenceBundle :=
    { evidenceOf packet zkProof vkHash (honestBundle packet' circuitHash vkHash zkProof)
        r.jsonPayload recomputed.jsonPayload with auditLog := some event }
  have hevents : ∀ event', evidence.auditLog = some event' → event' = event := by
    intro event' h
    exact (Option.some.inj h).symm
  have hcorresponds : Corresponds lengthStd transcriptBackend r recomputed evidence := by
    refine corresponds_of_stored hr hrecomputed ⟨rfl, ?_⟩ ⟨rfl, ?_⟩ ⟨?_, rfl, rfl, rfl, rfl⟩ hvalid
      hbundled hascii ?_
    · show packet.response.integrity.inputHash = _
      rw [hpacket]
    · show packet.response.integrity.outputHash = _
      rw [hpacket]
    · show packet.response.integrity.traceHash = _
      rw [hpacket]
    · intro event' h
      rw [hevents event' h]
      exact hsealed
  have hfetch : (Db.ofEvidence evidence).fetchByInputHash evidence.request.inputHash =
      some evidence := by
    refine Db.fetch_ofEvidence rfl rfl ?_
    intro event' h
    rw [hevents event' h]
    exact hreference
  have hhash : evidence.request.inputHash = recomputed.integrity.inputHash := hcorresponds.inputHash
  rw [hhash] at hfetch
  have hlog : (Db.ofEvidence evidence).fetchAuditChain = [event] := rfl
  rw [← hlog] at hchain
  obtain ⟨hresponse, hstatus⟩ := verifyPersisted_valid_iff.mpr ⟨r, recomputed, evidence, auditChain,
    modelValidate_jsonPayload hr, hrecomputed, hfetch, hchain, hchainValid, hcorresponds, rfl⟩
  refine ⟨evidence, _, hresponse, hstatus, rfl, ?_⟩
  rw [← hrequest']
  rfl

/-- The evidence of a shipment from China is reported valid with the bundle of the same shipment
from Germany. -/
theorem foreign_bundle_verified :
    ∃ evidence response recomputed,
      verifyPersisted lengthStd transcriptBackend (Db.ofEvidence evidence).fetchByInputHash
        (Db.ofEvidence evidence).fetchAuditChain (.dict (referenceRequest "CN").jsonPayload) =
          .ok response ∧
      response.verification.status = .valid ∧ response.evidence = some evidence ∧
      calculateImportLandedCost lengthStd (referenceRequest "CN") = .ok recomputed ∧
      getItem evidence.proof.proofBundle "input" =
        .ok (.dict (referenceRequest "DE").jsonPayload) ∧
      ¬ IsWrittenFor lengthStd transcriptBackend (referenceRequest "CN") recomputed evidence := by
  obtain ⟨hchina, recomputed, hrecomputed, -⟩ :=
    @calculate_reference lengthStd "CN" 329231 (List.mem_cons_self ..)
  obtain ⟨hgermany, recomputed', hrecomputed', -⟩ :=
    @calculate_reference lengthStd "DE" 269231 (List.mem_cons_of_mem _ (List.mem_cons_self ..))
  obtain ⟨evidence, response, hresponse, hstatus, hevidence, hinput⟩ :=
    exists_verified hchina hrecomputed hgermany hrecomputed'
  refine ⟨evidence, response, recomputed, hresponse, hstatus, hevidence, hrecomputed, hinput, ?_⟩
  intro hwritten
  obtain ⟨value, hvalue, hrequest⟩ := hwritten.input
  rw [hinput] at hvalue
  cases hvalue
  rw [modelValidate_jsonPayload hgermany] at hrequest
  have hcountry : "DE" = "CN" := congrArg ImportCalculationRequest.countryOfOrigin
    (Except.ok.inj hrequest)
  exact absurd hcountry (by decide)

/-- Evidence as the service writes it. -/
theorem verified_evidence_written_reference :
    ∃ evidence response,
      verifyPersisted lengthStd transcriptBackend (Db.ofEvidence evidence).fetchByInputHash
        (Db.ofEvidence evidence).fetchAuditChain (.dict (referenceRequest "CN").jsonPayload) =
          .ok response ∧
      response.verification.status = .valid ∧
      ∃ request recomputed evidence',
        ImportCalculationRequest.modelValidate lengthStd
          (.dict (referenceRequest "CN").jsonPayload) = .ok request ∧
        calculateImportLandedCost lengthStd request = .ok recomputed ∧
        response.evidence = some evidence' ∧
        (IsWrittenFor lengthStd transcriptBackend request recomputed evidence' ↔
          AgreesUnchecked lengthStd request evidence') := by
  obtain ⟨hchina, recomputed, hrecomputed, -⟩ :=
    @calculate_reference lengthStd "CN" 329231 (List.mem_cons_self ..)
  obtain ⟨evidence, response, hresponse, hstatus, -, -⟩ :=
    exists_verified hchina hrecomputed hchina hrecomputed
  exact ⟨evidence, response, hresponse, hstatus, verified_evidence_written_iff hresponse hstatus⟩

end Sample

end Vrl

import Vrl.Backend.VerifiedDataset

/-!
# Vrl.Backend.VerifiedRecords

Where the fields of a training record come from (`backend/verified_dataset.py`).

A record is returned when the hash columns of the rows are those of the stored request and
those of the stored proof (**`build_eq_ok_iff`**). The response, which everything else is
copied from, may be any response at all (**`exists_exported`**).
-/

open Pydantic

namespace Vrl

open Zk

variable (std : PyStd) (backend : Backend)

/-! ### The proof of a valid bundle -/

theorem collect_eq_ok_iff {results : List (String × Option PyError)} :
    collect results = .ok () ↔ ∀ result ∈ results, result.2 = none := by
  constructor
  · intro h result hresult
    rw [collect] at h
    split at h
    · cases h
    · split at h
      · next hmessages =>
          rw [List.filterMap_eq_nil_iff] at hmessages
          have hnone := hmessages result hresult
          rwa [Option.map_eq_none_iff] at hnone
      · cases h
  · exact collect_of_none

/-- A payload that is validated as a proof has the fields of a proof only. -/
theorem keys_of_modelValidate {members : List (String × PyVal)} {proof : Proof std}
    (h : Proof.modelValidate std (.dict members) = .ok proof) :
    ∀ m ∈ members, m.1 ∈ Proof.fields := by
  obtain ⟨_, hcollect, -⟩ := Except.bind_eq_ok_iff.mp h
  intro m hm
  by_contra hnot
  have hextra : (m.1, some (⟨.validationError, "Extra inputs are not permitted"⟩ : PyError)) ∈
      extraErrors members Proof.fields := by
    refine List.mem_map.mpr ⟨m, List.mem_filter.mpr ⟨hm, ?_⟩, rfl⟩
    simpa using hnot
  have hnone := collect_eq_ok_iff.mp hcollect _ (List.mem_append_right _ hextra)
  cases hnone

/-- Where the proof of a bundle is validated as it is, it is the proof that was verified. -/
theorem bundleProof_of_modelValidate {bundle : List (String × PyVal)} {value : PyVal}
    {proof : Proof std} (hvalue : getItem bundle "proof" = .ok value)
    (h : Proof.modelValidate std value = .ok proof) : bundleProof std bundle = .ok proof := by
  cases value with
  | dict members =>
      have hfields : ∀ field ∈ Proof.fields, (!computedFields.contains field) = true := by decide
      have hpop : popComputedFields (.dict members) = .ok (.dict members) := by
        rw [popComputedFields, List.filter_eq_self.mpr]
        intro m hm
        exact hfields m.1 (keys_of_modelValidate std h m hm)
      rw [bundleProof, hvalue, Except.ok_bind, hpop, Except.ok_bind, h]
  | _ => cases h

/-- The digests of a proof that is valid on its own are ASCII. -/
theorem isAscii_of_isValid {proof : Proof std} (h : proof.IsValid std backend) :
    TextCodec.IsAscii proof.finalProof.toList ∧
      TextCodec.IsAscii (proof.circuitHash std).toList := by
  obtain ⟨-, _, hpasses⟩ := h
  obtain ⟨-, -, hcircuit, hcircuitHash, -, -, -, hfinal, hfinalEq, -⟩ := hpasses
  obtain ⟨circuitText, hcircuitText⟩ := exists_of_compileCircuit hcircuit
  have hhash : proof.circuitHash std = proof.getMetadata std "circuit_hash" := rfl
  rw [← compareDigest_eq_true hfinalEq, hhash, hcircuitHash, hcircuitText]
  exact ⟨isAscii_of_canonicalHash std hfinal, std.isAscii_hexdigest circuitText⟩

/-- A valid bundle has a proof. -/
theorem proof_of_valid {bundle : List (String × PyVal)}
    (h : (verifyProofBundle std backend bundle).valid = true) :
    ∃ value, getItem bundle "proof" = .ok value := by
  obtain ⟨packet, proof, hreads, -, -⟩ := (verifyProofBundle_valid_iff std backend bundle).mp h
  obtain ⟨value, hvalue, -⟩ := Except.bind_eq_ok_iff.mp hreads.proof
  exact ⟨value, hvalue⟩

theorem isValid_of_bundle {bundle : List (String × PyVal)}
    (h : (verifyProofBundle std backend bundle).valid = true) {value : PyVal} {zkProof : Proof std}
    (hvalue : getItem bundle "proof" = .ok value)
    (hproof : Proof.modelValidate std value = .ok zkProof) : zkProof.IsValid std backend := by
  obtain ⟨packet, proof, hreads, -, hisValid⟩ :=
    (verifyProofBundle_valid_iff std backend bundle).mp h
  have hread := hreads.proof
  rw [bundleProof_of_modelValidate std hvalue hproof] at hread
  cases hread
  exact hisValid

/-! ### The first checks -/

/-- What is known of a bundle that passes the first checks. -/
theorem valid_of_checkExportable {evidence : PersistedEvidenceBundle}
    (h : checkExportable std backend evidence = .ok ()) :
    evidence.proof.proofVerified = true ∧ evidence.proof.proofSystem = "plonk" ∧
      (verifyProofBundle std backend evidence.proof.proofBundle).valid = true := by
  rw [checkExportable] at h
  split at h
  · cases h
  · next hverified =>
      split at h
      · cases h
      · next hsystem =>
          split at h
          · cases h
          · next hvalid =>
              exact ⟨by simpa using hverified, Decidable.not_not.mp hsystem, by simpa using hvalid⟩

/-- The hashes that columns are compared with are digests. -/
theorem isAscii_columnChecks {evidence : PersistedEvidenceBundle}
    {packet : DeterministicTracePacket std}
    (hpacket : buildTracePacket std (.dict evidence.request.rawInput) "verified_dataset_export" 1 =
      .ok packet) {zkProof : Proof std} (hproof : zkProof.IsValid std backend) :
    ∀ check ∈ columnChecks std evidence packet zkProof, TextCodec.IsAscii check.1.toList := by
  obtain ⟨-, hcoherent⟩ := buildTracePacket_inv hpacket
  have hhashes := hashesOf_calculation
    ((calculate_eq_ok_iff (isCanonical_of_packet hpacket)).mp hcoherent.response)
  obtain ⟨hfinal, hcircuit⟩ := isAscii_of_isValid std backend hproof
  simp only [columnChecks, List.forall_mem_cons, List.not_mem_nil, IsEmpty.forall_iff,
    implies_true, and_true]
  exact ⟨isAscii_of_canonicalHash std hhashes.input, isAscii_of_canonicalHash std hhashes.output,
    isAscii_of_canonicalHash std hhashes.trace, hfinal, hcircuit⟩

/-! ### What a record is made of -/

/-- The comparisons go through exactly if all columns are equal. -/
theorem compareColumns_eq_ok_iff {checks : List (String × String × String)}
    (h : ∀ check ∈ checks, TextCodec.IsAscii check.1.toList) :
    compareColumns checks = .ok () ↔ ∀ check ∈ checks, check.1 = check.2.1 := by
  induction checks with
  | nil => simp [compareColumns]
  | cons check checks ih =>
      obtain ⟨expected, stored, message⟩ := check
      rw [List.forall_mem_cons] at h
      rw [compareColumns, List.forall_mem_cons, ← ih h.2]
      constructor
      · intro hok
        obtain ⟨equal, hequal, hok⟩ := Except.bind_eq_ok_iff.mp hok
        cases equal with
        | true => exact ⟨compareDigest_eq_true hequal, hok⟩
        | false => cases hok
      · rintro ⟨heq, hok⟩
        have hequal : constantTimeEqual expected stored = .ok true := by
          obtain rfl : expected = stored := heq
          exact compareDigest_self h.1
        rw [hequal]
        exact hok

/-- The sources of a record: the stored response, the packet that the stored request is
recomputed to, and the stored proof. -/
structure RecordSources (evidence : PersistedEvidenceBundle) (response : CalculationResponse)
    (packet : DeterministicTracePacket std) (zkProof : Proof std) : Prop where
  exportable : checkExportable std backend evidence = .ok ()
  response : CalculationResponse.modelValidate std (.dict evidence.result.rawOutput) = .ok response
  packet : buildTracePacket std (.dict evidence.request.rawInput) "verified_dataset_export" 1 =
    .ok packet
  proof : ∃ value, getItem evidence.proof.proofBundle "proof" = .ok value ∧
    Proof.modelValidate std value = .ok zkProof

/-- The fields of a record that come from its sources. -/
structure RecordCopies (evidence : PersistedEvidenceBundle) (response : CalculationResponse)
    (record : VerifiedTrainingRecord) : Prop where
  inputPayload : record.inputPayload = evidence.request.rawInput
  resultPayload : record.resultPayload = response.result
  trace : record.trace = response.trace
  inputHash : record.inputHash = response.integrity.inputHash
  outputHash : record.outputHash = response.integrity.outputHash
  traceHash : record.traceHash = response.integrity.traceHash
  integrityHash : record.integrityHash = response.integrity.integrityHash
  proofBundle : record.proofBundle = evidence.proof.proofBundle
  verified : record.verificationStatus = "VERIFIED"

section Sources

variable {std backend} {evidence : PersistedEvidenceBundle} {response : CalculationResponse}
  {packet : DeterministicTracePacket std} {zkProof : Proof std}

theorem RecordSources.isValid (h : RecordSources std backend evidence response packet zkProof) :
    zkProof.IsValid std backend := by
  obtain ⟨-, -, hvalid⟩ := valid_of_checkExportable std backend h.exportable
  obtain ⟨value, hvalue, hproof⟩ := h.proof
  exact isValid_of_bundle std backend hvalid hvalue hproof

theorem RecordSources.unique (h : RecordSources std backend evidence response packet zkProof)
    {response' : CalculationResponse} {packet' : DeterministicTracePacket std}
    {zkProof' : Proof std}
    (h' : RecordSources std backend evidence response' packet' zkProof') :
    response = response' ∧ packet = packet' ∧ zkProof = zkProof' := by
  obtain ⟨value, hvalue, hproof⟩ := h.proof
  obtain ⟨value', hvalue', hproof'⟩ := h'.proof
  rw [hvalue] at hvalue'
  cases hvalue'
  exact ⟨Except.ok.inj (h.response.symm.trans h'.response),
    Except.ok.inj (h.packet.symm.trans h'.packet), Except.ok.inj (hproof.symm.trans hproof')⟩

/-- A record is built whenever the bundle has a proof. -/
theorem buildVerifiedTrainingRecord_ok {proofBundle members : List (String × PyVal)}
    (hproof : getItem proofBundle "proof" = .ok (.dict members))
    (persisted : PersistedCalculationResponse) (zkProof : Proof std)
    (witnessHash verificationKeyHash : String) :
    ∃ record, buildVerifiedTrainingRecord std persisted zkProof witnessHash verificationKeyHash
      proofBundle = .ok record := by
  obtain ⟨hash, hhash⟩ : ∃ hash, canonicalHash std
      (recordPayload std persisted zkProof witnessHash verificationKeyHash) = .ok hash :=
    canonicalHash_ok std rfl
  rw [buildVerifiedTrainingRecord, getItem_eq_ok.mp hproof, Option.getD_some]
  simp only [hhash]
  exact ⟨_, rfl⟩

/-- **A record is returned exactly if the columns are those of the recomputation and of the
proof.** -/
theorem build_eq_ok_iff (h : RecordSources std backend evidence response packet zkProof) :
    (∃ record, buildVerifiedTrainingRecordFromEvidence std backend evidence = .ok record) ↔
      ∀ check ∈ columnChecks std evidence packet zkProof, check.1 = check.2.1 := by
  rw [← compareColumns_eq_ok_iff (isAscii_columnChecks std backend h.packet h.isValid)]
  obtain ⟨value, hvalue, hproof⟩ := h.proof
  rw [buildVerifiedTrainingRecordFromEvidence, h.exportable, Except.ok_bind, h.response,
    Except.ok_bind, h.packet, Except.ok_bind, hvalue, Except.ok_bind, hproof, Except.ok_bind]
  constructor
  · rintro ⟨record, hrecord⟩
    obtain ⟨_, hcolumns, -⟩ := Except.bind_eq_ok_iff.mp hrecord
    exact hcolumns
  · intro hcolumns
    rw [hcolumns, Except.ok_bind]
    cases value with
    | dict members => exact buildVerifiedTrainingRecord_ok hvalue ..
    | _ => cases hproof

theorem build_inv {record : VerifiedTrainingRecord}
    (h : buildVerifiedTrainingRecordFromEvidence std backend evidence = .ok record) :
    ∃ response packet zkProof, RecordSources std backend evidence response packet zkProof ∧
      RecordCopies evidence response record := by
  unfold buildVerifiedTrainingRecordFromEvidence at h
  obtain ⟨_, hcheck, h⟩ := Except.bind_eq_ok_iff.mp h
  obtain ⟨response, hresponse, h⟩ := Except.bind_eq_ok_iff.mp h
  obtain ⟨packet, hpacket, h⟩ := Except.bind_eq_ok_iff.mp h
  obtain ⟨value, hvalue, h⟩ := Except.bind_eq_ok_iff.mp h
  obtain ⟨zkProof, hproof, h⟩ := Except.bind_eq_ok_iff.mp h
  obtain ⟨_, -, h⟩ := Except.bind_eq_ok_iff.mp h
  refine ⟨response, packet, zkProof, ⟨hcheck, hresponse, hpacket, value, hvalue, hproof⟩, ?_⟩
  unfold buildVerifiedTrainingRecord at h
  split at h
  · cases h
  · obtain ⟨recordId, -, h⟩ := Except.bind_eq_ok_iff.mp h
    cases h
    exact ⟨rfl, rfl, rfl, rfl, rfl, rfl, rfl, rfl, rfl⟩

end Sources

/-! ### Soundness of records -/

/-- The record says what is recomputed from its own input, and its proof speaks about that
input. -/
def VerifiedTrainingRecord.IsSound (record : VerifiedTrainingRecord) : Prop :=
  ∃ (packet : DeterministicTracePacket std) (value : PyVal) (zkProof : Proof std),
    buildTracePacket std (.dict record.inputPayload) "verified_dataset_export" 1 = .ok packet ∧
    getItem record.proofBundle "proof" = .ok value ∧
    Proof.modelValidate std value = .ok zkProof ∧
    record.resultPayload = packet.response.result ∧ record.trace = packet.response.trace ∧
    record.inputHash = packet.response.integrity.inputHash ∧
    record.outputHash = packet.response.integrity.outputHash ∧
    record.traceHash = packet.response.integrity.traceHash ∧
    record.integrityHash = packet.response.integrity.integrityHash ∧
    SpeaksAbout std packet zkProof

/-- What is not compared: the stored response with the recomputation and with the columns, and
the proof with the columns and with the stored request. -/
structure StoresItsCalculation (evidence : PersistedEvidenceBundle)
    (response : CalculationResponse) (packet : DeterministicTracePacket std)
    (zkProof : Proof std) : Prop where
  result : response.result = packet.response.result
  trace : response.trace = packet.response.trace
  inputHash : response.integrity.inputHash = evidence.request.inputHash
  outputHash : response.integrity.outputHash = evidence.result.outputHash
  traceHash : response.integrity.traceHash = evidence.proof.traceHash
  integrityHash : response.integrity.integrityHash = sha256Hex std
    (evidence.request.inputHash ++ evidence.result.outputHash ++ evidence.proof.traceHash)
  proofInputHash : zkProof.inputHash = evidence.request.inputHash
  proofOutputHash : zkProof.outputHash = evidence.result.outputHash
  proofTraceHash : zkProof.traceHash = evidence.proof.traceHash
  publicInputs : ListsInputsOf std packet zkProof

/-- **A record that is returned is sound exactly if the stored response and proof are those of
the stored request, as far as nothing compares them.** -/
theorem verified_record_sound_iff {evidence : PersistedEvidenceBundle}
    {record : VerifiedTrainingRecord}
    (h : buildVerifiedTrainingRecordFromEvidence std backend evidence = .ok record) :
    record.IsSound std ↔ ∃ response packet zkProof,
      RecordSources std backend evidence response packet zkProof ∧
        StoresItsCalculation std evidence response packet zkProof := by
  obtain ⟨response, packet, zkProof, hsources, hcopies⟩ := build_inv h
  have hcolumns := (build_eq_ok_iff hsources).mp ⟨record, h⟩
  simp only [columnChecks, List.forall_mem_cons, List.not_mem_nil, IsEmpty.forall_iff,
    implies_true, and_true] at hcolumns
  obtain ⟨hinput, houtput, htrace, -, -⟩ := hcolumns
  obtain ⟨-, hcoherent⟩ := buildTracePacket_inv hsources.packet
  have hhashes := hashesOf_calculation
    ((calculate_eq_ok_iff (isCanonical_of_packet hsources.packet)).mp hcoherent.response)
  -- the record copies the columns, which were compared with the packet's own hashes
  constructor
  · rintro ⟨packet', value, zkProof', hpacket, hvalue, hproof, hresult, hsteps, hin, hout, htr, hint,
      hspeaks⟩
    rw [hcopies.inputPayload] at hpacket
    rw [hcopies.proofBundle] at hvalue
    have hsources' : RecordSources std backend evidence response packet' zkProof' :=
      ⟨hsources.exportable, hsources.response, hpacket, value, hvalue, hproof⟩
    obtain ⟨-, rfl, rfl⟩ := hsources.unique hsources'
    rw [hcopies.resultPayload] at hresult
    rw [hcopies.trace] at hsteps
    rw [hcopies.inputHash, hinput] at hin
    rw [hcopies.outputHash, houtput] at hout
    rw [hcopies.traceHash, htrace] at htr
    rw [hcopies.integrityHash, hhashes.integrity, hinput, houtput, htrace] at hint
    exact ⟨response, packet, zkProof, hsources, hresult, hsteps, hin, hout, htr, hint,
      hspeaks.inputHash.trans hinput, hspeaks.outputHash.trans houtput,
      (hspeaks.traceHash.trans hcoherent.traceHash).trans htrace, hspeaks.publicInputs⟩
  · rintro ⟨response', packet', zkProof', hsources', hstores⟩
    obtain ⟨rfl, rfl, rfl⟩ := hsources.unique hsources'
    obtain ⟨value, hvalue, hproof⟩ := hsources.proof
    refine ⟨packet, value, zkProof, ?_, ?_, hproof, ?_, ?_, ?_, ?_, ?_, ?_, ?_⟩
    · rw [hcopies.inputPayload]
      exact hsources.packet
    · rw [hcopies.proofBundle]
      exact hvalue
    · rw [hcopies.resultPayload, hstores.result]
    · rw [hcopies.trace, hstores.trace]
    · rw [hcopies.inputHash, hstores.inputHash, hinput]
    · rw [hcopies.outputHash, hstores.outputHash, houtput]
    · rw [hcopies.traceHash, hstores.traceHash, htrace]
    · rw [hcopies.integrityHash, hstores.integrityHash, hhashes.integrity, hinput, houtput, htrace]
    · exact ⟨(hstores.proofTraceHash.trans htrace.symm).trans hcoherent.traceHash.symm,
        hstores.proofInputHash.trans hinput.symm, hstores.proofOutputHash.trans houtput.symm,
        hstores.publicInputs⟩

/-! ### Evidence that is exported -/

section Samples

variable {std backend}

/-- Evidence whose columns are those of a packet and a proof, with any payloads. -/
def evidenceOf (packet : DeterministicTracePacket std) (zkProof : Proof std) (vkHash : String)
    (bundle rawInput rawOutput : List (String × PyVal)) : PersistedEvidenceBundle where
  request := ⟨⟨1⟩, packet.response.integrity.inputHash, rawInput, DateTime.min⟩
  result := ⟨⟨2⟩, ⟨1⟩, packet.response.integrity.outputHash, rawOutput, DateTime.min⟩
  proof := ⟨⟨3⟩, ⟨1⟩, packet.response.integrity.traceHash, zkProof.finalProof,
    packet.response.integrity.integrityHash, "plonk", zkProof.circuitHash std, vkHash, bundle, true,
    DateTime.min⟩

theorem checkExportable_evidenceOf {packet : DeterministicTracePacket std} {zkProof : Proof std}
    {vkHash : String} {bundle : List (String × PyVal)}
    (hvalid : (verifyProofBundle std backend bundle).valid = true)
    (rawInput rawOutput : List (String × PyVal)) :
    checkExportable std backend (evidenceOf packet zkProof vkHash bundle rawInput rawOutput) =
      .ok () := by
  have hbundle : (evidenceOf packet zkProof vkHash bundle rawInput rawOutput).proof.proofBundle =
      bundle := rfl
  rw [checkExportable, hbundle, hvalid]
  rfl

/-- A valid bundle for a request that the engine answers, with everything that it is made of. -/
theorem exists_validBundle (hfull : std.IsFullLength) (hverifies : backend.VerifiesOwn)
    (hreports : backend.ReportsCompiledKeys)
    (hcompile : ∀ circuit, ∃ key, backend.compile circuit = .ok key)
    (hmanifest : ∀ key, ∃ manifest, backend.readVerificationManifest key = .ok manifest)
    (hprove : ∀ request, ∃ response, backend.prove request = .ok response)
    {r : ImportCalculationRequest} (hr : r.IsCanonical) {response : CalculationResponse}
    (hresponse : calculateImportLandedCost std r = .ok response) {payload : PyVal}
    (hpayload : ImportCalculationRequest.modelValidate std payload = .ok r) (producedBy : String)
    (cycle : Int) :
    ∃ (packet : DeterministicTracePacket std) (zkProof : Proof std) (circuitHash vkHash : String),
      buildTracePacket std payload producedBy cycle = .ok packet ∧
      packet.request = r ∧ packet.response = response ∧
      buildPlonkProof std backend packet.witnessArtifact packet.traceArtifact.traceHash producedBy
        cycle = .ok zkProof ∧
      exportProofBundle std backend payload (some packet) (some zkProof) =
        .ok (honestBundle packet circuitHash vkHash zkProof) ∧
      (verifyProofBundle std backend
        (honestBundle packet circuitHash vkHash zkProof)).valid = true := by
  obtain ⟨packet, zkProof, hpacket, hrequest, hpacketResponse, hproof⟩ :=
    exists_honestBundle hfull hcompile hprove hr hresponse hpayload producedBy cycle
  obtain ⟨circuit, hcircuit⟩ := compileCircuit_ok std
  obtain ⟨key, hkey⟩ := hcompile circuit
  obtain ⟨manifest, hmanifest⟩ := hmanifest key
  have hvk : verificationKeyHash std backend circuit.circuitHash =
      .ok (sha256Hex std manifest) := by
    rw [verificationKeyHash, hcircuit, Except.ok_bind, deriveVerificationKey_self, hkey,
      Except.ok_bind, hmanifest]
    rfl
  refine ⟨packet, zkProof, circuit.circuitHash, sha256Hex std manifest, hpacket, hrequest,
    hpacketResponse, hproof, ?_, honestBundle_valid hverifies hreports hpacket hproof hcircuit hvk⟩
  rw [exportProofBundle, Option.elim_some, Except.ok_bind, Option.elim_some, Except.ok_bind, hcircuit,
    Except.ok_bind, hvk]
  rfl

/-- **Any stored response is exported with the request, the columns and the bundle of another
calculation.** -/
theorem exists_exported (hfull : std.IsFullLength) (hverifies : backend.VerifiesOwn)
    (hreports : backend.ReportsCompiledKeys)
    (hcompile : ∀ circuit, ∃ key, backend.compile circuit = .ok key)
    (hmanifest : ∀ key, ∃ manifest, backend.readVerificationManifest key = .ok manifest)
    (hprove : ∀ request, ∃ response, backend.prove request = .ok response)
    {r : ImportCalculationRequest} (hr : r.IsCanonical) {response : CalculationResponse}
    (hresponse : calculateImportLandedCost std r = .ok response) :
    ∃ (packet : DeterministicTracePacket std) (zkProof : Proof std) (vkHash : String)
      (bundle : List (String × PyVal)), packet.response = response ∧
      (∀ rawInput rawOutput, checkExportable std backend
        (evidenceOf packet zkProof vkHash bundle rawInput rawOutput) = .ok ()) ∧
      ∀ stored : CalculationResponse, stored.result.IsFixed →
        RecordSources std backend
          (evidenceOf packet zkProof vkHash bundle r.jsonPayload stored.jsonPayload) stored packet
          zkProof ∧
        ∃ record, buildVerifiedTrainingRecordFromEvidence std backend
          (evidenceOf packet zkProof vkHash bundle r.jsonPayload stored.jsonPayload) =
            .ok record := by
  obtain ⟨packet, zkProof, circuitHash, vkHash, hpacket, -, hpacketResponse, -, -, hvalid⟩ :=
    exists_validBundle hfull hverifies hreports hcompile hmanifest hprove hr hresponse
      (modelValidate_jsonPayload hr) "verified_dataset_export" 1
  refine ⟨packet, zkProof, vkHash, _, hpacketResponse, checkExportable_evidenceOf hvalid, ?_⟩
  intro stored hstored
  have hsources : RecordSources std backend (evidenceOf packet zkProof vkHash
      (honestBundle packet circuitHash vkHash zkProof) r.jsonPayload stored.jsonPayload) stored packet zkProof :=
    ⟨checkExportable_evidenceOf hvalid _ _, modelValidate_jsonPayload_response std hstored, hpacket,
      _, rfl, modelValidate_dump zkProof⟩
  refine ⟨hsources, (build_eq_ok_iff hsources).mpr ?_⟩
  simp only [columnChecks, List.forall_mem_cons, List.not_mem_nil, IsEmpty.forall_iff,
    implies_true, and_true]
  exact ⟨rfl, rfl, rfl, rfl, rfl⟩

end Samples

section Reference

theorem transcriptBackend_compile (circuit : PlonkCircuit) :
    ∃ key, transcriptBackend.compile circuit = .ok key := ⟨_, rfl⟩

theorem transcriptBackend_manifest (key : KeyMaterial) :
    ∃ manifest, transcriptBackend.readVerificationManifest key = .ok manifest := ⟨_, rfl⟩

theorem transcriptBackend_prove (request : ProveRequest) :
    ∃ response, transcriptBackend.prove request = .ok response := ⟨_, rfl⟩

/-- The record of a shipment from China with the response of the same shipment from Germany. -/
theorem unverified_result_exported :
    ∃ (evidence : PersistedEvidenceBundle) (record : VerifiedTrainingRecord)
      (packet : DeterministicTracePacket lengthStd),
      buildVerifiedTrainingRecordFromEvidence lengthStd transcriptBackend evidence = .ok record ∧
      record.verificationStatus = "VERIFIED" ∧
      buildTracePacket lengthStd (.dict record.inputPayload) "verified_dataset_export" 1 =
        .ok packet ∧
      packet.response.result.landedCost = .finite false 329231 (-2) ∧
      record.resultPayload.landedCost = .finite false 269231 (-2) ∧
      ¬ record.IsSound lengthStd := by
  have hfull : lengthStd.IsFullLength := lengthSha_isFullLength
  obtain ⟨hchina, response, hresponse, hcost⟩ :=
    @calculate_reference lengthStd "CN" 329231 (List.mem_cons_self ..)
  obtain ⟨hgermany, stored, hstored, hstoredCost⟩ :=
    @calculate_reference lengthStd "DE" 269231 (List.mem_cons_of_mem _ (List.mem_cons_self ..))
  obtain ⟨packet, zkProof, vkHash, bundle, hpacketResponse, -, hexported⟩ :=
    exists_exported hfull transcriptBackend_verifiesOwn transcriptBackend_reportsCompiledKeys
      transcriptBackend_compile transcriptBackend_manifest transcriptBackend_prove hchina hresponse
  obtain ⟨hsources, record, hrecord⟩ :=
    hexported stored (isFixed_of_calculation ((calculate_eq_ok_iff hgermany).mp hstored))
  obtain ⟨stored', packet', zkProof', hsources', hcopies⟩ := build_inv hrecord
  obtain ⟨rfl, rfl, rfl⟩ := hsources.unique hsources'
  have hpacket : buildTracePacket lengthStd (.dict record.inputPayload) "verified_dataset_export" 1 =
      .ok packet := by
    rw [hcopies.inputPayload]
    exact hsources.packet
  have hlanded : record.resultPayload.landedCost = .finite false 269231 (-2) := by
    rw [hcopies.resultPayload, hstoredCost]
  have hrecomputed : packet.response.result.landedCost = .finite false 329231 (-2) := by
    rw [hpacketResponse, hcost]
  refine ⟨_, record, packet, hrecord, hcopies.verified, hpacket, hrecomputed, hlanded, ?_⟩
  rintro ⟨packet', value, zkProof', hpacket', -, -, hresult, -⟩
  rw [hpacket] at hpacket'
  cases hpacket'
  rw [hresult, hrecomputed] at hlanded
  cases hlanded

/-- A record of evidence that is as the server writes it. -/
theorem verified_record_sound_reference :
    ∃ (evidence : PersistedEvidenceBundle) (record : VerifiedTrainingRecord),
      buildVerifiedTrainingRecordFromEvidence lengthStd transcriptBackend evidence = .ok record ∧
      (record.IsSound lengthStd ↔ ∃ response packet zkProof,
        RecordSources lengthStd transcriptBackend evidence response packet zkProof ∧
          StoresItsCalculation lengthStd evidence response packet zkProof) := by
  have hfull : lengthStd.IsFullLength := lengthSha_isFullLength
  obtain ⟨hchina, response, hresponse, -⟩ :=
    @calculate_reference lengthStd "CN" 329231 (List.mem_cons_self ..)
  obtain ⟨packet, zkProof, vkHash, bundle, -, -, hexported⟩ :=
    exists_exported hfull transcriptBackend_verifiesOwn transcriptBackend_reportsCompiledKeys
      transcriptBackend_compile transcriptBackend_manifest transcriptBackend_prove hchina hresponse
  obtain ⟨-, record, hrecord⟩ :=
    hexported response (isFixed_of_calculation ((calculate_eq_ok_iff hchina).mp hresponse))
  exact ⟨_, record, hrecord, verified_record_sound_iff lengthStd transcriptBackend hrecord⟩

end Reference

end Vrl

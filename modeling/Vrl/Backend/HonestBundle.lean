import Vrl.Backend.ProofBinding
import Vrl.Zk.ProverVerifier

/-!
# Vrl.Backend.HonestBundle

Bundles as `export_proof_bundle` makes them (`backend/proof_export.py`).

A bundle made from a packet and a proof of its witness verifies offline
(**`honestBundle_valid`**): its input is validated to the request that it was exported from,
the calculation is repeated, and the proof is read back as it was. The proof of another
honest bundle verifies in its place as well, whatever it says (**`pasted_honestBundle`**).
-/

open Pydantic

namespace Vrl

open Zk

variable {std : PyStd} {backend : Backend}

/-! ### Proofs are read back -/

theorem validateProofHash_self (proof : Proof std) :
    validateProofHash std proof.toProofData proof.artifactId proof.producedBy proof.cycle
      proof.proofHash = .ok proof := by
  unfold validateProofHash
  split
  · next herror =>
      rw [proof.hashed] at herror
      cases herror
  · next expectedHash hok =>
      rw [proof.hashed] at hok
      rw [dif_pos (Except.ok.inj hok).symm]

/-- A proof that was dumped is validated to itself. -/
theorem modelValidate_dump (proof : Proof std) :
    Proof.modelValidate std (.dict (proof.dump std)) = .ok proof := by
  have hstr : ∀ {key s : String}, (proof.dump std).lookup key = some (.str s) →
      field (proof.dump std) key strField = .ok s :=
    fun hlookup => field_of_lookup hlookup
  have htype : fieldOr (proof.dump std) "artifact_type" () (literalField "proof") = .ok () := rfl
  have hcycle : field (proof.dump std) "cycle" (intField std) = .ok proof.cycle := by
    rw [field_of_lookup (rfl : (proof.dump std).lookup "cycle" = some (.int proof.cycle)), intField,
      std.parseInt_int]
  have hcommitments : field (proof.dump std) "commitments" strListField = .ok proof.commitments :=
    (field_of_lookup rfl).trans (strListField_ofStrings _)
  have hinputs : field (proof.dump std) "public_inputs" strListField = .ok proof.publicInputs :=
    (field_of_lookup rfl).trans (strListField_ofStrings _)
  have hmetadata : field (proof.dump std) "metadata" strDictField = .ok proof.metadata :=
    (field_of_lookup rfl).trans (strDictField_ofStringDict _)
  have hextra : extraErrors (proof.dump std) Proof.fields = [] := rfl
  have h1 := hstr (rfl : (proof.dump std).lookup "artifact_id" = some (.str _))
  have h2 := hstr (rfl : (proof.dump std).lookup "produced_by" = some (.str _))
  have h3 := hstr (rfl : (proof.dump std).lookup "proof_system" = some (.str _))
  have h4 := hstr (rfl : (proof.dump std).lookup "circuit_artifact_id" = some (.str _))
  have h5 := hstr (rfl : (proof.dump std).lookup "witness_artifact_id" = some (.str _))
  have h6 := hstr (rfl : (proof.dump std).lookup "proof_blob_hex" = some (.str _))
  have h7 := hstr (rfl : (proof.dump std).lookup "proof_hash" = some (.str _))
  have h8 := hstr (rfl : (proof.dump std).lookup "input_hash" = some (.str _))
  have h9 := hstr (rfl : (proof.dump std).lookup "output_hash" = some (.str _))
  have h10 := hstr (rfl : (proof.dump std).lookup "trace_hash" = some (.str _))
  have h11 := hstr (rfl : (proof.dump std).lookup "final_proof" = some (.str _))
  simp only [Proof.modelValidate, hextra, htype, hcycle, hcommitments, hinputs, hmetadata, h1, h2,
    h3, h4, h5, h6, h7, h8, h9, h10, h11, errorOf]
  rw [collect_of_none (by simp)]
  simp only [Except.ok_bind]
  exact validateProofHash_self proof

/-- A dump has no computed fields. -/
theorem popComputedFields_dump (proof : Proof std) :
    popComputedFields (.dict (proof.dump std)) = .ok (.dict (proof.dump std)) := rfl

/-! ### Requests are read back -/

theorem modelValidate_jsonPayload {r : ImportCalculationRequest} (h : r.IsCanonical) :
    ImportCalculationRequest.modelValidate std (.dict r.jsonPayload) = .ok r := by
  have hmembers : r.jsonPayload = requestMembers (fun d => .str (String.ofList d.text)) r := rfl
  rw [hmembers]
  exact modelValidate_requestMembers std h (isAmountForm_text std)

variable {payload : PyVal} {producedBy : String} {cycle : Int}
  {packet : DeterministicTracePacket std}

theorem isCanonical_of_packet (h : buildTracePacket std payload producedBy cycle = .ok packet) :
    packet.request.IsCanonical := by
  obtain ⟨hvalid, hcoherent⟩ := buildTracePacket_inv h
  exact isCanonical_of_calculate hvalid hcoherent.response

/-- **The packet of a dumped request is that of the request.** -/
theorem rebuild_packet (h : buildTracePacket std payload producedBy cycle = .ok packet)
    (producedBy' : String) (cycle' : Int) :
    ∃ packet', buildTracePacket std (.dict packet.request.jsonPayload) producedBy' cycle' =
        .ok packet' ∧
      packet'.request = packet.request ∧ packet'.response = packet.response ∧
      packet'.traceArtifact.traceHash = packet.traceArtifact.traceHash ∧
      packet'.witnessArtifact.publicInputs = packet.witnessArtifact.publicInputs := by
  obtain ⟨-, hcoherent⟩ := buildTracePacket_inv h
  obtain ⟨packet', hpacket', hrequest, hresponse⟩ := buildTracePacket_ok
    (modelValidate_jsonPayload (isCanonical_of_packet h)) hcoherent.response producedBy' cycle'
  obtain ⟨-, hcoherent'⟩ := buildTracePacket_inv hpacket'
  refine ⟨packet', hpacket', hrequest, hresponse, ?_, ?_⟩
  · rw [hcoherent'.traceHash, hcoherent.traceHash, hresponse]
  · rw [hcoherent'.witnessData, hcoherent.witnessData, hcoherent'.witness, hcoherent.witness,
      hrequest, hresponse]

/-! ### Bundles -/

/-- The members of an exported bundle. -/
def honestBundle (packet : DeterministicTracePacket std) (circuitHash vkHash : String)
    (proof : Proof std) : List (String × PyVal) :=
  [("input", .dict packet.request.jsonPayload),
    ("input_hash", .str packet.response.integrity.inputHash),
    ("output_hash", .str packet.response.integrity.outputHash),
    ("trace_hash", .str packet.traceArtifact.traceHash), ("circuit_hash", .str circuitHash),
    ("verification_key_hash", .str vkHash), ("proof", .dict (proof.dump std))]

/-- What `export_proof_bundle` returns for a packet and a proof. -/
theorem exportProofBundle_inv {proof : Proof std} {bundle : List (String × PyVal)}
    (h : exportProofBundle std backend payload (some packet) (some proof) = .ok bundle) :
    ∃ circuit vkHash, compileCircuit std = .ok circuit ∧
      verificationKeyHash std backend circuit.circuitHash = .ok vkHash ∧
      bundle = honestBundle packet circuit.circuitHash vkHash proof := by
  obtain ⟨_, hpacket, h⟩ := Except.bind_eq_ok_iff.mp h
  obtain ⟨_, hproof, h⟩ := Except.bind_eq_ok_iff.mp h
  obtain ⟨circuit, hcircuit, h⟩ := Except.bind_eq_ok_iff.mp h
  obtain ⟨vkHash, hvk, h⟩ := Except.bind_eq_ok_iff.mp h
  cases hpacket
  cases hproof
  cases h
  exact ⟨circuit, vkHash, hcircuit, hvk, rfl⟩

section Honest

variable {circuit : PlonkCircuit} {vkHash : String} {proof : Proof std}

/-- The bundle is read as what it was exported from. -/
theorem honestBundle_reads (h : buildTracePacket std payload producedBy cycle = .ok packet)
    (circuitHash vkHash : String) (proof : Proof std) :
    ∃ packet', Reads std (honestBundle packet circuitHash vkHash proof) packet' proof ∧
      packet'.response = packet.response ∧
      packet'.traceArtifact.traceHash = packet.traceArtifact.traceHash ∧
      packet'.witnessArtifact.publicInputs = packet.witnessArtifact.publicInputs := by
  obtain ⟨packet', hpacket', -, hresponse, htrace, hpublic⟩ :=
    rebuild_packet h "proof_bundle_verify" 1
  refine ⟨packet', ⟨⟨_, rfl, hpacket'⟩, ?_⟩, hresponse, htrace, hpublic⟩
  have hitem : getItem (honestBundle packet circuitHash vkHash proof) "proof" =
      .ok (.dict (proof.dump std)) := rfl
  rw [bundleProof, hitem, Except.ok_bind, popComputedFields_dump, Except.ok_bind,
    modelValidate_dump]

theorem digest_equal {bundle : List (String × PyVal)} {key hash : String}
    (hitem : getItem bundle key = .ok (.str hash)) (hhash : ∃ text, hash = std.hexdigest text) :
    bundleHashEqual bundle key hash = .ok true := by
  obtain ⟨text, rfl⟩ := hhash
  rw [bundleHashEqual, hitem]
  exact compareDigest_self (std.isAscii_hexdigest text)

theorem exists_of_verificationKeyHash {circuitHash : String}
    (h : verificationKeyHash std backend circuitHash = .ok vkHash) :
    ∃ text, vkHash = std.hexdigest text := by
  obtain ⟨_, -, h⟩ := Except.bind_eq_ok_iff.mp h
  obtain ⟨_, -, h⟩ := Except.bind_eq_ok_iff.mp h
  obtain ⟨manifest, -, h⟩ := Except.bind_eq_ok_iff.mp h
  cases h
  exact ⟨manifest, rfl⟩

theorem exists_of_compileCircuit (h : compileCircuit std = .ok circuit) :
    ∃ text, circuit.circuitHash = std.hexdigest text := by
  obtain ⟨hash, hhash, h⟩ := Except.bind_eq_ok_iff.mp h
  cases h
  exact exists_of_canonicalHash std hhash

/-- The hashes of an exported bundle are right. -/
theorem honestBundle_hashesRight (h : buildTracePacket std payload producedBy cycle = .ok packet)
    (hcircuit : compileCircuit std = .ok circuit)
    (hvk : verificationKeyHash std backend circuit.circuitHash = .ok vkHash) (proof : Proof std)
    {packet' : DeterministicTracePacket std} (hresponse : packet'.response = packet.response)
    (htrace : packet'.traceArtifact.traceHash = packet.traceArtifact.traceHash) :
    HashesRight std backend (honestBundle packet circuit.circuitHash vkHash proof) packet' := by
  obtain ⟨-, hcoherent⟩ := buildTracePacket_inv h
  have hhashes := hashesOf_calculation
    ((calculate_eq_ok_iff (isCanonical_of_packet h)).mp hcoherent.response)
  have htraceHash : ∃ text, packet.traceArtifact.traceHash = std.hexdigest text := by
    rw [hcoherent.traceHash]
    exact exists_of_canonicalHash std hhashes.trace
  refine ⟨circuit, vkHash, hcircuit, hvk, ?_⟩
  rw [expectedHashes, hresponse, htrace]
  simp only [List.forall_mem_cons, List.not_mem_nil, IsEmpty.forall_iff, implies_true, and_true]
  exact ⟨digest_equal rfl (exists_of_canonicalHash std hhashes.input),
    digest_equal rfl (exists_of_canonicalHash std hhashes.output), digest_equal rfl htraceHash,
    digest_equal rfl (exists_of_compileCircuit hcircuit),
    digest_equal rfl (exists_of_verificationKeyHash hvk)⟩

/-- The public inputs of a calculation are told apart by their names. -/
theorem witness_keys_nodup (hcoherent : packet.IsCoherent) :
    (packet.witness.publicInputs.map (·.1)).Nodup := by
  rw [hcoherent.witness]
  show boundInputs.Nodup
  decide

/-- The public inputs of a calculation have the four names, each once. -/
theorem publicInputs_names (h : buildTracePacket std payload producedBy cycle = .ok packet) :
    (packet.witnessArtifact.publicInputs.map (·.1)).Nodup ∧
      ∀ m ∈ packet.witnessArtifact.publicInputs, IsInputName m.1 := by
  obtain ⟨-, hcoherent⟩ := buildTracePacket_inv h
  have hnames : ∀ m ∈ packet.witness.publicInputs, IsInputName m.1 := by
    rw [hcoherent.witness]
    simp [extractWitness, IsInputName]
  rw [hcoherent.witnessData]
  exact ⟨sortMembers_keys_nodup (witness_keys_nodup hcoherent), fun m hm => hnames m (Json.mem_sortMembers.mp hm)⟩

/-- **An exported bundle verifies offline.** -/
theorem honestBundle_valid (hverifies : backend.VerifiesOwn)
    (hreports : backend.ReportsCompiledKeys)
    (h : buildTracePacket std payload producedBy cycle = .ok packet)
    {traceHash provedBy : String} {provedCycle : Int}
    (hproof : buildPlonkProof std backend packet.witnessArtifact traceHash provedBy provedCycle =
      .ok proof)
    (hcircuit : compileCircuit std = .ok circuit)
    (hvk : verificationKeyHash std backend circuit.circuitHash = .ok vkHash) :
    (verifyProofBundle std backend
      (honestBundle packet circuit.circuitHash vkHash proof)).valid = true := by
  obtain ⟨hkeys, hnames⟩ := publicInputs_names h
  obtain ⟨values, huses⟩ := buildPlonkProof_inv hproof
  obtain ⟨packet', hreads, hresponse, htrace, -⟩ :=
    honestBundle_reads h circuit.circuitHash vkHash proof
  rw [verifyProofBundle_valid_iff]
  exact ⟨packet', proof, hreads, honestBundle_hashesRight h hcircuit hvk proof hresponse htrace,
    isValid_of_proverUses hverifies hreports hkeys hnames huses⟩

end Honest

/-! ### Pasted proofs -/

section Pasted

variable {payload' : PyVal} {packet' : DeterministicTracePacket std} {proof proof' : Proof std}
  {circuit : PlonkCircuit} {vkHash : String}

/-- The landed cost among the public inputs of a calculation. -/
theorem packet_landedCost (h : buildTracePacket std payload producedBy cycle = .ok packet) :
    packet.witnessArtifact.publicInputs.lookup "landed_cost" =
      some (String.ofList packet.response.result.landedCost.text) := by
  obtain ⟨-, hcoherent⟩ := buildTracePacket_inv h
  rw [hcoherent.witnessData]
  refine lookup_sortMembers (witness_keys_nodup hcoherent) ?_
  rw [hcoherent.witness]
  rfl

/-- The bundle of a calculation, with everything that it is made of. -/
theorem exists_honestBundle (hfull : std.IsFullLength)
    (hcompile : ∀ circuit, ∃ key, backend.compile circuit = .ok key)
    (hprove : ∀ request, ∃ response, backend.prove request = .ok response)
    {r : ImportCalculationRequest} (hr : r.IsCanonical) {response : CalculationResponse}
    (hresponse : calculateImportLandedCost std r = .ok response) {payload : PyVal}
    (hpayload : ImportCalculationRequest.modelValidate std payload = .ok r) (producedBy : String)
    (cycle : Int) :
    ∃ (packet : DeterministicTracePacket std) (proof : Proof std),
      buildTracePacket std payload producedBy cycle = .ok packet ∧
      packet.request = r ∧ packet.response = response ∧
      buildPlonkProof std backend packet.witnessArtifact packet.traceArtifact.traceHash producedBy
        cycle = .ok proof := by
  obtain ⟨packet, hpacket, hrequest, hpacketResponse⟩ :=
    buildTracePacket_ok hpayload hresponse producedBy cycle
  obtain ⟨-, hcoherent⟩ := buildTracePacket_inv hpacket
  have hcalculation := hashesOf_calculation ((calculate_eq_ok_iff hr).mp hresponse)
  have htraceHash : packet.traceArtifact.traceHash = packet.witnessArtifact.traceHash := by
    rw [hcoherent.witnessData]
  have hprivate : packet.witnessArtifact.privateInputs = r.payload := by
    rw [hcoherent.witnessData, hrequest]
  have hcost := packet_landedCost hpacket
  rw [hpacketResponse] at hcost
  have hdigest : ∃ text, packet.witnessArtifact.traceHash = std.hexdigest text := by
    rw [← htraceHash, hcoherent.traceHash, hpacketResponse]
    exact exists_of_canonicalHash std hcalculation.trace
  obtain ⟨proof, hproof⟩ := buildPlonkProof_ok hfull hcompile hprove hdigest
    (generateAssignment_ok hr hresponse hprivate hcost) producedBy cycle
  rw [← htraceHash] at hproof
  exact ⟨packet, proof, hpacket, hrequest, hpacketResponse, hproof⟩

end Pasted

end Vrl

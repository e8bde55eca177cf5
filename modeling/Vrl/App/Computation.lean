import Vrl.App.EvidenceService
import Vrl.Backend.VerifiedRecords

/-!
# Vrl.App.Computation

The computation phase of `EvidenceService.calculate_and_persist`
(`app/services/evidence_service.py`), which comes before any statement is sent.

A request is calculated, a proof is built and verified, a bundle is exported and verified.
**`computeEvidence_inv`** says what the rows are made of when all this has gone through.
-/

open TextCodec Pydantic

namespace Vrl

open Zk

variable (std : PyStd) (backend : Backend)

/-! ### Identifiers -/

/-- `EVIDENCE_NAMESPACE`. -/
def evidenceNamespace : Uuid := ⟨0xd9ec1f3e2d2745d4af5fd8d5efcb7c1e⟩

example : String.ofList evidenceNamespace.text = "d9ec1f3e-2d27-45d4-af5f-d8d5efcb7c1e" := by
  decide +kernel

/-- `deterministic_request_id`. -/
def deterministicRequestId (inputHash : String) : Uuid :=
  std.uuid5 evidenceNamespace ("request:" ++ inputHash)

/-- `deterministic_result_id`. -/
def deterministicResultId (requestId : Uuid) (outputHash : String) : Uuid :=
  std.uuid5 evidenceNamespace ("result:" ++ String.ofList requestId.text ++ ":" ++ outputHash)

/-- `deterministic_proof_id`. -/
def deterministicProofId (requestId : Uuid) (finalProof : String) : Uuid :=
  std.uuid5 evidenceNamespace ("proof:" ++ String.ofList requestId.text ++ ":" ++ finalProof)

/-! ### The computation -/

/-- `_build_records`. -/
def buildRecords (request : ImportCalculationRequest) (response : CalculationResponse)
    (createdAt : DateTime) (zkProof : Proof std) (proofBundle : List (String × PyVal))
    (verificationKeyHash : String) : RequestRecord × ResultRecord × ProofRecord :=
  let requestId := deterministicRequestId std response.integrity.inputHash
  ({ id := requestId
     inputHash := response.integrity.inputHash
     rawInput := request.jsonPayload
     createdAt },
   { id := deterministicResultId std requestId response.integrity.outputHash
     requestId
     outputHash := response.integrity.outputHash
     rawOutput := response.jsonPayload
     createdAt },
   { id := deterministicProofId std requestId zkProof.finalProof
     requestId
     traceHash := response.integrity.traceHash
     finalProof := zkProof.finalProof
     integrityHash := response.integrity.integrityHash
     proofSystem := zkProof.proofSystem
     circuitHash := zkProof.circuitHash std
     verificationKeyHash
     proofBundle
     proofVerified := true
     createdAt })

/-- An exception of the computation, as the service passes it on. -/
def passOn {α : Type} (x : Except PyError α) : Except Exc α := x.mapError .python

/-- `PersistenceIntegrityError`, unless the check holds. -/
def requireIntegrity (holds : Bool) (message : String) : Except Exc Unit :=
  if holds then .ok () else .error (.persistenceIntegrity message)

/-- The first phase of `calculate_and_persist`, at the time `createdAt`. -/
def computeEvidence (requestPayload : PyVal) (createdAt : DateTime) : Except Exc Computed := do
  let request ← passOn (ImportCalculationRequest.modelValidate std requestPayload)
  let response ← passOn (calculateImportLandedCost std request)
  let tracePacket ← passOn (buildTracePacket std (.dict request.payload) "evidence_service" 1)
  let zkProof ← passOn (buildPlonkProof std backend tracePacket.witnessArtifact
    tracePacket.traceArtifact.traceHash "evidence_service" 1)
  let zkVerification ← passOn (verifyPlonkProof std backend zkProof "evidence_service" 1)
  requireIntegrity (zkVerification.status = .valid)
    ("ZK proof verification failed before persistence: " ++ zkVerification.reason)
  let proofBundle ← passOn (exportProofBundle std backend (.dict request.payload)
    (some tracePacket) (some zkProof))
  let bundleVerification := verifyProofBundle std backend proofBundle
  requireIntegrity bundleVerification.valid
    ("Exported proof bundle failed offline verification: " ++ bundleVerification.reason)
  let (requestRecord, resultRecord, proofRecord) := buildRecords std request response createdAt
    zkProof proofBundle bundleVerification.verificationKeyHash
  return {
    request := requestRecord
    result := resultRecord
    proof := proofRecord
    buildVerifiedTrainingRecord := fun insertedAudit => do
      let evidence : PersistedEvidenceBundle :=
        ⟨requestRecord, resultRecord, proofRecord, some insertedAudit⟩
      let _ ← buildVerifiedTrainingRecord std { response with evidence } zkProof
        tracePacket.witnessArtifact.witnessHash bundleVerification.verificationKeyHash proofBundle
      return () }

/-! ### What the rows are made of -/

section Computed

variable {std backend}

theorem passOn_eq_ok_iff {α : Type} {x : Except PyError α} {a : α} :
    passOn x = .ok a ↔ x = .ok a := by
  cases x with
  | error e => simp [passOn, Except.mapError]
  | ok b => simp [passOn, Except.mapError]

theorem requireIntegrity_eq_ok_iff {holds : Bool} {message : String} {u : Unit} :
    requireIntegrity holds message = .ok u ↔ holds = true := by
  cases holds with
  | false => simp [requireIntegrity]
  | true => exact iff_of_true rfl rfl

variable (std backend) in
/-- The rows are those of a calculation with a valid bundle of its proof, and a training record can
be made of them. -/
structure Computes (c : Computed) (request : ImportCalculationRequest)
    (response : CalculationResponse) (createdAt : DateTime) (zkProof : Proof std)
    (proofBundle : List (String × PyVal)) (verificationKeyHash : String) : Prop where
  rows : (c.request, c.result, c.proof) =
    buildRecords std request response createdAt zkProof proofBundle verificationKeyHash
  valid : (verifyProofBundle std backend proofBundle).valid = true
  bundled : getItem proofBundle "proof" = .ok (.dict (zkProof.dump std))
  record : ∀ inserted, c.buildVerifiedTrainingRecord inserted = .ok ()

/-- **What has been computed when a call begins to persist it.** -/
theorem computeEvidence_inv {payload : PyVal} {createdAt : DateTime} {c : Computed}
    (h : computeEvidence std backend payload createdAt = .ok c) :
    ∃ request response zkProof proofBundle vkHash,
      ImportCalculationRequest.modelValidate std payload = .ok request ∧
      calculateImportLandedCost std request = .ok response ∧
      Computes std backend c request response createdAt zkProof proofBundle vkHash := by
  simp only [computeEvidence, Except.bind_eq_ok_iff, passOn_eq_ok_iff,
    requireIntegrity_eq_ok_iff] at h
  obtain ⟨request, hrequest, response, hresponse, packet, hpacket, zkProof, hproof, verification,
    hverification, _, hvalid, bundle, hbundle, _, hbundleValid, h⟩ := h
  cases h
  obtain ⟨circuit, vkHash, -, -, rfl⟩ := exportProofBundle_inv hbundle
  have hbundled : getItem (honestBundle packet circuit.circuitHash vkHash zkProof) "proof" =
      .ok (.dict (zkProof.dump std)) := rfl
  refine ⟨request, response, zkProof, _, _, hrequest, hresponse, rfl, hbundleValid, hbundled, ?_⟩
  intro inserted
  obtain ⟨record, hrecord⟩ := buildVerifiedTrainingRecord_ok hbundled _ zkProof _ _
  exact Except.bind_eq_ok_iff.mpr ⟨record, hrecord, rfl⟩

/-- Where the back end answers and verifies what it proves, **a request that the engine answers is
computed**. -/
theorem computeEvidence_ok (hfull : std.IsFullLength) (hverifies : backend.VerifiesOwn)
    (hreports : backend.ReportsCompiledKeys)
    (hcompile : ∀ circuit, ∃ key, backend.compile circuit = .ok key)
    (hmanifest : ∀ key, ∃ manifest, backend.readVerificationManifest key = .ok manifest)
    (hprove : ∀ request, ∃ response, backend.prove request = .ok response)
    {r : ImportCalculationRequest} (hr : r.IsCanonical) {response : CalculationResponse}
    (hresponse : calculateImportLandedCost std r = .ok response) {payload : PyVal}
    (hpayload : ImportCalculationRequest.modelValidate std payload = .ok r)
    (createdAt : DateTime) : ∃ c, computeEvidence std backend payload createdAt = .ok c := by
  obtain ⟨packet, zkProof, circuitHash, vkHash, hpacket, -, -, hproof, hbundle, hvalid⟩ :=
    exists_validBundle hfull hverifies hreports hcompile hmanifest hprove hr hresponse
      (modelValidate_payload std hr) "evidence_service" 1
  have hbundled : getItem (honestBundle packet circuitHash vkHash zkProof) "proof" =
      .ok (.dict (zkProof.dump std)) := rfl
  obtain ⟨verification, hverification, hstatus⟩ :=
    verifyPlonkProof_status std backend zkProof "evidence_service" 1
  have hverified : decide (verification.status = .valid) = true :=
    decide_eq_true (hstatus.mpr (isValid_of_bundle std backend hvalid hbundled
      (modelValidate_dump zkProof)))
  simp only [computeEvidence, Except.bind_eq_ok_iff, passOn_eq_ok_iff, requireIntegrity_eq_ok_iff]
  exact ⟨_, r, hpayload, response, hresponse, packet, hpacket, zkProof, hproof, verification,
    hverification, (), hverified, _, hbundle, (), hvalid, rfl⟩

end Computed

end Vrl

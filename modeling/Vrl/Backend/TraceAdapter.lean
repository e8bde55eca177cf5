import Vrl.Core.Recalculation
import Vrl.Zk.Interfaces

/-!
# Vrl.Backend.TraceAdapter

From a request payload to the artifacts that a proof is made from
(`backend/trace_adapter.py`).
-/

namespace Vrl

open Zk

variable (std : PyStd)

/-- `DeterministicTracePacket`. -/
structure DeterministicTracePacket where
  request : ImportCalculationRequest
  response : CalculationResponse
  witness : ZKWitness
  traceArtifact : Trace std
  witnessArtifact : Witness std

/-- `build_trace_packet`. -/
def buildTracePacket (requestPayload : PyVal) (producedBy : String) (cycle : Int) :
    Except PyError (DeterministicTracePacket std) := do
  let request ← ImportCalculationRequest.modelValidate std requestPayload
  let response ← calculateImportLandedCost std request
  let witness := extractWitness request response
  let traceArtifact ← buildTraceArtifact std response.integrity.inputHash response.trace producedBy
    cycle
  let witnessArtifact ← buildWitnessArtifact std {
    traceArtifactId := traceArtifact.artifactId
    inputHash := response.integrity.inputHash
    outputHash := response.integrity.outputHash
    traceHash := traceArtifact.traceHash
    publicInputs := Json.sortMembers witness.publicInputs
    privateInputs := request.payload } producedBy cycle
  if response.integrity.traceHash ≠ traceArtifact.traceHash then
    .error ⟨.runtimeError, "Trace artifact hash diverged from deterministic engine proof trace hash"⟩
  else if response.integrity.inputHash ≠ witnessArtifact.inputHash ∨
      response.integrity.outputHash ≠ witnessArtifact.outputHash then
    .error ⟨.runtimeError, "Witness artifact hashes diverged from deterministic engine proof hashes"⟩
  else return { request, response, witness, traceArtifact, witnessArtifact }

/-! ### What a packet consists of -/

/-- The parts of a packet are those of the calculation of its request. -/
structure DeterministicTracePacket.IsCoherent (packet : DeterministicTracePacket std) : Prop where
  response : calculateImportLandedCost std packet.request = .ok packet.response
  witness : packet.witness = extractWitness packet.request packet.response
  steps : packet.traceArtifact.steps = packet.response.trace
  traceHash : packet.traceArtifact.traceHash = packet.response.integrity.traceHash
  witnessData : packet.witnessArtifact.toWitnessData = {
    traceArtifactId := packet.traceArtifact.artifactId
    inputHash := packet.response.integrity.inputHash
    outputHash := packet.response.integrity.outputHash
    traceHash := packet.traceArtifact.traceHash
    publicInputs := Json.sortMembers packet.witness.publicInputs
    privateInputs := packet.request.payload }

variable {std}

variable {payload : PyVal} {producedBy : String} {cycle : Int}

/-- **A packet is built from the request that the payload is validated to.** -/
theorem buildTracePacket_inv {packet : DeterministicTracePacket std}
    (h : buildTracePacket std payload producedBy cycle = .ok packet) :
    ImportCalculationRequest.modelValidate std payload = .ok packet.request ∧
      packet.IsCoherent := by
  unfold buildTracePacket at h
  obtain ⟨request, hrequest, h⟩ := Except.bind_eq_ok_iff.mp h
  obtain ⟨response, hresponse, h⟩ := Except.bind_eq_ok_iff.mp h
  obtain ⟨trace, htrace, h⟩ := Except.bind_eq_ok_iff.mp h
  obtain ⟨witness, hwitness, h⟩ := Except.bind_eq_ok_iff.mp h
  split at h
  · cases h
  · next hhash =>
      split at h
      · cases h
      · cases h
        exact ⟨hrequest, hresponse, rfl, buildTraceArtifact_inv htrace,
          (Decidable.not_not.mp hhash).symm, buildWitnessArtifact_inv hwitness⟩

/-- **A request that the engine answers has a packet.** -/
theorem buildTracePacket_ok {r : ImportCalculationRequest}
    (hvalid : ImportCalculationRequest.modelValidate std payload = .ok r)
    {response : CalculationResponse} (hresponse : calculateImportLandedCost std r = .ok response)
    (producedBy : String) (cycle : Int) :
    ∃ packet, buildTracePacket std payload producedBy cycle = .ok packet ∧
      packet.request = r ∧ packet.response = response := by
  have hcanonical := isCanonical_of_calculate hvalid hresponse
  have hhashes := hashesOf_calculation ((calculate_eq_ok_iff hcanonical).mp hresponse)
  obtain ⟨trace, htrace⟩ : ∃ trace, buildTraceArtifact std response.integrity.inputHash
      response.trace producedBy cycle = .ok trace := buildTraceArtifact_ok ..
  obtain ⟨witness, hwitness⟩ : ∃ witness, buildWitnessArtifact std {
      traceArtifactId := trace.artifactId
      inputHash := response.integrity.inputHash
      outputHash := response.integrity.outputHash
      traceHash := trace.traceHash
      publicInputs := Json.sortMembers (extractWitness r response).publicInputs
      privateInputs := r.payload } producedBy cycle = .ok witness :=
    buildWitnessArtifact_ok rfl producedBy cycle
  have hsame : response.integrity.traceHash = trace.traceHash := by
    have htraceHash := trace.canonicalHash_steps
    rw [buildTraceArtifact_inv htrace, hhashes.trace] at htraceHash
    exact Except.ok.inj htraceHash
  have hdata := buildWitnessArtifact_inv hwitness
  have hinput : response.integrity.inputHash = witness.inputHash := by rw [hdata]
  have houtput : response.integrity.outputHash = witness.outputHash := by rw [hdata]
  refine ⟨⟨r, response, extractWitness r response, trace, witness⟩, ?_, rfl, rfl⟩
  rw [buildTracePacket, hvalid, Except.ok_bind, hresponse, Except.ok_bind, htrace, Except.ok_bind,
    hwitness, Except.ok_bind, if_neg (not_not.mpr hsame), if_neg]
  · rfl
  · rw [not_or]
    exact ⟨not_not.mpr hinput, not_not.mpr houtput⟩

end Vrl

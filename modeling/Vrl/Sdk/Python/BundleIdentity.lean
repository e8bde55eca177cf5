import Vrl.Sdk.Python.VerifierSpec

/-!
# Vrl.Sdk.Python.BundleIdentity

The identifier of an accepted bundle binds what was computed.

The identifier is a name-based UUID of the integrity hash, which is a hash of three
hashes written one after the other. That text alone does not say where one hash
ends; the format check does, by fixing the length of each.
-/

open TextCodec CheckPipeline

namespace Vrl.Sdk.Python

variable (std : PyStd)

/-! ### What acceptance fixes -/

/-- The text that the integrity hash is taken over. -/
def hashedText (bundle : ProofBundle) : String :=
  bundle.computation.inputHash ++ bundle.computation.outputHash ++ bundle.computation.traceHash

/-- The identifier follows from the integrity hash, that one from three hashes, and
the first two of these have a fixed length. -/
structure Identified (bundle : ProofBundle) : Prop where
  bundleId_eq : computeBundleIdFromIntegrity std bundle.computation.integrityHash = bundle.bundleId
  integrityHash_eq : std.hexdigest (hashedText bundle) = bundle.computation.integrityHash
  inputHash_length : bundle.computation.inputHash.toList.length = 64
  outputHash_length : bundle.computation.outputHash.toList.length = 64

theorem length_of_isValidHexHash {value : String} (h : isValidHexHash value = true) :
    value.toList.length = 64 := by
  obtain ⟨hlen, -⟩ := Bool.and_eq_true_iff.mp h
  exact of_decide_eq_true (Bool.and_eq_true_iff.mp hlen).1

/-- Every bundle that the verifier accepts is identified by its hashes. -/
theorem identified_of_isValid {registry : CircuitRegistry} {bundle : ProofBundle}
    (h : (verify std registry bundle).isValid = true) : Identified std bundle := by
  rw [VerificationResult.isValid, Bool.or_eq_true, decide_eq_true_eq, decide_eq_true_eq] at h
  have hchecks := (verify_characterised std registry bundle).accepted_iff.mp h
  simp only [requiredChecks, List.forall_mem_cons, decide_eq_true_eq] at hchecks
  obtain ⟨-, hformat, hid, hintegrity, -⟩ := hchecks
  obtain ⟨-, hfields⟩ := Bool.and_eq_true_iff.mp hformat
  simp only [hashFields, List.all_cons, Bool.and_eq_true] at hfields
  obtain ⟨-, hin, hout, -⟩ := hfields
  exact ⟨hid, hintegrity, length_of_isValidHexHash hin, length_of_isValidHexHash hout⟩

/-! ### Binding -/

theorem computeBundleId_inj {h h' : String}
    (hfree : CollisionFree (std.uuid5 vrlNamespaceUuid) h h')
    (heq : computeBundleIdFromIntegrity std h = computeBundleIdFromIntegrity std h') : h = h' :=
  hfree (Uuid.text_injective (String.ofList_injective heq))

/-- **Accepted bundles with one identifier are about the same hashes**, as long as
neither SHA-256 nor the name-based UUID collides on what the two bundles put into
them. -/
theorem accepted_bundles_bound_by_id {registry registry' : CircuitRegistry} {b b' : ProofBundle}
    (hsha : CollisionFree std.hexdigest (hashedText b) (hashedText b'))
    (huuid : CollisionFree (std.uuid5 vrlNamespaceUuid) b.computation.integrityHash
      b'.computation.integrityHash)
    (hb : (verify std registry b).isValid = true) (hb' : (verify std registry' b').isValid = true)
    (hid : b.bundleId = b'.bundleId) :
    b.computation.integrityHash = b'.computation.integrityHash ∧
      b.computation.inputHash = b'.computation.inputHash ∧
      b.computation.outputHash = b'.computation.outputHash ∧
      b.computation.traceHash = b'.computation.traceHash := by
  have hi := identified_of_isValid std hb
  have hi' := identified_of_isValid std hb'
  have hintegrity : b.computation.integrityHash = b'.computation.integrityHash := by
    refine computeBundleId_inj std huuid ?_
    rw [hi.bundleId_eq, hi'.bundleId_eq, hid]
  have htext : hashedText b = hashedText b' := by
    refine hsha ?_
    rw [hi.integrityHash_eq, hi'.integrityHash_eq, hintegrity]
  -- the lengths fixed by the format split the text
  rw [hashedText, hashedText, String.append_assoc, String.append_assoc] at htext
  obtain ⟨hin, hrest⟩ := String.append_inj_of_length htext
    (hi.inputHash_length.trans hi'.inputHash_length.symm)
  exact ⟨hintegrity, hin, String.append_inj_of_length hrest
    (hi.outputHash_length.trans hi'.outputHash_length.symm)⟩

/-- A bundle about the hashes 1, 2 and 3, for the model whose AI-ID is `n`. -/
def numberedBundle (n : Nat) : ProofBundle :=
  honestBundle lengthStd (String.ofList (hexFixed 64 n)) (String.ofList (hexFixed 64 1))
    (String.ofList (hexFixed 64 2)) (String.ofList (hexFixed 64 3))

theorem numberedBundle_isValid (n : Nat) :
    (verify lengthStd (mockRegistry lengthStd) (numberedBundle n)).isValid = true := by
  have hvalid := honestBundle_valid lengthStd (fun s => isValidHexHash_hexFixed s.utf8ByteSize)
    (isValidHexHash_hexFixed n) (isValidHexHash_hexFixed 1) (isValidHexHash_hexFixed 2)
    (isValidHexHash_hexFixed 3)
  rw [VerificationResult.isValid, numberedBundle, hvalid]
  rfl

/-- Two accepted bundles of different models with one identifier. -/
theorem accepted_bundles_bound_by_id_numbered :
    (numberedBundle 4).computation.integrityHash = (numberedBundle 5).computation.integrityHash ∧
      (numberedBundle 4).computation.inputHash = (numberedBundle 5).computation.inputHash ∧
      (numberedBundle 4).computation.outputHash = (numberedBundle 5).computation.outputHash ∧
      (numberedBundle 4).computation.traceHash = (numberedBundle 5).computation.traceHash :=
  accepted_bundles_bound_by_id lengthStd (fun _ => rfl) (fun _ => rfl) (numberedBundle_isValid 4)
    (numberedBundle_isValid 5) rfl

end Vrl.Sdk.Python

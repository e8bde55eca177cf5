import Vrl.Lib.PyStd
import Vrl.Sdk.Go.BundleIdentity
import Vrl.Sdk.Python.VerifierSpec

/-!
# Vrl.Sdk.ProofTampering

What the verdict of the Go verifier says about the proof.

The builder gives a bundle the hash of its proof, and the Python verifier recomputes it.
The Go verifier looks at the format of the proof bytes and of the hash, so that no valid
bundle is safe from changes to its proof (**`tamperEvident_iff`**).
-/

open TextCodec CheckPipeline

namespace Vrl.Sdk

/-! ### One proof in two SDKs -/

/-- A computation as the Python SDK reads it. -/
def Go.Computation.toPython (computation : Go.Computation) : Python.Computation where
  circuitId := computation.circuitId
  circuitVersion := computation.circuitVersion
  circuitHash := computation.circuitHash
  inputHash := computation.inputHash
  outputHash := computation.outputHash
  traceHash := computation.traceHash
  integrityHash := computation.integrityHash

/-- A proof as the Python SDK reads it: no commitments are none. -/
def Go.Proof.toPython (proof : Go.Proof) : Python.Proof where
  proofSystem := proof.proofSystem
  proofBytes := proof.proofBytes
  publicInputs := proof.publicInputs
  verificationKeyId := proof.verificationKeyId
  proofHash := proof.proofHash
  commitments := if proof.commitments = [] then none else some proof.commitments

/-- The fields that are altered, and nothing else. -/
def Go.ProofBundle.withProof (bundle : Go.ProofBundle) (proofBytes : String)
    (publicInputs : List String) (proofSystem : String) : Go.ProofBundle :=
  { bundle with proof := { bundle.proof with proofBytes, publicInputs, proofSystem } }

variable (std : PyStd)

/-- The verdict on a bundle depends on what its proof is. -/
structure TamperEvident (bundle : Go.ProofBundle) : Prop where
  recomputed : (Go.verify std.toSha256 bundle).status = some .valid →
    bundle.proof.proofHash = Go.builtProofHash std.toSha256 bundle
  altered : (Go.verify std.toSha256 bundle).status = some .valid →
    ∀ proofBytes publicInputs proofSystem,
      bundle.withProof proofBytes publicInputs proofSystem ≠ bundle →
      (Go.verify std.toSha256 (bundle.withProof proofBytes publicInputs proofSystem)).status ≠
        some .valid
  refines : ∀ goResult, (Go.step6 bundle goResult).2 = true →
    ∀ (pythonBundle : Python.ProofBundle) result,
      pythonBundle.proof = bundle.proof.toPython →
      pythonBundle.computation = bundle.computation.toPython →
      (Python.step6ProofStructureValidation std pythonBundle result).2 = true

/-! ### What the verdict depends on -/

/-- The proof hash that Python recomputes from the fields of a bundle. -/
def pythonProofHash (bundle : Go.ProofBundle) : String :=
  Python.computeProofHash std bundle.computation.circuitHash bundle.proof.proofBytes
    bundle.proof.publicInputs bundle.proof.proofSystem bundle.computation.traceHash

/-- Python's step 6 has no objection to the proof. -/
def pythonAcceptsProof (bundle : Go.ProofBundle) : Bool :=
  Python.validSystems.contains bundle.proof.proofSystem &&
    pythonProofHash std bundle = bundle.proof.proofHash

/-- A step of Python that makes a check goes on when the check holds. -/
theorem pythonStep6_eq {bundle : Go.ProofBundle} {pythonBundle : Python.ProofBundle}
    (hproof : pythonBundle.proof = bundle.proof.toPython)
    (hcomputation : pythonBundle.computation = bundle.computation.toPython)
    (result : Python.VerificationResult) :
    (Python.step6ProofStructureValidation std pythonBundle result).2 =
      pythonAcceptsProof std bundle := by
  have hhash : Python.recomputedProofHash std pythonBundle = pythonProofHash std bundle := by
    rw [Python.recomputedProofHash, hproof, hcomputation]
    rfl
  unfold Python.step6ProofStructureValidation pythonAcceptsProof
  simp only [hhash, hproof, Go.Proof.toPython]
  cases Python.validSystems.contains bundle.proof.proofSystem with
  | false => rfl
  | true =>
      by_cases heq : pythonProofHash std bundle = bundle.proof.proofHash
      · simp [heq, Python.VerificationResult.accept]
      · simp [heq, Python.VerificationResult.reject]

/-- A bundle of the Python SDK with the proof and the computation of one of the Go SDK. -/
def pythonBearer (bundle : Go.ProofBundle) : Python.ProofBundle where
  vrlVersion := bundle.vrlVersion
  bundleId := bundle.bundleId
  issuedAt := bundle.issuedAt
  aiIdentity :=
    { aiId := bundle.aiIdentity.aiId
      modelName := bundle.aiIdentity.modelName
      modelVersion := bundle.aiIdentity.modelVersion
      providerId := bundle.aiIdentity.providerId
      executionEnvironment := bundle.aiIdentity.executionEnvironment }
  computation := bundle.computation.toPython
  proof := bundle.proof.toPython

theorem proof_pythonBearer (bundle : Go.ProofBundle) :
    (pythonBearer bundle).proof = bundle.proof.toPython := rfl

theorem computation_pythonBearer (bundle : Go.ProofBundle) :
    (pythonBearer bundle).computation = bundle.computation.toPython := rfl

theorem goStep6_eq (bundle : Go.ProofBundle) (result : Go.VerificationResult) :
    (Go.step6 bundle result).2 = (Go.verifyProof bundle).isNone := by
  unfold Go.step6
  cases Go.verifyProof bundle with
  | none => rfl
  | some err => rfl

/-- Other proof bytes that are hexadecimal digits. -/
def otherBytes (proofBytes : String) : String := if proofBytes = "00" then "01" else "00"

theorem otherBytes_ne (proofBytes : String) : otherBytes proofBytes ≠ proofBytes := by
  unfold otherBytes
  by_cases h : proofBytes = "00"
  · rw [if_pos h, h]
    decide
  · rw [if_neg h]
    exact Ne.symm h

theorem otherBytes_format (proofBytes : String) :
    otherBytes proofBytes ≠ "" ∧ Go.isValidHex (otherBytes proofBytes) = true := by
  unfold otherBytes
  by_cases h : proofBytes = "00"
  · rw [if_pos h]
    decide +kernel
  · rw [if_neg h]
    decide +kernel

/-- A bundle with other proof bytes and everything else as before. -/
def withOtherBytes (bundle : Go.ProofBundle) : Go.ProofBundle :=
  bundle.withProof (otherBytes bundle.proof.proofBytes) bundle.proof.publicInputs
    bundle.proof.proofSystem

theorem withOtherBytes_ne (bundle : Go.ProofBundle) : withOtherBytes bundle ≠ bundle := by
  intro heq
  exact otherBytes_ne bundle.proof.proofBytes
    (congrArg (fun b : Go.ProofBundle => b.proof.proofBytes) heq)

/-- The format checks of the proof pass with other bytes. -/
theorem verifyProof_withOtherBytes {bundle : Go.ProofBundle}
    (h : (Go.verifyProof bundle).isNone = true) :
    (Go.verifyProof (withOtherBytes bundle)).isNone = true := by
  obtain ⟨hne, hhex⟩ := otherBytes_format bundle.proof.proofBytes
  by_cases hbytes : bundle.proof.proofBytes = ""
  · simp [Go.verifyProof, hbytes] at h
  · by_cases hvalid : Go.isValidHex bundle.proof.proofBytes = true
    · simpa [Go.verifyProof, withOtherBytes, Go.ProofBundle.withProof, hne, hhex, hbytes, hvalid]
        using h
    · simp [Go.verifyProof, hbytes, hvalid] at h

/-- **A valid bundle stays valid when its proof bytes are replaced.** -/
theorem withOtherBytes_valid {sha : Sha256} {bundle : Go.ProofBundle}
    (h : (Go.verify sha bundle).status = some .valid) :
    (Go.verify sha (withOtherBytes bundle)).status = some .valid := by
  rw [Go.status_eq_valid_iff] at h ⊢
  simp only [Go.requiredChecks, List.forall_mem_cons, List.not_mem_nil, false_implies,
    implies_true, and_true] at h ⊢
  obtain ⟨hversion, hschema, hid, hintegrity, hcircuit, hproof, hcommitments⟩ := h
  exact ⟨hversion, hschema, hid, hintegrity, hcircuit, verifyProof_withOtherBytes hproof,
    hcommitments⟩

/-! ### Where a change is noticed -/

/-- **The proof of a bundle is bound to the verdict exactly when the verdict is not that
the bundle is valid**: when the format checks of the proof fail, or another check does and
Python has no objection to the proof. -/
theorem tamperEvident_iff (bundle : Go.ProofBundle) :
    TamperEvident std bundle ↔
      (Go.verifyProof bundle).isSome = true ∨
        ((∃ c ∈ Go.requiredChecks std.toSha256 bundle, c.holds = false) ∧
          pythonAcceptsProof std bundle = true) := by
  have hvalid := Go.status_eq_valid_iff std.toSha256 bundle
  have hfails : (Go.verify std.toSha256 bundle).status ≠ some .valid ↔
      ∃ c ∈ Go.requiredChecks std.toSha256 bundle, c.holds = false := by
    rw [ne_eq, hvalid]
    simp
  constructor
  · intro hevident
    have hinvalid : (Go.verify std.toSha256 bundle).status ≠ some .valid := by
      intro h
      exact hevident.altered h _ _ _ (withOtherBytes_ne bundle) (withOtherBytes_valid h)
    cases hformat : Go.verifyProof bundle with
    | some err => exact Or.inl rfl
    | none =>
        refine Or.inr ⟨hfails.mp hinvalid, ?_⟩
        have haccepts := hevident.refines {} (by rw [goStep6_eq, hformat]; rfl)
        -- any bundle with this proof and computation will do
        have hpython := haccepts (pythonBearer bundle) { status := .valid, bundleId := "" } rfl rfl
        rwa [pythonStep6_eq std (proof_pythonBearer bundle) (computation_pythonBearer bundle)]
          at hpython
  · intro hcases
    have hinvalid : (Go.verify std.toSha256 bundle).status ≠ some .valid := by
      rcases hcases with hformat | ⟨hother, -⟩
      · rw [hfails]
        refine ⟨⟨(Go.verifyProof bundle).isNone, .proofInvalid⟩, by simp [Go.requiredChecks], ?_⟩
        rw [← Option.not_isSome, hformat]
        rfl
      · exact hfails.mpr hother
    refine ⟨fun h => absurd h hinvalid, fun h => absurd h hinvalid, ?_⟩
    intro goResult hgo pythonBundle result hproof hcomputation
    rw [goStep6_eq] at hgo
    rw [pythonStep6_eq std hproof hcomputation]
    rcases hcases with hformat | ⟨-, haccepts⟩
    · rw [← Option.not_isSome, hformat] at hgo
      cases hgo
    · exact haccepts

/-! ### A bundle with a proof hash of zeros -/

/-- The text that the public inputs of the sample are hashed as. -/
def samplePublicInputsText : String := Go.canonicalJson (.arr [.str "0"])

/-- The digests of the texts that the sample is hashed as. -/
def sampleProofDigests : DigestTable where
  entries :=
    [(Go.digits 1 ++ Go.digits 2 ++ Go.digits 3,
        "924bfdf88d318a23d686e53bfd001fe79ecd71d656bfa576d189f97b8ac14bbf"),
      (String.ofList (Go.vrlNamespace.toList.filter (· != '-')) ++
          "924bfdf88d318a23d686e53bfd001fe79ecd71d656bfa576d189f97b8ac14bbf",
        "dce93422d3f0412992ded15be16ce5edbe52260a5cc5f84e90d8594ecad683db"),
      (samplePublicInputsText, "a37bbbb0764cc5bf8d8c251cb1c95e3d2e142934792916ccb362ceb5902d9f0b"),
      (Go.canonicalJson (.obj [
          ("circuit_hash", .str (Go.digits 0)),
          ("proof_bytes", .str "00"),
          ("public_inputs", .arr [.str "0"]),
          ("proof_system", .str "sha256-deterministic"),
          ("trace_hash", .str (Go.digits 3)),
          ("public_inputs_hash", .str "a37bbbb0764cc5bf8d8c251cb1c95e3d2e142934792916ccb362ceb5902d9f0b")]),
        "5c730222aee1f24c3a086db7fa2bb82623e0028a747856822d66742f60db536b")]
  isDigest := by decide +kernel
  distinct := by decide +kernel

/-- The library with these digests. -/
def sampleProofStd : PyStd := { lengthStd with toSha256 := sampleProofDigests.sha }

/-- A bundle about three numbers. Its proof hash is 64 zeros. -/
def unboundBundle : Go.ProofBundle :=
  Go.honestBundle sampleProofStd.toSha256 (Go.digits 1) (Go.digits 2) (Go.digits 3)

theorem sampleProofStd_ne {value : String} (hentries : ∀ e ∈ sampleProofDigests.entries, e.2 ≠ value)
    (hfirst : value.toList.head? ≠ some '1') (s : String) :
    sampleProofStd.hexdigest s ≠ value := by
  rw [sampleProofStd]
  exact DigestTable.digest_ne _ hentries hfirst s

theorem unboundBundle_proofHash : unboundBundle.proof.proofHash = Go.digits 0 := by
  rw [unboundBundle, Go.honestBundle]

/-- The verifier accepts the bundle, and so it does with other proof bytes. -/
theorem unboundBundle_accepted :
    (Go.verify sampleProofStd.toSha256 unboundBundle).status = some .valid ∧
      unboundBundle.proof.proofHash ≠
        Go.builtProofHash sampleProofStd.toSha256 unboundBundle ∧
      (Go.verify sampleProofStd.toSha256 (withOtherBytes unboundBundle)).status = some .valid ∧
      ¬ TamperEvident sampleProofStd unboundBundle := by
  have hempty : ∀ s, sampleProofStd.hexdigest s ≠ "" := by
    refine sampleProofStd_ne ?_ (by decide)
    simp only [sampleProofDigests, List.forall_mem_cons, List.not_mem_nil, false_implies,
      implies_true, and_true]
    decide
  have hzeros : ∀ s, sampleProofStd.hexdigest s ≠ Go.digits 0 := by
    refine sampleProofStd_ne ?_ (by rw [Go.digits, String.toList_ofList]; decide)
    simp only [sampleProofDigests, List.forall_mem_cons, List.not_mem_nil, false_implies,
      implies_true, and_true]
    decide +kernel
  have hvalid : (Go.verify sampleProofStd.toSha256 unboundBundle).status = some .valid := by
    rw [unboundBundle]
    exact Go.honestBundle_valid _ hempty ..
  have hother := withOtherBytes_valid hvalid
  refine ⟨hvalid, ?_, hother, fun hevident => ?_⟩
  · rw [unboundBundle_proofHash, Go.builtProofHash, Go.computeProofHash, Go.sha256Hex]
    exact Ne.symm (hzeros _)
  · exact hevident.altered hvalid _ _ _ (withOtherBytes_ne unboundBundle) hother

end Vrl.Sdk

import Vrl.Core.FastPathBinding
import Vrl.Zk.PlonkVerifier
import Vrl.Zk.StubProver

/-!
# Vrl.Zk.StubVerifier

The verifier of the structured stub (`zk/verifiers/stub_verifier.py`).

A proof that is reported as valid passes five checks (**`verifyArtifacts_valid_iff`**). They say
nothing about the hashes and the key that the proof names, about how its digits are written, or
about whether the witness is of the trace (**`stub_soundness_iff`**). There is a verdict only where
the digits of the proof can be read and every artifact can be hashed
(**`stub_gives_verdict_iff`**).
-/

open TextCodec PyInt Pydantic

namespace Vrl.Zk

/-! ### Verification -/

/-- A check of `verify_artifacts`: whether it passes, and what is noted in either case. -/
structure StubCheck where
  passes : Bool
  noted : String
  mismatch : String

/-- What is noted of a check. -/
def StubCheck.note (c : StubCheck) : String := if c.passes then c.noted else c.mismatch

variable (std : PyStd) (strOf : StrOf)

/-- The checks of `verify_artifacts`. -/
def stubChecks (circuit : Circuit) (witness : Witness std) (proof : Proof std)
    (verified : Bool) (expectedCommitments : List String) : List StubCheck :=
  [⟨verified, "final_proof_matches_trace_hashes", "final_proof_mismatch"⟩,
    ⟨proof.proofBlobHex == proof.finalProof, "proof_blob_matches_stub_backend",
      "proof_blob_mismatch"⟩,
    ⟨proof.commitments == expectedCommitments, "commitments_match_artifact_hashes",
      "commitments_mismatch"⟩,
    ⟨proof.publicInputs == serializePublicInputs witness.publicInputs,
      "public_inputs_match_witness", "public_inputs_mismatch"⟩,
    ⟨proof.circuitArtifactId == circuit.artifactId && proof.witnessArtifactId == witness.artifactId,
      "proof_bindings_match_dependency_artifacts", "proof_bindings_mismatch"⟩]

/-- The fast-path proof that is read off a proof. -/
def readZkProof (trace : Trace std) (witness : Witness std) (proof : Proof std)
    (proofBytes : PyBytes) : ZKProof where
  proofBytes
  publicInputs := (toZkWitness std trace witness).publicInputs
  verificationKeyId := proof.getMetadata std "verification_key_id"

/-- The result that reports the checks. Its identifier is a hash that covers its cycle. -/
def stubResult (trace : Trace std) (proof : Proof std) (checks : List StubCheck)
    (producedBy : String) (cycle : Int) : Except PyError VerificationResult :=
  let valid := checks.all StubCheck.passes
  let status := if valid then Status.valid else .invalid
  let reason :=
    if valid then "all structured proof checks passed" else "structured proof verification failed"
  if Json.isLongInt cycle then .error longIntError
  else
    buildVerificationArtifact std proof.artifactId "sha256-structured-stub-verifier" status reason
      (checks.map StubCheck.note)
      [("proof_system", proof.proofSystem),
        ("verification_key_id", proof.getMetadata std "verification_key_id"),
        ("trace_artifact_id", trace.artifactId)]
      producedBy cycle

/-- `verify_artifacts`. -/
def verifyArtifacts (circuit : Circuit) (trace : Trace std) (witness : Witness std)
    (proof : Proof std) (producedBy : String) (cycle : Int) : Except PyError VerificationResult := do
  let proofBytes ← PyBytes.fromHex proof.finalProof
  let verified ← verifyZkProof std strOf (readZkProof std trace witness proof proofBytes)
    (toZkWitness std trace witness)
  let expectedCommitments ← deterministicCommitments std circuit trace witness
  stubResult std trace proof (stubChecks std circuit witness proof verified expectedCommitments)
    producedBy cycle

section Facts

variable {std strOf} {circuit : Circuit} {trace : Trace std} {witness : Witness std}
  {proof : Proof std} {producedBy : String} {cycle : Int}

/-! ### Valid proofs -/

/-- A result is reported unless its cycle is too long, and says whether all checks pass. -/
theorem stubResult_ok (checks : List StubCheck) (hcycle : Json.isLongInt cycle = false) :
    ∃ result, stubResult std trace proof checks producedBy cycle = .ok result ∧
      (result.status = .valid ↔ checks.all StubCheck.passes = true) := by
  have hshort : ¬ Json.isLongInt cycle = true := by simp [hcycle]
  rw [stubResult, if_neg hshort]
  obtain ⟨result, hresult, hstatus⟩ := buildVerificationArtifact_ok std proof.artifactId
    "sha256-structured-stub-verifier"
    (if checks.all StubCheck.passes then Status.valid else .invalid)
    (if checks.all StubCheck.passes then "all structured proof checks passed"
      else "structured proof verification failed") (checks.map StubCheck.note)
    [("proof_system", proof.proofSystem),
      ("verification_key_id", proof.getMetadata std "verification_key_id"),
      ("trace_artifact_id", trace.artifactId)] producedBy cycle
  refine ⟨result, hresult, ?_⟩
  rw [hstatus]
  by_cases hvalid : checks.all StubCheck.passes = true
  · rw [if_pos hvalid]
    exact iff_of_true rfl hvalid
  · rw [if_neg hvalid]
    exact iff_of_false nofun hvalid

theorem stubResult_ok_iff {checks : List StubCheck} :
    (∃ result, stubResult std trace proof checks producedBy cycle = .ok result) ↔
      Json.isLongInt cycle = false := by
  cases hcycle : Json.isLongInt cycle with
  | true =>
      refine iff_of_false ?_ Bool.false_ne_true.symm
      rw [stubResult, if_pos hcycle]
      exact Except.not_exists_error_eq_ok _
  | false =>
      obtain ⟨result, hresult, -⟩ := stubResult_ok checks hcycle
      exact iff_of_true ⟨result, hresult⟩ rfl

theorem stubResult_valid_iff {checks : List StubCheck} :
    (∃ result, stubResult std trace proof checks producedBy cycle = .ok result ∧
        result.status = .valid) ↔
      checks.all StubCheck.passes = true ∧ Json.isLongInt cycle = false := by
  cases hcycle : Json.isLongInt cycle with
  | true =>
      refine iff_of_false ?_ fun h => Bool.false_ne_true.symm h.2
      rw [stubResult, if_pos hcycle]
      rintro ⟨result, hresult, -⟩
      exact Except.error_ne_ok _ _ hresult
  | false =>
      obtain ⟨result, hresult, hstatus⟩ : ∃ result, stubResult std trace proof checks producedBy
        cycle = .ok result ∧ (result.status = .valid ↔ checks.all StubCheck.passes = true) :=
          stubResult_ok checks hcycle
      rw [hresult, and_iff_left rfl, ← hstatus]
      constructor
      · intro ⟨result', hsame, hvalid⟩
        cases hsame
        exact hvalid
      · intro hvalid
        exact ⟨result, rfl, hvalid⟩

theorem stubChecks_pass_iff {verified : Bool} {commitments : List String} :
    (stubChecks std circuit witness proof verified commitments).all StubCheck.passes = true ↔
      verified = true ∧ proof.proofBlobHex = proof.finalProof ∧ proof.commitments = commitments ∧
        proof.publicInputs = serializePublicInputs witness.publicInputs ∧
        proof.circuitArtifactId = circuit.artifactId ∧
        proof.witnessArtifactId = witness.artifactId := by
  simp [stubChecks]

/-- What the checks of a proof come to. -/
structure PassesChecks (std : PyStd) (strOf : StrOf) (circuit : Circuit) (trace : Trace std)
    (witness : Witness std) (proof : Proof std) : Prop where
  finalProof : ∃ zkProof, generateZkProof std strOf (toZkWitness std trace witness) = .ok zkProof ∧
    PyBytes.fromHex proof.finalProof = .ok zkProof.proofBytes ∧ zkProof.proofBytes ≠ []
  proofBlobHex : proof.proofBlobHex = proof.finalProof
  commitments : deterministicCommitments std circuit trace witness = .ok proof.commitments
  publicInputs : proof.publicInputs = serializePublicInputs witness.publicInputs
  circuitArtifactId : proof.circuitArtifactId = circuit.artifactId
  witnessArtifactId : proof.witnessArtifactId = witness.artifactId

/-- **A proof is reported as valid exactly if it passes the checks.** -/
theorem verifyArtifacts_valid_iff :
    (∃ result, verifyArtifacts std strOf circuit trace witness proof producedBy cycle =
        .ok result ∧ result.status = .valid) ↔
      PassesChecks std strOf circuit trace witness proof ∧ Json.isLongInt cycle = false := by
  constructor
  · intro ⟨result, h, hvalid⟩
    obtain ⟨bytes, hbytes, h⟩ := Except.bind_eq_ok_iff.mp h
    obtain ⟨verified, hverified, h⟩ := Except.bind_eq_ok_iff.mp h
    obtain ⟨commitments, hcommitments, h⟩ := Except.bind_eq_ok_iff.mp h
    obtain ⟨hchecks, hcycle⟩ := stubResult_valid_iff.mp ⟨result, h, hvalid⟩
    obtain ⟨rfl, hblob, rfl, hinputs, hcircuit, hwitness⟩ := stubChecks_pass_iff.mp hchecks
    obtain ⟨hne, zkProof, hzk, rfl⟩ := verifyZkProof_eq_true_iff.mp hverified
    exact ⟨⟨⟨zkProof, hzk, hbytes, hne⟩, hblob, hcommitments, hinputs, hcircuit, hwitness⟩, hcycle⟩
  · intro ⟨⟨⟨zkProof, hzk, hbytes, hne⟩, hblob, hcommitments, hinputs, hcircuit, hwitness⟩, hcycle⟩
    have hverified : verifyZkProof std strOf
        (readZkProof std trace witness proof zkProof.proofBytes)
        (toZkWitness std trace witness) = .ok true :=
      verifyZkProof_eq_true_iff.mpr ⟨hne, zkProof, hzk, rfl⟩
    rw [verifyArtifacts, hbytes, Except.ok_bind, hverified, Except.ok_bind, hcommitments,
      Except.ok_bind]
    exact stubResult_valid_iff.mpr
      ⟨stubChecks_pass_iff.mpr ⟨rfl, hblob, rfl, hinputs, hcircuit, hwitness⟩, hcycle⟩

/-! ### Soundness -/

/-- The proof equals the one that `prove_artifacts` makes, in all that a proof is bound to, and
the witness is of the trace. -/
structure FullyBound (std : PyStd) (strOf : StrOf) (circuit : Circuit) (trace : Trace std)
    (witness : Witness std) (proof : Proof std) : Prop where
  honest : ∃ honest,
    proveArtifacts std strOf circuit trace witness "performance_optimization" 1 = .ok honest ∧
      proof.inputHash = honest.inputHash ∧ proof.outputHash = honest.outputHash ∧
      proof.traceHash = honest.traceHash ∧
      proof.getMetadata std "verification_key_id" = honest.getMetadata std "verification_key_id" ∧
      proof.publicInputs = honest.publicInputs ∧ proof.commitments = honest.commitments ∧
      proof.finalProof = honest.finalProof
  traceHash : witness.traceHash = trace.traceHash
  traceArtifactId : witness.traceArtifactId = trace.artifactId

/-- What no check looks at is as `prove_artifacts` leaves it. -/
structure UncheckedAgree (std : PyStd) (trace : Trace std) (witness : Witness std)
    (proof : Proof std) : Prop where
  inputHash : proof.inputHash = witness.inputHash
  outputHash : proof.outputHash = witness.outputHash
  traceHash : proof.traceHash = witness.traceHash
  verificationKeyId :
    proof.getMetadata std "verification_key_id" = fastPathKeyId std witness.traceHash
  finalProof : ∀ c ∈ proof.finalProof.toList, isLowerHex c = true
  witnessTraceHash : witness.traceHash = trace.traceHash
  witnessTraceArtifactId : witness.traceArtifactId = trace.artifactId

/-- A proof that is reported as valid is bound to the artifacts. -/
def SoundFor (std : PyStd) (strOf : StrOf) (circuit : Circuit) (trace : Trace std)
    (witness : Witness std) (proof : Proof std) : Prop :=
  ∀ producedBy cycle result,
    verifyArtifacts std strOf circuit trace witness proof producedBy cycle = .ok result →
      result.status = .valid → FullyBound std strOf circuit trace witness proof

/-- Digits that are read as the bytes of a proof are those that are written of them exactly if
they are all lower-case digits. -/
theorem finalProof_eq_hex_iff {s : String} {bytes : PyBytes} (h : PyBytes.fromHex s = .ok bytes) :
    s = String.ofList bytes.hex ↔ ∀ c ∈ s.toList, isLowerHex c = true := by
  constructor
  · intro heq
    rw [heq, String.toList_ofList]
    exact PyBytes.isLowerHex_hex bytes
  · intro hlower
    have hread : PyBytes.fromHex (String.ofList s.toList) = .ok bytes := by
      rw [String.ofList_toList, h]
    rw [PyBytes.hex_of_fromHex hlower hread, String.ofList_toList]

/-- The proof that `prove_artifacts` makes names the key of the trace. -/
theorem getMetadata_of_stubProofData {zkProof : ZKProof} {commitments : List String}
    {honest : Proof std}
    (h : honest.toProofData = stubProofData std circuit trace witness zkProof commitments) :
    honest.getMetadata std "verification_key_id" = zkProof.verificationKeyId := by
  rw [Proof.getMetadata, h]
  rfl

/-- A proof that passes the checks is bound exactly if what they do not look at agrees. -/
theorem fullyBound_iff (h : PassesChecks std strOf circuit trace witness proof) :
    FullyBound std strOf circuit trace witness proof ↔ UncheckedAgree std trace witness proof := by
  obtain ⟨zkProof, hzk, hbytes, -⟩ := h.finalProof
  have hspelling := finalProof_eq_hex_iff hbytes
  have hkey := (isProofOf_of_generate hzk).verificationKeyId
  have hcycle : Json.isLongInt 1 = false := Json.isLongInt_eq_false (k := 1) (by decide) (by decide)
  obtain ⟨honest, hhonest, hdata⟩ :=
    proveArtifacts_ok hzk h.commitments "performance_optimization" hcycle
  have hhonestKey := getMetadata_of_stubProofData hdata
  constructor
  · intro hbound
    obtain ⟨⟨honest', hhonest', hinput, houtput, htrace, hmetadata, -, -, hfinal⟩, hhash, hid⟩ :=
      hbound
    rw [hhonest] at hhonest'
    cases hhonest'
    rw [hdata] at hinput houtput htrace hfinal
    exact ⟨hinput, houtput, htrace, hmetadata.trans (hhonestKey.trans hkey), hspelling.mp hfinal,
      hhash, hid⟩
  · intro ⟨hinput, houtput, htrace, hmetadata, hfinal, hhash, hid⟩
    refine ⟨⟨honest, hhonest, ?_, ?_, ?_, ?_, ?_, ?_, ?_⟩, hhash, hid⟩
    · rw [hdata, hinput]
      rfl
    · rw [hdata, houtput]
      rfl
    · rw [hdata, htrace]
      rfl
    · exact hmetadata.trans (hhonestKey.trans hkey).symm
    · rw [hdata, h.publicInputs]
      rfl
    · rw [hdata]
      rfl
    · rw [hdata]
      exact hspelling.mpr hfinal

/-- **The verifier is sound for a proof exactly if the proof fails a check, or agrees with the
artifacts in what no check looks at.** -/
theorem stub_soundness_iff :
    SoundFor std strOf circuit trace witness proof ↔
      (PassesChecks std strOf circuit trace witness proof →
        UncheckedAgree std trace witness proof) := by
  constructor
  · intro hsound hpasses
    have hcycle : Json.isLongInt 1 = false :=
      Json.isLongInt_eq_false (k := 1) (by decide) (by decide)
    obtain ⟨result, hresult, hvalid⟩ : ∃ result, verifyArtifacts std strOf circuit trace witness
        proof "verifier_agent" 1 = .ok result ∧ result.status = .valid :=
      verifyArtifacts_valid_iff.mpr ⟨hpasses, hcycle⟩
    exact (fullyBound_iff hpasses).mp (hsound _ _ result hresult hvalid)
  · intro hagree producedBy cycle result hresult hvalid
    obtain ⟨hpasses, -⟩ := verifyArtifacts_valid_iff.mp ⟨result, hresult, hvalid⟩
    exact (fullyBound_iff hpasses).mpr (hagree hpasses)

/-! ### Verdicts -/

theorem normalizedPublicInputs_texts (publicInputs : List (String × String)) :
    normalizedPublicInputs strOf (publicInputs.map fun m => (m.1, .str m.2)) =
      .ok (Json.sortMembers publicInputs) := by
  have htext : (fun m : String × String => (m.1, strOf.str (.str m.2))) = fun m => (m.1, .ok m.2) :=
    rfl
  rw [normalizedPublicInputs, JsonValue.sortMembers_map, List.map_map]
  show sequenceMembers ((Json.sortMembers publicInputs).map
    fun m => (m.1, strOf.str (.str m.2))) = _
  rw [htext, sequenceMembers_map_ok]

/-- There is a fast-path proof of a witness without long integers. -/
theorem generateZkProof_toZkWitness (heven : ∀ text, Even (proofDigits std text).length)
    (hlong : hasLongIntMembers witness.privateInputs = false) :
    ∃ zkProof, generateZkProof std strOf (toZkWitness std trace witness) = .ok zkProof := by
  have hsteps : .list ((toZkWitness std trace witness).traceSteps.map WitnessStep.dump) =
      tracePayload trace.steps := by
    rw [toZkWitness, List.map_map]
    rfl
  have hsorted : (Json.sortMembers witness.privateInputs).Perm witness.privateInputs :=
    List.perm_insertionSort _ _
  have hfree : floatFreeMembers (Json.sortMembers witness.privateInputs) = true := by
    rw [floatFreeMembers_iff]
    intro m hm
    exact floatFreeMembers_iff.mp (floatFree_privateInputs witness) m (hsorted.mem_iff.mp hm)
  have hshort : hasLongIntMembers (Json.sortMembers witness.privateInputs) = false := by
    rw [hasLongIntMembers_eq_any, hsorted.any_eq, ← hasLongIntMembers_eq_any, hlong]
  have htext : ∃ text, canonicalWitness std strOf (toZkWitness std trace witness) = .ok text := by
    have hinputs : normalizedPublicInputs strOf (toZkWitness std trace witness).publicInputs =
        .ok (Json.sortMembers witness.publicInputs) := normalizedPublicInputs_texts _
    rw [canonicalWitness, hinputs, Except.ok_bind, checkedCanonicalJson_ok_iff,
      FastPathWitness.members, hsteps]
    simp [toZkWitness, floatFree, floatFreeMembers, hasLongInt, hasLongIntMembers, hfree, hshort,
      floatFree_tracePayload]
  obtain ⟨text, htext⟩ := htext
  exact generateZkProof_ok (heven text) htext

theorem hasLongInt_privateInputs (h : artifactsHaveLongInt circuit trace witness = false) :
    hasLongIntMembers witness.privateInputs = false := by
  rw [artifactsHaveLongInt, Bool.or_eq_false_iff] at h
  have hdump : hasLongIntMembers (witness.dump std) = false := h.2
  rw [hasLongIntMembers_eq_any, List.any_eq_false] at hdump
  have hmem : ("private_inputs", .dict witness.privateInputs) ∈ witness.dump std := by
    simp [Witness.dump]
  exact Bool.eq_false_iff.mpr (hdump _ hmem)

/-- What can be read of a proof: pairs of digits, with white space around them, and at least
one of them. -/
structure IsReadable (finalProof : String) : Prop where
  isHexText : PyBytes.IsHexText finalProof.toList
  notBlank : ∃ c ∈ finalProof.toList, isCSpace c = false

theorem isReadable_iff {finalProof : String} :
    IsReadable finalProof ↔ ∃ bytes, PyBytes.fromHex finalProof = .ok bytes ∧ bytes ≠ [] := by
  have hblank : (∃ c ∈ finalProof.toList, isCSpace c = false) ↔
      ¬ ∀ c ∈ finalProof.toList, isCSpace c = true := by simp
  constructor
  · intro ⟨htext, hnot⟩
    obtain ⟨bytes, hbytes⟩ := PyBytes.fromHex_ok_iff.mpr htext
    refine ⟨bytes, hbytes, fun hnil => hblank.mp hnot ?_⟩
    exact (PyBytes.fromHex_eq_nil_iff hbytes).mp hnil
  · intro ⟨bytes, hbytes, hne⟩
    refine ⟨PyBytes.fromHex_ok_iff.mp ⟨bytes, hbytes⟩, hblank.mpr fun hall => hne ?_⟩
    exact (PyBytes.fromHex_eq_nil_iff hbytes).mpr hall

/-- There is a result, and a proof that cannot be read is invalid. -/
def GivesVerdict (std : PyStd) (strOf : StrOf) (circuit : Circuit) (trace : Trace std)
    (witness : Witness std) (proof : Proof std) (producedBy : String) (cycle : Int) : Prop :=
  ∃ result, verifyArtifacts std strOf circuit trace witness proof producedBy cycle = .ok result ∧
    (¬ IsReadable proof.finalProof → result.status = .invalid)

/-- **There is a verdict exactly if the digits of the proof can be read and no integer is too long
to be written.** -/
theorem stub_gives_verdict_iff (hfull : std.IsFullLength) (circuit : Circuit) (trace : Trace std)
    (witness : Witness std) (proof : Proof std) (producedBy : String) (cycle : Int) :
    GivesVerdict std strOf circuit trace witness proof producedBy cycle ↔
      IsReadable proof.finalProof ∧ artifactsHaveLongInt circuit trace witness = false ∧
        Json.isLongInt cycle = false := by
  constructor
  · intro ⟨result, h, _⟩
    obtain ⟨bytes, hbytes, h⟩ := Except.bind_eq_ok_iff.mp h
    obtain ⟨verified, hverified, h⟩ := Except.bind_eq_ok_iff.mp h
    obtain ⟨commitments, hcommitments, h⟩ := Except.bind_eq_ok_iff.mp h
    have hne := (verifyZkProof_ok_iff.mp ⟨verified, hverified⟩).1
    exact ⟨isReadable_iff.mpr ⟨bytes, hbytes, hne⟩,
      deterministicCommitments_ok_iff.mp ⟨commitments, hcommitments⟩,
      stubResult_ok_iff.mp ⟨result, h⟩⟩
  · intro ⟨hreadable, hlong, hcycle⟩
    obtain ⟨bytes, hbytes, hne⟩ := isReadable_iff.mp hreadable
    have hzk : ∃ zkProof, generateZkProof std strOf (toZkWitness std trace witness) = .ok zkProof :=
      generateZkProof_toZkWitness (even_proofDigits hfull) (hasLongInt_privateInputs hlong)
    obtain ⟨verified, hverified⟩ : ∃ verified, verifyZkProof std strOf
        (readZkProof std trace witness proof bytes) (toZkWitness std trace witness) = .ok verified :=
      verifyZkProof_ok_iff.mpr ⟨hne, hzk⟩
    obtain ⟨commitments, hcommitments⟩ := deterministicCommitments_ok_iff.mpr hlong
    obtain ⟨result, hresult⟩ := stubResult_ok_iff.mpr hcycle
    refine ⟨result, ?_, fun hnot => absurd hreadable hnot⟩
    rw [verifyArtifacts, hbytes, Except.ok_bind, hverified, Except.ok_bind, hcommitments,
      Except.ok_bind]
    exact hresult

end Facts

section Sample

/-- The library with a digest of its own. -/
def withSha (sha : Sha256) : PyStd := { lengthStd with toSha256 := sha }

/-- A circuit without constraints. -/
def sampleCircuit : Circuit where
  artifactId := "circuit_0"
  producedBy := "circuit_engineer"
  cycle := 1
  name := "import_landed_cost_stub_v1"
  description := ""
  framework := "Plonk"
  publicInputs := ["landed_cost"]
  privateInputs := []
  constraints := []
  constraintCount := 0
  complexityBudget := 32
  counted := rfl

/-- A trace without steps. -/
def emptyTrace {sha : Sha256} : Trace (withSha sha) where
  artifactId := "trace_0"
  producedBy := "backend_integration"
  cycle := 1
  inputHash := "00"
  steps := []
  canonicalTrace := "[]"
  traceHash := sha.hexdigest "[]"
  canonical := rfl
  hashed := rfl

/-- The members of a witness of another trace. -/
def strayData : WitnessData where
  traceArtifactId := "trace_1"
  inputHash := "00"
  outputHash := "01"
  traceHash := "02"
  publicInputs := [("landed_cost", "1.00")]
  privateInputs := []

/-- Their canonical text. -/
def strayText : String :=
  "\x7b\"input_hash\":\"00\",\"output_hash\":\"01\",\"private_inputs\":\x7b\x7d,\"public_inputs\":" ++
    "\x7b\"landed_cost\":\"1.00\"\x7d,\"trace_artifact_id\":\"trace_1\",\"trace_hash\":\"02\"\x7d"

theorem canonicalJson_stray (sha : Sha256) :
    canonicalJson (withSha sha) (.dict strayData.payload) = .ok strayText := by
  have hnfc : (withSha sha).nfc = lengthStd.nfc := rfl
  rw [canonicalJson, canonicalize_congr hnfc]
  show canonicalJson lengthStd (.dict strayData.payload) = .ok strayText
  decide +kernel

/-- A witness of another trace. -/
def strayWitness {sha : Sha256} : Witness (withSha sha) where
  toWitnessData := strayData
  artifactId := "witness_0"
  producedBy := "backend_integration"
  cycle := 1
  canonicalWitness := strayText
  witnessHash := sha.hexdigest strayText
  canonical := canonicalJson_stray sha
  hashed := rfl

theorem artifactsHaveLongInt_sample (sha : Sha256) :
    artifactsHaveLongInt sampleCircuit (emptyTrace : Trace (withSha sha)) strayWitness = false := by
  have hshort : ∀ i : Int, i.natAbs < 10 ^ 2 → Json.isLongInt i = false :=
    fun i hi => Json.isLongInt_eq_false hi (by decide)
  simp [artifactsHaveLongInt, Circuit.dump, Trace.dump, Witness.dump, sampleCircuit, emptyTrace,
    strayWitness, strayData, hasLongInt, hasLongIntMembers, hasLongIntItems, hshort]

/-- A proof that differs from that of `prove_artifacts` in what no check looks at. -/
def relabelledData (sha : Sha256) (zkProof : ZKProof) (commitments : List String) : ProofData :=
  { stubProofData (withSha sha) sampleCircuit emptyTrace strayWitness zkProof
      commitments with
    metadata := []
    inputHash := "03"
    outputHash := "04"
    traceHash := "05" }

/-- A digest without collisions: the digits of the text, after a 1. -/
def plainDigests : DigestTable := ⟨[], nofun, List.nodup_nil⟩

/-- The library with it. -/
abbrev plainStd : PyStd := withSha plainDigests.sha

theorem hexdigest_plain_length (text : String) :
    (plainStd.hexdigest text).toList.length = 8 * text.length + 1 := by
  show (String.ofList ('1' :: hexEncode text.toList)).toList.length = _
  rw [String.toList_ofList, List.length_cons, hexEncode_length, String.length_toList]

/-- Eight digests of odd length make up whole bytes. -/
theorem proofDigits_plain_length (text : String) : ∃ k,
    (proofDigits plainStd text).length = 2 * (k + 1) := by
  refine ⟨4 * ((List.range 8).map fun index =>
    (text ++ ":" ++ String.ofList (natText index)).length).sum + 3, ?_⟩
  simp only [proofDigits, List.length_flatMap, sha256Hex, hexdigest_plain_length]
  have hones : (8 : Nat) • 1 = 8 := rfl
  rw [List.sum_map_add, List.sum_map_mul_left, List.map_const', List.sum_replicate,
    List.length_range, hones]
  omega

/-- **A proof with the hashes and the key of nothing in particular is valid**, and so is a witness
of another trace. -/
theorem relabelled_stub_proof_is_valid :
    Function.Injective plainStd.hexdigest ∧ ∃ zkProof commitments proof result,
      generateZkProof plainStd noCollections (toZkWitness plainStd emptyTrace strayWitness) =
          .ok zkProof ∧
        deterministicCommitments plainStd sampleCircuit emptyTrace strayWitness =
          .ok commitments ∧
        buildProofArtifact plainStd (relabelledData plainDigests.sha zkProof commitments) "prover"
          1 = .ok proof ∧
        verifyArtifacts plainStd noCollections sampleCircuit emptyTrace strayWitness proof
          "verifier_agent" 1 = .ok result ∧ result.status = .valid ∧
        ¬ SoundFor plainStd noCollections sampleCircuit emptyTrace strayWitness proof := by
  have hlong := artifactsHaveLongInt_sample plainDigests.sha
  have heven : ∀ text, Even (proofDigits plainStd text).length := by
    intro text
    obtain ⟨k, hk⟩ := proofDigits_plain_length text
    exact hk ▸ even_two_mul _
  obtain ⟨zkProof, hzk⟩ : ∃ zkProof, generateZkProof plainStd noCollections
      (toZkWitness plainStd emptyTrace strayWitness) = .ok zkProof :=
    generateZkProof_toZkWitness heven (hasLongInt_privateInputs hlong)
  obtain ⟨commitments, hcommitments⟩ := deterministicCommitments_ok_iff.mpr hlong
  obtain ⟨proof, hproof⟩ := buildProofArtifact_ok
    (relabelledData plainDigests.sha zkProof commitments) "prover" 1
  have hdata := buildProofArtifact_toProofData hproof
  have hne : zkProof.proofBytes ≠ [] := by
    intro hnil
    obtain ⟨text, -, hdigits⟩ := (isProofOf_of_generate hzk).digits
    obtain ⟨k, hk⟩ := proofDigits_plain_length text
    rw [← hdigits, hnil] at hk
    cases hk
  have hpasses :
      PassesChecks plainStd noCollections sampleCircuit emptyTrace strayWitness proof := by
    have hread : PyBytes.fromHex proof.finalProof = .ok zkProof.proofBytes := by
      rw [hdata]
      exact PyBytes.fromHex_hex _
    have hsame : deterministicCommitments plainStd sampleCircuit emptyTrace strayWitness =
        .ok proof.commitments := by
      rw [hdata, hcommitments]
      rfl
    refine ⟨⟨zkProof, hzk, hread, hne⟩, ?_, hsame, ?_, ?_, ?_⟩ <;> rw [hdata] <;> rfl
  obtain ⟨result, hresult, hvalid⟩ : ∃ result, verifyArtifacts plainStd noCollections sampleCircuit
      emptyTrace strayWitness proof "verifier_agent" 1 = .ok result ∧ result.status = .valid :=
    verifyArtifacts_valid_iff.mpr
      ⟨hpasses, Json.isLongInt_eq_false (k := 1) (by decide) (by decide)⟩
  refine ⟨DigestTable.sha_injective _, zkProof, commitments, proof, result, hzk, hcommitments,
    hproof, hresult, hvalid, ?_⟩
  intro hsound
  have hagree := (fullyBound_iff hpasses).mp (hsound _ _ result hresult hvalid)
  have hid : strayData.traceArtifactId = "trace_0" := hagree.witnessTraceArtifactId
  exact absurd hid (by decide)

/-- The members of a proof with the given digits. -/
def malformedData (finalProof : String) : ProofData where
  proofSystem := "sha256-structured-stub"
  circuitArtifactId := "circuit_0"
  witnessArtifactId := "witness_0"
  commitments := []
  publicInputs := []
  metadata := []
  proofBlobHex := finalProof
  inputHash := "00"
  outputHash := "01"
  traceHash := "02"
  finalProof

/-- The verifier raises on a proof with these digits, so that there is no verdict. -/
def RaisesOn (finalProof : String) : Prop :=
  ∃ proof, buildProofArtifact plainStd (malformedData finalProof) "prover" 1 = .ok proof ∧
    (∃ e, verifyArtifacts plainStd noCollections sampleCircuit emptyTrace strayWitness proof
      "verifier_agent" 1 = .error e ∧ e.kind = .valueError) ∧
    ¬ GivesVerdict plainStd noCollections sampleCircuit emptyTrace strayWitness proof
      "verifier_agent" 1

theorem raisesOn_of_mem {finalProof : String} (hmem : finalProof ∈ ["", "0", "zz"]) :
    RaisesOn finalProof := by
  obtain ⟨proof, hproof⟩ : ∃ proof, buildProofArtifact plainStd (malformedData finalProof)
      "prover" 1 = .ok proof := buildProofArtifact_ok _ _ _
  have hfinal : proof.finalProof = finalProof := by
    rw [buildProofArtifact_toProofData hproof]
    rfl
  have hraises : ∃ e, verifyArtifacts plainStd noCollections sampleCircuit emptyTrace strayWitness
      proof "verifier_agent" 1 = .error e ∧ e.kind = .valueError := by
    rw [verifyArtifacts, hfinal]
    simp only [List.mem_cons, List.not_mem_nil, or_false] at hmem
    rcases hmem with rfl | rfl | rfl
    · exact ⟨_, rfl, rfl⟩
    · exact ⟨_, rfl, rfl⟩
    · exact ⟨_, rfl, rfl⟩
  refine ⟨proof, hproof, hraises, ?_⟩
  rintro ⟨result, hresult, _⟩
  obtain ⟨e, he, -⟩ := hraises
  rw [hresult] at he
  cases he

/-- **There is no verdict on a proof without digits, with one digit, or with letters that are not
digits.** -/
theorem malformed_stub_proof_raises : RaisesOn "" ∧ RaisesOn "0" ∧ RaisesOn "zz" :=
  ⟨raisesOn_of_mem (by decide), raisesOn_of_mem (by decide), raisesOn_of_mem (by decide)⟩

/-- On a proof of one byte there is a verdict. -/
theorem stub_gives_verdict_iff_sample : ∃ proof,
    buildProofArtifact (withSha lengthSha) (malformedData "00") "prover" 1 = .ok proof ∧
      (GivesVerdict (withSha lengthSha) noCollections sampleCircuit emptyTrace strayWitness proof
          "verifier_agent" 1 ↔
        IsReadable proof.finalProof ∧
          artifactsHaveLongInt sampleCircuit (emptyTrace : Trace (withSha lengthSha)) strayWitness =
            false ∧ Json.isLongInt 1 = false) := by
  obtain ⟨proof, hproof⟩ : ∃ proof, buildProofArtifact (withSha lengthSha) (malformedData "00")
      "prover" 1 = .ok proof := buildProofArtifact_ok _ _ _
  have hfull : (withSha lengthSha).IsFullLength := lengthSha_isFullLength
  exact ⟨proof, hproof, stub_gives_verdict_iff hfull ..⟩

end Sample

end Vrl.Zk

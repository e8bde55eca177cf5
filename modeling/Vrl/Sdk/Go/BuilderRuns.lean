import Vrl.Sdk.Go.Builder
import Vrl.Sdk.Go.BundleIdentity
import Vrl.Sdk.HashFormat

/-!
# Vrl.Sdk.Go.BuilderRuns

The builder of the Go SDK over a whole sequence of calls (`sdk/go/vrl/builder.go`).

`Build` returns the pointer under which the builder goes on filling the bundle in, so that
later calls change what has been returned already. The identifier and the proof hash are
computed by `Build` alone, and the verifier never recomputes the hash. So the bundle is valid
exactly if its parts are complete and nothing that a `Build` has computed was made stale since
(**`run_valid_iff`**).
-/

namespace Vrl.Sdk.Go

variable (sha : Sha256)

/-! ### Parameters of the methods -/

/-- `AIIdentityParams`. -/
structure AIIdentityParams where
  aiId : String
  modelName : String
  modelVersion : String
  providerId : String
  executionEnvironment : String
  providerSignature : String := ""
  teeAttestationReport : String := ""
  parentAiId : String := ""

/-- `ComputationParams`. -/
structure ComputationParams where
  circuitId : String
  circuitVersion : String
  circuitHash : String
  inputHash : String
  outputHash : String
  traceHash : String

/-- `ProofParams`. -/
structure ProofParams where
  proofSystem : String
  proofBytes : String
  publicInputs : List String
  verificationKeyId : String
  commitments : List String := []

/-! ### The builder -/

/-- `ProofBundleBuilder`, with the bundle that its pointer leads to. -/
structure ProofBundleBuilder where
  bundle : ProofBundle
  deriving DecidableEq

namespace ProofBundleBuilder

variable (builder : ProofBundleBuilder)

/-- `SetAIIdentity`. -/
def setAIIdentity (params : AIIdentityParams) : ProofBundleBuilder where
  bundle := { builder.bundle with
    aiIdentity :=
      { aiId := params.aiId
        modelName := params.modelName
        modelVersion := params.modelVersion
        providerId := params.providerId
        executionEnvironment := params.executionEnvironment
        providerSignature := params.providerSignature
        teeAttestationReport := params.teeAttestationReport
        parentAiId := params.parentAiId } }

/-- `SetComputation`. -/
def setComputation (params : ComputationParams) : ProofBundleBuilder where
  bundle := { builder.bundle with
    computation :=
      { circuitId := params.circuitId
        circuitVersion := params.circuitVersion
        circuitHash := params.circuitHash
        inputHash := params.inputHash
        outputHash := params.outputHash
        traceHash := params.traceHash
        integrityHash := computeIntegrityHash sha params.inputHash params.outputHash
          params.traceHash } }

/-- `SetProof`, which leaves the proof hash empty. -/
def setProof (params : ProofParams) : ProofBundleBuilder where
  bundle := { builder.bundle with
    proof :=
      { proofSystem := params.proofSystem
        proofBytes := params.proofBytes
        publicInputs := params.publicInputs
        verificationKeyId := params.verificationKeyId
        commitments := params.commitments
        proofHash := "" } }

/-- `SetLegal`. -/
def setLegal (legal : Option Legal) : ProofBundleBuilder where
  bundle := { builder.bundle with legal }

/-- `AddDataCommitment`. -/
def addDataCommitment (dc : DataCommitment) : ProofBundleBuilder where
  bundle := { builder.bundle with dataCommitments := builder.bundle.dataCommitments ++ [dc] }

/-- `SetProofGraph`. -/
def setProofGraph (graph : Option ProofGraph) : ProofBundleBuilder where
  bundle := { builder.bundle with proofGraph := graph }

/-- `Build`: what is computed is written into the bundle, and the pointer to it is
returned. An error leaves the bundle as it is. -/
def build : Except String ProofBundleBuilder :=
  if builder.bundle.computation.circuitHash = "" then
    .error "computation not set or circuit_hash missing"
  else
    match uuidv5 sha vrlNamespace builder.bundle.computation.integrityHash with
    | none => .error "failed to compute bundle_id: invalid namespace UUID length"
    | some bundleId =>
        .ok ⟨{ builder.bundle with
          bundleId
          proof := { builder.bundle.proof with
            proofHash := builtProofHash sha builder.bundle } }⟩

/-- The calls of the builder's methods. `SetTrustContext` is left out with the part it sets, which
neither `Build` nor the verifier reads. -/
inductive Call where
  | setAIIdentity (params : AIIdentityParams)
  | setComputation (params : ComputationParams)
  | setProof (params : ProofParams)
  | setLegal (legal : Option Legal)
  | addDataCommitment (dc : DataCommitment)
  | setProofGraph (graph : Option ProofGraph)
  | build

/-- The builder after a call. -/
def after (builder : ProofBundleBuilder) : Call → ProofBundleBuilder
  | .setAIIdentity params => builder.setAIIdentity params
  | .setComputation params => builder.setComputation sha params
  | .setProof params => builder.setProof params
  | .setLegal legal => builder.setLegal legal
  | .addDataCommitment dc => builder.addDataCommitment dc
  | .setProofGraph graph => builder.setProofGraph graph
  | .build =>
      match builder.build sha with
      | .ok builder' => builder'
      | .error _ => builder

/-- The builder after some calls. -/
def run (calls : List Call) : ProofBundleBuilder := calls.foldl (after sha) builder

theorem run_append (calls calls' : List Call) :
    builder.run sha (calls ++ calls') = (builder.run sha calls).run sha calls' :=
  List.foldl_append

theorem run_concat (calls : List Call) (call : Call) :
    builder.run sha (calls ++ [call]) = (builder.run sha calls).after sha call := by
  rw [run_append]
  rfl

/-! ### Which calls of `Build` succeed -/

/-- The computation has been set, with a circuit hash. -/
def HasCircuit : Prop := builder.bundle.computation.circuitHash ≠ ""

instance : Decidable builder.HasCircuit := inferInstanceAs (Decidable (_ ≠ _))

/-- `Build` succeeds exactly if there is a circuit hash: the name space is well formed. -/
theorem after_build : builder.after sha .build =
    if builder.bundle.computation.circuitHash = "" then builder
    else
      ⟨{ builder.bundle with
        bundleId :=
          (uuidv5 sha vrlNamespace builder.bundle.computation.integrityHash).getD ""
        proof := { builder.bundle.proof with
          proofHash := builtProofHash sha builder.bundle } }⟩ := by
  obtain ⟨id, hid, -⟩ := uuidv5_ne_empty sha builder.bundle.computation.integrityHash
  unfold after build
  dsimp only
  by_cases hcircuit : builder.bundle.computation.circuitHash = ""
  · rw [if_pos hcircuit, if_pos hcircuit]
  · rw [if_neg hcircuit, if_neg hcircuit, hid]
    rfl

/-- None of the calls is a `Build` that succeeds. -/
def NoneBuilds : ProofBundleBuilder → List Call → Prop
  | _, [] => True
  | builder, call :: calls =>
      (call = .build → ¬ builder.HasCircuit) ∧ NoneBuilds (builder.after sha call) calls

/-- The calls end with a `Build` that succeeds and others after it, none of which is one. -/
structure LastBuild (calls before rest : List Call) : Prop where
  split : calls = before ++ .build :: rest
  succeeds : (builder.run sha before).HasCircuit
  last : NoneBuilds sha ((builder.run sha before).after sha .build) rest

variable {builder}

theorem noneBuilds_concat {calls : List Call} {call : Call} (h : NoneBuilds sha builder calls)
    (hcall : call = .build → ¬ (builder.run sha calls).HasCircuit) :
    NoneBuilds sha builder (calls ++ [call]) := by
  induction calls generalizing builder with
  | nil => exact ⟨hcall, trivial⟩
  | cons first calls ih => exact ⟨h.1, ih h.2 hcall⟩

/-- Either no `Build` has succeeded so far, or there is a last one that has. -/
theorem noneBuilds_or_lastBuild (calls : List Call) :
    NoneBuilds sha builder calls ∨ ∃ before rest, LastBuild sha builder calls before rest := by
  induction calls using List.reverseRecOn with
  | nil => exact .inl trivial
  | append_singleton calls call ih =>
      by_cases hbuilds : call = .build ∧ (builder.run sha calls).HasCircuit
      · obtain ⟨rfl, hcircuit⟩ := hbuilds
        exact .inr ⟨calls, [], rfl, hcircuit, trivial⟩
      · have hcall : call = .build → ¬ (builder.run sha calls).HasCircuit :=
          fun hcall hcircuit => hbuilds ⟨hcall, hcircuit⟩
        rcases ih with hnone | ⟨before, rest, rfl, hcircuit, hlast⟩
        · exact .inl (noneBuilds_concat sha hnone hcall)
        · refine .inr ⟨before, rest ++ [call], by simp, hcircuit, ?_⟩
          refine noneBuilds_concat sha hlast ?_
          rw [run_append] at hcall
          exact hcall

/-! ### What the calls keep -/

/-- What every call keeps: the version and the time of issue are those of `NewBuilder`, and
the integrity hash is that of the hashes, or there is no computation yet. -/
structure Sound (builder : ProofBundleBuilder) : Prop where
  vrlVersion : builder.bundle.vrlVersion = "1.0"
  issuedAt : builder.bundle.issuedAt ≠ ""
  integrityHash : builder.HasCircuit →
    computeIntegrityHash sha builder.bundle.computation.inputHash
      builder.bundle.computation.outputHash builder.bundle.computation.traceHash =
        builder.bundle.computation.integrityHash

variable {sha}

theorem Sound.after (h : Sound sha builder) (call : Call) : Sound sha (builder.after sha call) := by
  cases call with
  | setComputation params => exact ⟨h.vrlVersion, h.issuedAt, fun _ => rfl⟩
  | build =>
      rw [after_build]
      split
      · exact h
      · exact ⟨h.vrlVersion, h.issuedAt, h.integrityHash⟩
  | setAIIdentity _ | setProof _ | setLegal _ | addDataCommitment _ | setProofGraph _ =>
      exact ⟨h.vrlVersion, h.issuedAt, h.integrityHash⟩

theorem Sound.run (h : Sound sha builder) (calls : List Call) :
    Sound sha (builder.run sha calls) := by
  induction calls generalizing builder with
  | nil => exact h
  | cons call calls ih => exact ih (h.after call)

/-- The builder that `NewBuilder` returns. -/
theorem sound_of_newBuilder {now : GoTime.Instant} {bundle : ProofBundle}
    (h : newBuilder now = some bundle) : Sound sha ⟨bundle⟩ := by
  obtain ⟨-, rfl⟩ := newBuilder_eq_some_iff.mp h
  refine ⟨rfl, ?_, fun hcircuit => absurd rfl hcircuit⟩
  intro hempty
  have hlist := congrArg String.toList hempty
  rw [String.toList_ofList] at hlist
  simp at hlist

/-- Without a `Build` that succeeds the identifier stays what it is. -/
theorem bundleId_run {calls : List Call} (h : NoneBuilds sha builder calls) :
    (builder.run sha calls).bundle.bundleId = builder.bundle.bundleId := by
  induction calls generalizing builder with
  | nil => rfl
  | cons call calls ih =>
      refine (ih h.2).trans ?_
      cases call with
      | build => rw [after_build, if_pos (not_not.mp (h.1 rfl))]
      | setAIIdentity _ | setComputation _ | setProof _ | setLegal _ | addDataCommitment _
      | setProofGraph _ => rfl

/-- The call sets the proof. -/
def Call.SetsProof : Call → Prop
  | .setProof _ => True
  | _ => False

/-- So does the proof hash, unless the proof is set. -/
theorem proofHash_run {calls : List Call} (h : NoneBuilds sha builder calls)
    (hunset : ∀ call ∈ calls, ¬ call.SetsProof) :
    (builder.run sha calls).bundle.proof.proofHash = builder.bundle.proof.proofHash := by
  induction calls generalizing builder with
  | nil => rfl
  | cons call calls ih =>
      rw [List.forall_mem_cons] at hunset
      refine (ih h.2 hunset.2).trans ?_
      cases call with
      | setProof params => exact absurd trivial hunset.1
      | build => rw [after_build, if_pos (not_not.mp (h.1 rfl))]
      | setAIIdentity _ | setComputation _ | setLegal _ | addDataCommitment _
      | setProofGraph _ => rfl

/-- Once the proof has been set it has no hash. -/
theorem proofHash_run_of_setsProof {calls : List Call} (h : NoneBuilds sha builder calls)
    (hset : ∃ call ∈ calls, call.SetsProof) :
    (builder.run sha calls).bundle.proof.proofHash = "" := by
  induction calls generalizing builder with
  | nil =>
      obtain ⟨call, hcall, -⟩ := hset
      cases hcall
  | cons call calls ih =>
      by_cases hlater : ∃ call ∈ calls, call.SetsProof
      · exact ih h.2 hlater
      · -- it is this call that sets the proof, and no later one writes a hash
        obtain ⟨call', hmem, hset⟩ := hset
        rcases List.mem_cons.mp hmem with rfl | hmem
        · refine (proofHash_run h.2 fun later hmem hsets => hlater ⟨later, hmem, hsets⟩).trans ?_
          cases call' with
          | setProof params => rfl
          | build | setAIIdentity _ | setComputation _ | setLegal _ | addDataCommitment _
          | setProofGraph _ => cases hset
        · exact absurd ⟨call', hmem, hset⟩ hlater

/-! ### Validity -/

/-- What a `Build` does not look at and the verifier asks for: texts that are not empty, and
hashes and digits in their format. -/
structure IsComplete (sha : Sha256) (bundle : ProofBundle) : Prop where
  aiId : bundle.aiIdentity.aiId ≠ ""
  modelName : bundle.aiIdentity.modelName ≠ ""
  executionEnvironment : bundle.aiIdentity.executionEnvironment ≠ ""
  circuitId : bundle.computation.circuitId ≠ ""
  circuitHash : isValidSHA256 bundle.computation.circuitHash = true
  proofSystem : bundle.proof.proofSystem ≠ ""
  publicInputs : bundle.proof.publicInputs ≠ []
  proofBytes : isValidHex bundle.proof.proofBytes = true
  verificationKeyId : bundle.proof.verificationKeyId ≠ ""
  dataCommitments : ∀ dc ∈ bundle.dataCommitments, recomputedCommitment sha dc = dc.commitmentHash

theorem validateSchema_eq_none_iff {bundle : ProofBundle} :
    validateSchema bundle = none ↔
      bundle.vrlVersion ≠ "" ∧ bundle.bundleId ≠ "" ∧ bundle.issuedAt ≠ "" ∧
        bundle.aiIdentity.aiId ≠ "" ∧ bundle.aiIdentity.modelName ≠ "" ∧
        bundle.aiIdentity.executionEnvironment ≠ "" ∧ bundle.computation.circuitId ≠ "" ∧
        bundle.computation.integrityHash ≠ "" ∧ bundle.proof.proofSystem ≠ "" ∧
        bundle.proof.publicInputs ≠ [] := by
  unfold validateSchema
  split_ifs <;> simp_all

theorem verifyProof_eq_none_iff {bundle : ProofBundle} :
    verifyProof bundle = none ↔
      isValidHex bundle.proof.proofBytes = true ∧ bundle.proof.verificationKeyId ≠ "" ∧
        isValidSHA256 bundle.proof.proofHash = true := by
  have hbytes : isValidHex bundle.proof.proofBytes = true → bundle.proof.proofBytes ≠ "" := by
    intro h hempty
    rw [hempty] at h
    cases h
  have hhash : isValidSHA256 bundle.proof.proofHash = true → bundle.proof.proofHash ≠ "" := by
    intro h hempty
    rw [hempty] at h
    cases h
  unfold verifyProof
  split_ifs <;> simp_all

theorem isValidSHA256_hexdigest (hfull : sha.IsFullLength) (s : String) :
    isValidSHA256 (sha.hexdigest s) = true :=
  (go_isValidSHA256_iff _).mpr (.inl (isHexHash_iff.mpr ⟨hfull s, sha.isLowerHex_hexdigest s⟩))

/-- The verifier's checks of a bundle that the builder keeps sound. -/
theorem valid_iff (hfull : sha.IsFullLength) (h : Sound sha builder) :
    (verify sha builder.bundle).status = some .valid ↔
      IsComplete sha builder.bundle ∧ builder.bundle.bundleId ≠ "" ∧
        uuidv5 sha vrlNamespace builder.bundle.computation.integrityHash =
          some builder.bundle.bundleId ∧
        isValidSHA256 builder.bundle.proof.proofHash = true := by
  rw [status_eq_valid_iff]
  simp only [requiredChecks, List.forall_mem_cons, List.not_mem_nil, false_implies, implies_true,
    and_true, decide_eq_true_eq, Option.isNone_iff_eq_none, validateSchema_eq_none_iff,
    verifyProof_eq_none_iff, List.all_eq_true]
  constructor
  · rintro ⟨-, ⟨-, hid, -, haiId, hmodel, henv, hcircuitId, -, hsystem, hinputs⟩, huuid, -,
      hcircuit, ⟨hbytes, hkey, hhash⟩, hcommitments⟩
    exact ⟨⟨haiId, hmodel, henv, hcircuitId, hcircuit, hsystem, hinputs, hbytes, hkey,
      hcommitments⟩, hid, huuid, hhash⟩
  · rintro ⟨hcomplete, hid, huuid, hhash⟩
    have hcircuit : builder.HasCircuit := by
      intro hempty
      have hformat := hcomplete.circuitHash
      rw [hempty] at hformat
      cases hformat
    have hintegrity := h.integrityHash hcircuit
    have hne : builder.bundle.computation.integrityHash ≠ "" := by
      intro hempty
      have hlength := hfull (builder.bundle.computation.inputHash ++
        builder.bundle.computation.outputHash ++ builder.bundle.computation.traceHash)
      rw [computeIntegrityHash, sha256Hex, hempty] at hintegrity
      rw [hintegrity] at hlength
      cases hlength
    have hversion : builder.bundle.vrlVersion ≠ "" := by
      rw [h.vrlVersion]
      decide
    exact ⟨h.vrlVersion, ⟨hversion, hid, h.issuedAt, hcomplete.aiId, hcomplete.modelName,
      hcomplete.executionEnvironment, hcomplete.circuitId, hne, hcomplete.proofSystem,
      hcomplete.publicInputs⟩, huuid, hintegrity, hcomplete.circuitHash,
      ⟨hcomplete.proofBytes, hcomplete.verificationKeyId, hhash⟩, hcomplete.dataCommitments⟩

/-- **After any calls the bundle is valid exactly if its parts are complete, and since the last
`Build` that succeeded the proof has not been set again and the identifier of the computation
has not changed.** This goes for every pointer to it that a `Build` has returned. -/
theorem run_valid_iff (hfull : sha.IsFullLength) {now : GoTime.Instant} {bundle : ProofBundle}
    (hnew : newBuilder now = some bundle) (calls : List Call) :
    (verify sha (run sha ⟨bundle⟩ calls).bundle).status = some .valid ↔
      IsComplete sha (run sha ⟨bundle⟩ calls).bundle ∧
        ∃ before rest, LastBuild sha ⟨bundle⟩ calls before rest ∧
          (∀ call ∈ rest, ¬ call.SetsProof) ∧
          uuidv5 sha vrlNamespace (run sha ⟨bundle⟩ before).bundle.computation.integrityHash =
            uuidv5 sha vrlNamespace (run sha ⟨bundle⟩ calls).bundle.computation.integrityHash := by
  have hsound : Sound sha (run sha ⟨bundle⟩ calls) := (sound_of_newBuilder hnew).run calls
  have hzero : bundle.bundleId = "" := by
    obtain ⟨-, rfl⟩ := newBuilder_eq_some_iff.mp hnew
    rfl
  rw [valid_iff hfull hsound]
  refine and_congr_right fun _ => ?_
  -- what the last `Build` has written
  have hwritten : ∀ {before rest}, LastBuild sha ⟨bundle⟩ calls before rest →
      some (run sha ⟨bundle⟩ calls).bundle.bundleId =
          uuidv5 sha vrlNamespace (run sha ⟨bundle⟩ before).bundle.computation.integrityHash ∧
        (run sha ⟨bundle⟩ calls).bundle.bundleId ≠ "" := by
    rintro before rest ⟨rfl, hcircuit, hlast⟩
    obtain ⟨id, hid, hne⟩ :=
      uuidv5_ne_empty sha (run sha ⟨bundle⟩ before).bundle.computation.integrityHash
    have hkept : (run sha ⟨bundle⟩ (before ++ .build :: rest)).bundle.bundleId = id := by
      rw [run_append]
      refine (bundleId_run hlast).trans ?_
      rw [after_build, if_neg hcircuit, hid]
      rfl
    rw [hkept, hid]
    exact ⟨rfl, hne⟩
  constructor
  · rintro ⟨hid, huuid, hhash⟩
    rcases @noneBuilds_or_lastBuild sha ⟨bundle⟩ calls with hnone | ⟨before, rest, hlast⟩
    · exact absurd ((bundleId_run hnone).trans hzero) hid
    · refine ⟨before, rest, hlast, ?_, (hwritten hlast).1.symm.trans huuid.symm⟩
      intro call hcall hset
      have hempty := proofHash_run_of_setsProof hlast.last ⟨call, hcall, hset⟩
      rw [hlast.split, run_append] at hhash
      rw [show (run sha (run sha ⟨bundle⟩ before) (.build :: rest)).bundle.proof.proofHash = ""
        from hempty] at hhash
      cases hhash
  · rintro ⟨before, rest, hlast, hunset, huuid⟩
    obtain ⟨hid, hne⟩ := hwritten hlast
    refine ⟨hne, huuid.symm.trans hid.symm, ?_⟩
    have hkept := proofHash_run hlast.last hunset
    rw [hlast.split, run_append]
    rw [show (run sha (run sha ⟨bundle⟩ before) (.build :: rest)).bundle.proof.proofHash = _
      from hkept, after_build, if_neg hlast.succeeds]
    exact isValidSHA256_hexdigest hfull _

/-- What `NewBuilder` returns some milliseconds into 2024. -/
def newYearBundle : ProofBundle :=
  { ProofBundle.zero with vrlVersion := "1.0", issuedAt := "2024-01-01T00:00:00.123Z" }

/-- A proof that the verifier has no objection to. -/
def sampleProof : ProofParams where
  proofSystem := "sha256-deterministic"
  proofBytes := "00"
  publicInputs := ["0"]
  verificationKeyId := "key"

/-- The calls that make a bundle complete. -/
def sampleCalls : List Call :=
  [.setAIIdentity
      { aiId := digits 0, modelName := "model", modelVersion := "1", providerId := "provider",
        executionEnvironment := "deterministic" },
    .setComputation
      { circuitId := "trade/import-landed-cost", circuitVersion := "1.0.0",
        circuitHash := digits 0, inputHash := digits 1, outputHash := digits 2,
        traceHash := digits 3 },
    .setProof sampleProof]

/-- A bundle that is built and then given a legal part is valid, and no longer once its proof is
set again. -/
theorem run_valid_iff_sample :
    (verify lengthSha
        (run lengthSha ⟨newYearBundle⟩ (sampleCalls ++ [.build, .setLegal none])).bundle).status =
      some .valid ∧
    (verify lengthSha
        (run lengthSha ⟨newYearBundle⟩
          (sampleCalls ++ [.build, .setProof sampleProof])).bundle).status =
      some .proofInvalid := by
  have hnew : newBuilder ⟨63839664000, 123456789, by norm_num⟩ = some newYearBundle := by
    decide +kernel
  have hcircuit : (run lengthSha ⟨newYearBundle⟩ sampleCalls).HasCircuit := by decide +kernel
  refine ⟨(run_valid_iff lengthSha_isFullLength hnew _).mpr ⟨?_, sampleCalls, [.setLegal none],
    ⟨rfl, hcircuit, (fun h => by cases h), trivial⟩, ?_, by decide +kernel⟩, by decide +kernel⟩
  · exact ⟨by decide +kernel, by decide +kernel, by decide +kernel, by decide +kernel,
      by decide +kernel, by decide +kernel, by decide +kernel, by decide +kernel,
      by decide +kernel, by decide +kernel⟩
  · rw [List.forall_mem_singleton]
    exact id

end ProofBundleBuilder

end Vrl.Sdk.Go

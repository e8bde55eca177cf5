import Vrl.Models.Schemas
import Vrl.Sdk.Python.LoadedVerifier
import Vrl.Verifier.VrlVerify

/-!
# Vrl.Zk.TeeBundle

The attestation of an inference (`zk/tee/attestation.py`) and the bundle that is built around it
(`zk/tee/vrl_tee_bundle_builder.py`).

A bundle is always built, and neither verifier takes it: it has a `version` and a `created_at`
where the format has a `vrl_version` and an `issued_at`, and no `ai_identity` and no
`computation` (**`teeBundle_rejected`**).
-/

open JsonValue Pydantic

namespace Vrl.Zk

/-! ### Attestation -/

/-- `TEEMode`. -/
inductive TEEMode where
  | intelTdx
  | amdSevSnp
  | simulation
  deriving DecidableEq, Repr

/-- The value of a mode. -/
def TEEMode.value : TEEMode → String
  | .intelTdx => "intel_tdx"
  | .amdSevSnp => "amd_sev_snp"
  | .simulation => "simulation"

/-- `TEEAttestation`. -/
structure TEEAttestation where
  teeMode : TEEMode
  modelHash : String
  inputHash : String
  outputHash : String
  runtimeHash : String
  attestationReportBytes : String
  attestationReportHash : String
  isSimulation : Bool
  simulationWarning : Option String := none

variable (std : PyStd)

/-- `TEEAttestationPipeline.attest`, for a pipeline of this mode. -/
def attest (mode : TEEMode) (modelId modelHash inputText outputText : String) :
    Except PyError TEEAttestation :=
  match mode with
  | .intelTdx => .error ⟨.notImplementedError,
      "Intel TDX attestation is only available when running inside a TDX enclave. " ++
      "Use TEEMode.SIMULATION for development or run this code inside a TDX-enabled environment."⟩
  | .amdSevSnp => .error ⟨.notImplementedError,
      "AMD SEV-SNP attestation is only available when running inside a SEV-SNP enclave. " ++
      "Use TEEMode.SIMULATION for development or run this code inside a SEV-SNP-enabled " ++
      "environment."⟩
  | .simulation =>
      let inputHash := sha256Hex std inputText
      let outputHash := sha256Hex std outputText
      let runtimeDescriptor :=
        "model_id=" ++ modelId ++ ",python_runtime=3.11,platform=x86_64"
      let runtimeHash := sha256Hex std runtimeDescriptor
      let attestationPayload := modelHash ++ "|" ++ inputHash ++ "|" ++ outputHash ++ "|" ++
        runtimeHash ++ "|SIMULATION_MODE"
      let attestationReportBytes := sha256Hex std attestationPayload
      .ok {
        teeMode := mode
        modelHash, inputHash, outputHash, runtimeHash, attestationReportBytes
        attestationReportHash := sha256Hex std attestationReportBytes
        isSimulation := true
        simulationWarning := some "SIMULATION MODE: not hardware-attested" }

/-- The member of a warning that is there and not empty. -/
def warningMember : Option String → List (String × JsonValue)
  | some warning => if warning = "" then [] else [("simulation_warning", .str warning)]
  | none => []

/-- `to_vrl_proof`. -/
def toVrlProof (attestation : TEEAttestation) : List (String × JsonValue) :=
  let proofSystem :=
    match attestation.teeMode with
    | .intelTdx => "tee-intel-tdx"
    | .amdSevSnp => "tee-amd-sev-snp"
    | .simulation => "sha256-deterministic"
  [("proof_system", .str proofSystem), ("tee_mode", .str attestation.teeMode.value),
    ("model_hash", .str attestation.modelHash), ("input_hash", .str attestation.inputHash),
    ("output_hash", .str attestation.outputHash), ("runtime_hash", .str attestation.runtimeHash),
    ("attestation_report_bytes", .str attestation.attestationReportBytes),
    ("attestation_report_hash", .str attestation.attestationReportHash),
    ("is_simulation", .bool attestation.isSimulation)] ++
    warningMember attestation.simulationWarning

/-! ### The bundle -/

/-- What an inference is recorded with. -/
structure TeeInference where
  modelId : String
  modelVersion : String
  providerId : String
  inputText : String
  outputText : String
  circuitId : String := "general/tee-inference-attestation@1.0.0"
  jurisdictions : Option (List String) := none

/-- The member of a list that is there and not empty. -/
def jurisdictionsMember : Option (List String) → List (String × JsonValue)
  | some (jurisdiction :: jurisdictions) =>
      [("jurisdictions", .arr ((jurisdiction :: jurisdictions).map .str))]
  | _ => []

/-- `build_tee_proof_bundle`: `bundleId` is what `uuid.uuid4` gives, `now` the time. -/
def buildTeeProofBundle (mode : TEEMode) (bundleId now : String) (inference : TeeInference) :
    Except PyError (List (String × JsonValue)) := do
  let modelMetadata := [("model_id", inference.modelId),
    ("model_version", inference.modelVersion), ("provider_id", inference.providerId)]
  let modelHash ← canonicalHash std (ofStringDict modelMetadata)
  let attestation ←
    attest std mode inference.modelId modelHash inference.inputText inference.outputText
  let aiIdPayload := modelMetadata ++ [("runtime_hash", attestation.runtimeHash)]
  let aiId ← canonicalHash std (ofStringDict aiIdPayload)
  let integrityComponents := [("model_hash", attestation.modelHash),
    ("input_hash", attestation.inputHash), ("output_hash", attestation.outputHash),
    ("runtime_hash", attestation.runtimeHash),
    ("attestation_report_hash", attestation.attestationReportHash)]
  let integrityHash ← canonicalHash std (ofStringDict integrityComponents)
  let proofSection := toVrlProof attestation
  let proofSystem := (proofSection.lookup "proof_system").getD (.str "sha256-deterministic")
  let publicInputs := [("ai_id", JsonValue.str aiId), ("model_id", .str inference.modelId),
    ("model_version", .str inference.modelVersion), ("provider_id", .str inference.providerId),
    ("input_hash", .str attestation.inputHash), ("output_hash", .str attestation.outputHash),
    ("tee_mode", .str attestation.teeMode.value)]
  let metadata := [("circuit_id", JsonValue.str inference.circuitId),
    ("proof_system", proofSystem), ("backend", .str "tee-attestation-pipeline"),
    ("model_id", .str inference.modelId), ("model_version", .str inference.modelVersion),
    ("provider_id", .str inference.providerId), ("tee_mode", .str attestation.teeMode.value)]
  return [("version", .str "1.0.0"), ("bundle_id", .str bundleId),
    ("proof", .obj [("proof_system", proofSystem), ("tee_mode", .str attestation.teeMode.value),
      ("model_hash", .str attestation.modelHash), ("input_hash", .str attestation.inputHash),
      ("output_hash", .str attestation.outputHash),
      ("runtime_hash", .str attestation.runtimeHash),
      ("attestation_report_bytes", .str attestation.attestationReportBytes),
      ("attestation_report_hash", .str attestation.attestationReportHash),
      ("is_simulation", .bool attestation.isSimulation)]),
    ("public_inputs", .obj publicInputs), ("metadata", .obj metadata),
    ("integrity_hash", .str integrityHash), ("created_at", .str now)] ++
    warningMember attestation.simulationWarning ++ jurisdictionsMember inference.jurisdictions

variable {std} {mode : TEEMode} {bundleId now : String} {inference : TeeInference}

/-- Inferences are attested in simulation only, and then a bundle is built. -/
theorem buildTeeProofBundle_simulation : ∃ members,
    buildTeeProofBundle std .simulation bundleId now inference = .ok members := by
  have hhash : ∀ texts, ∃ hash, canonicalHash std (ofStringDict texts) = .ok hash :=
    fun _ => canonicalHash_ok std (floatFree_ofStringDict _)
  choose hash hhash using hhash
  simp only [buildTeeProofBundle, attest, hhash, Except.ok_bind]
  exact ⟨_, rfl⟩

/-- The keys of a bundle. -/
def teeBundleKeys : List String :=
  ["version", "bundle_id", "proof", "public_inputs", "metadata", "integrity_hash", "created_at",
    "simulation_warning", "jurisdictions"]

/-- A bundle has an id and a proof, and otherwise no key but these. -/
theorem teeBundle_keys {members : List (String × JsonValue)}
    (h : buildTeeProofBundle std mode bundleId now inference = .ok members) :
    (∃ proof rest, members = ("version", .str "1.0.0") :: ("bundle_id", .str bundleId) ::
      ("proof", proof) :: rest) ∧ ∀ m ∈ members, m.1 ∈ teeBundleKeys := by
  unfold buildTeeProofBundle at h
  simp only [Except.bind_eq_ok_iff] at h
  obtain ⟨_, -, attestation, -, _, -, _, -, h⟩ := h
  cases h
  have hwarning : ∀ m ∈ warningMember attestation.simulationWarning, m.1 ∈ teeBundleKeys := by
    rcases attestation.simulationWarning with _ | warning
    · exact fun _ hm => absurd hm List.not_mem_nil
    · rw [warningMember]
      split
      · exact fun _ hm => absurd hm List.not_mem_nil
      · intro m hm
        rw [List.mem_singleton.mp hm]
        show "simulation_warning" ∈ teeBundleKeys
        decide
  have hjurisdictions : ∀ m ∈ jurisdictionsMember inference.jurisdictions,
      m.1 ∈ teeBundleKeys := by
    rcases inference.jurisdictions with _ | _ | ⟨jurisdiction, jurisdictions⟩
    · exact fun _ hm => absurd hm List.not_mem_nil
    · exact fun _ hm => absurd hm List.not_mem_nil
    · intro m hm
      rw [List.mem_singleton.mp hm]
      show "jurisdictions" ∈ teeBundleKeys
      decide
  refine ⟨⟨_, _, rfl⟩, fun m hm => ?_⟩
  rcases List.mem_append.mp hm with hm | hm
  · rcases List.mem_append.mp hm with hm | hm
    · have hprefix : m.1 ∈ ["version", "bundle_id", "proof", "public_inputs", "metadata",
        "integrity_hash", "created_at"] := List.mem_map_of_mem hm
      exact List.mem_append_left ["simulation_warning", "jurisdictions"] hprefix
    · exact hwarning m hm
  · exact hjurisdictions m hm

/-- The names of the format are no keys of a bundle. -/
theorem lookup_teeBundle {members : List (String × JsonValue)}
    (h : buildTeeProofBundle std mode bundleId now inference = .ok members) {key : String}
    (hkey : key ∉ teeBundleKeys) : members.lookup key = none := by
  refine List.lookup_eq_none_iff.mpr fun m hm => ?_
  rw [bne_iff_ne]
  rintro rfl
  exact hkey ((teeBundle_keys h).2 m hm)

/-! ### The verifiers -/

variable {fmt : Formatter}

/-- The SDK does not read a bundle: four keys are missing. -/
theorem fromDict_teeBundle {members : List (String × JsonValue)}
    (h : buildTeeProofBundle std mode bundleId now inference = .ok members) :
    Sdk.Python.Loaded.ProofBundle.fromDict fmt (.obj members) =
      .error ⟨.valueError, "Missing required bundle fields: " ++
        Sdk.Python.Loaded.setText ["vrl_version", "issued_at", "ai_identity", "computation"]⟩ := by
  have hmissing : ∀ key ∉ teeBundleKeys, members.lookup key = none := fun _ => lookup_teeBundle h
  have hversion := hmissing "vrl_version" (by decide)
  have hissued := hmissing "issued_at" (by decide)
  have hidentity := hmissing "ai_identity" (by decide)
  have hcomputation := hmissing "computation" (by decide)
  obtain ⟨⟨proof, rest, hmembers⟩, -⟩ := teeBundle_keys h
  have hid : (members.lookup "bundle_id").isNone = false := by
    rw [hmembers]
    rfl
  have hproof : (members.lookup "proof").isNone = false := by
    rw [hmembers]
    rfl
  have hfilter : Sdk.Python.Loaded.ProofBundle.required.filter (fun key =>
      (members.lookup key).isNone) =
      ["vrl_version", "issued_at", "ai_identity", "computation"] := by
    simp only [Sdk.Python.Loaded.ProofBundle.required, List.filter, hversion, hid, hissued,
      hidentity, hcomputation, hproof, Option.isNone_none]
  simp only [Sdk.Python.Loaded.ProofBundle.fromDict, asDict, Except.ok_bind,
    Sdk.Python.Loaded.requireKeys, hfilter]
  rfl

/-- The standalone verifier stops at its first step: the bundle has no version. -/
theorem verify_teeBundle {members : List (String × JsonValue)}
    (h : buildTeeProofBundle std mode bundleId now inference = .ok members)
    (registry : Standalone.CircuitRegistry) :
    ∃ result, Standalone.verify std fmt registry (.obj members) = .ok result ∧
      result.status = .unsupportedVersion ∧ result.exitCode = 1 := by
  have hversion : getOrNull members "vrl_version" = .null := by
    rw [getOrNull, lookup_teeBundle h (by decide)]
    rfl
  simp only [Standalone.verify, asDict, Except.ok_bind, Standalone.step1VersionCheck, hversion]
  exact ⟨_, rfl, rfl, rfl⟩

variable (std fmt)

/-- A bundle is built in simulation. The SDK reads it and accepts what it has read, the
standalone verifier accepts it, and what was read has the id of its integrity hash, which is one
over its input, output and trace hashes. -/
def TeeInference.IsVerifiable (registry : Sdk.Python.Loaded.CircuitRegistry)
    (standaloneRegistry : Standalone.CircuitRegistry) (bundleId now : String)
    (inference : TeeInference) : Prop :=
  ∃ members, buildTeeProofBundle std .simulation bundleId now inference = .ok members ∧
    (∃ bundle result, Sdk.Python.Loaded.ProofBundle.fromDict fmt (.obj members) = .ok bundle ∧
      Sdk.Python.Loaded.verify std fmt registry bundle = .ok result ∧
      (result.status = .valid ∨ result.status = .validPartial) ∧
      (∃ id, Sdk.Python.Loaded.computeBundleIdFromIntegrity std bundle.computation.integrityHash =
        .ok id ∧ bundle.bundleId = .str id) ∧
      ∃ hash, Sdk.Python.Loaded.computeIntegrityHash std bundle.computation.inputHash
        bundle.computation.outputHash bundle.computation.traceHash = .ok hash ∧
        bundle.computation.integrityHash = .str hash) ∧
    ∃ result, Standalone.verify std fmt standaloneRegistry (.obj members) = .ok result ∧
      (result.status = .valid ∨ result.status = .validPartial)

variable {std fmt}

/-- **Neither verifier takes the bundle of an inference.** -/
theorem teeBundle_rejected (registry : Standalone.CircuitRegistry) :
    ∃ members result, buildTeeProofBundle std .simulation bundleId now inference = .ok members ∧
      Sdk.Python.Loaded.ProofBundle.fromDict fmt (.obj members) =
        .error ⟨.valueError, "Missing required bundle fields: " ++
          Sdk.Python.Loaded.setText ["vrl_version", "issued_at", "ai_identity", "computation"]⟩ ∧
      Standalone.verify std fmt registry (.obj members) = .ok result ∧
      result.status = .unsupportedVersion ∧ result.exitCode = 1 := by
  obtain ⟨members, hbuild⟩ := buildTeeProofBundle_simulation
  obtain ⟨result, hverify, hstatus, hexit⟩ := verify_teeBundle hbuild registry
  exact ⟨members, result, hbuild, fromDict_teeBundle hbuild, hverify, hstatus, hexit⟩

/-- **No bundle of an inference is verifiable.** -/
theorem tee_never_verifiable (registry : Sdk.Python.Loaded.CircuitRegistry)
    (standaloneRegistry : Standalone.CircuitRegistry) (bundleId now : String)
    (inference : TeeInference) :
    ¬ inference.IsVerifiable std fmt registry standaloneRegistry bundleId now := by
  intro ⟨members, hbuild, ⟨bundle, _, hread, _⟩, _⟩
  rw [fromDict_teeBundle hbuild] at hread
  cases hread

/-- The inference of the builder's own example. -/
def amoxicillinInference : TeeInference where
  modelId := "llama-3-70b-instruct"
  modelVersion := "3.0.0"
  providerId := "meta"
  inputText := "What is the standard dosage of amoxicillin?"
  outputText := "The standard adult dose is 250-500mg every 8 hours."

/-- Its bundle is not read by the SDK, and is of no version for the standalone verifier. -/
theorem amoxicillin_bundle_rejected : ∃ members result,
    buildTeeProofBundle lengthStd .simulation "9b2d7f6e-52b5-4f0b-8a0e-2f3c1c6d7e8f"
      "2026-04-04T12:00:00+00:00" amoxicillinInference = .ok members ∧
    Standalone.verify lengthStd typeFormatter (Standalone.mockRegistry lengthStd) (.obj members) =
      .ok result ∧
    result.status = .unsupportedVersion ∧
    ¬ amoxicillinInference.IsVerifiable lengthStd typeFormatter
      (Sdk.Python.Loaded.mockRegistry lengthStd) (Standalone.mockRegistry lengthStd)
      "9b2d7f6e-52b5-4f0b-8a0e-2f3c1c6d7e8f" "2026-04-04T12:00:00+00:00" := by
  obtain ⟨members, result, hbuild, hread, hverify, hstatus, -⟩ :=
    teeBundle_rejected (Standalone.mockRegistry lengthStd)
  refine ⟨members, result, hbuild, hverify, hstatus, ?_⟩
  intro ⟨members', hbuild', ⟨_, _, hread', _⟩, _⟩
  rw [hbuild] at hbuild'
  cases hbuild'
  rw [hread] at hread'
  cases hread'

end Vrl.Zk

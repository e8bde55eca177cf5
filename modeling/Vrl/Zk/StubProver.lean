import Vrl.Core.FastPath
import Vrl.Zk.PlonkProver

/-!
# Vrl.Zk.StubProver

The prover of the structured stub (`zk/provers/stub_prover.py`): the fast-path proof of a witness,
with commitments to the circuit, the trace and the witness.

The commitments are taken over the dumps of whole artifacts, `cycle` included, so unlike the
artifacts that `zk/interfaces.py` builds they may hold integers that Python does not write.
-/

open Pydantic

namespace Vrl.Zk

/-! ### Circuits -/

/-- `CircuitConstraint`. -/
structure CircuitConstraint where
  name : String
  purpose : String
  inputs : List String
  outputs : List String

/-- `model_dump` of a constraint. -/
def CircuitConstraint.payload (c : CircuitConstraint) : PyVal :=
  .dict [("name", .str c.name), ("purpose", .str c.purpose), ("inputs", ofStrings c.inputs),
    ("outputs", ofStrings c.outputs)]

/-- `Circuit`. -/
structure Circuit where
  artifactId : String
  producedBy : String
  cycle : Int
  name : String
  description : String
  framework : String
  publicInputs : List String
  privateInputs : List String
  constraints : List CircuitConstraint
  constraintCount : Int
  complexityBudget : Int
  counted : constraintCount = constraints.length

/-! ### Dumps -/

/-- `model_dump` of a circuit. -/
def Circuit.dump (c : Circuit) : List (String × PyVal) :=
  [("artifact_type", .str "circuit"), ("artifact_id", .str c.artifactId),
    ("produced_by", .str c.producedBy), ("cycle", .int c.cycle), ("name", .str c.name),
    ("description", .str c.description), ("framework", .str c.framework),
    ("public_inputs", ofStrings c.publicInputs), ("private_inputs", ofStrings c.privateInputs),
    ("constraints", .list (c.constraints.map CircuitConstraint.payload)),
    ("constraint_count", .int c.constraintCount), ("complexity_budget", .int c.complexityBudget)]

variable (std : PyStd) (strOf : StrOf)

/-- `model_dump` of a trace. -/
def Trace.dump (t : Trace std) : List (String × PyVal) :=
  [("artifact_type", .str "trace"), ("artifact_id", .str t.artifactId),
    ("produced_by", .str t.producedBy), ("cycle", .int t.cycle), ("input_hash", .str t.inputHash),
    ("steps", tracePayload t.steps), ("canonical_trace", .str t.canonicalTrace),
    ("trace_hash", .str t.traceHash)]

/-- `model_dump` of a witness. -/
def Witness.dump (w : Witness std) : List (String × PyVal) :=
  [("artifact_type", .str "witness"), ("artifact_id", .str w.artifactId),
    ("produced_by", .str w.producedBy), ("cycle", .int w.cycle),
    ("trace_artifact_id", .str w.traceArtifactId), ("input_hash", .str w.inputHash),
    ("output_hash", .str w.outputHash), ("trace_hash", .str w.traceHash),
    ("public_inputs", ofStringDict w.publicInputs), ("private_inputs", .dict w.privateInputs),
    ("canonical_witness", .str w.canonicalWitness), ("witness_hash", .str w.witnessHash)]

/-- `content_hash` of an artifact with the given dump. -/
def contentHash (dump : List (String × PyVal)) : Except PyError String := do
  return sha256Hex std (← checkedCanonicalJson std (.dict dump))

/-! ### Proofs -/

/-- A source of a commitment. -/
def commitmentSource (kind artifactId contentHash : String) : PyVal :=
  .dict [("kind", .str kind), ("artifact_id", .str artifactId), ("content_hash", .str contentHash)]

/-- `deterministic_commitments`. -/
def deterministicCommitments (circuit : Circuit) (trace : Trace std) (witness : Witness std) :
    Except PyError (List String) := do
  let sources := [
    commitmentSource "circuit" circuit.artifactId (← contentHash std circuit.dump),
    commitmentSource "trace" trace.artifactId (← contentHash std (trace.dump std)),
    commitmentSource "witness" witness.artifactId (← contentHash std (witness.dump std))]
  sources.mapM (canonicalHash std)

/-- `_to_zk_witness`. -/
def toZkWitness (trace : Trace std) (witness : Witness std) : FastPathWitness where
  publicInputs := witness.publicInputs.map fun m => (m.1, .str m.2)
  privateInputs := witness.privateInputs
  traceSteps := trace.steps.map .model
  inputHash := witness.inputHash
  outputHash := witness.outputHash
  traceHash := witness.traceHash

/-- The members that `prove_artifacts` gives to a proof. -/
def stubProofData (circuit : Circuit) (trace : Trace std) (witness : Witness std)
    (zkProof : ZKProof) (commitments : List String) : ProofData where
  proofSystem := "sha256-structured-stub"
  circuitArtifactId := circuit.artifactId
  witnessArtifactId := witness.artifactId
  commitments
  publicInputs := serializePublicInputs witness.publicInputs
  metadata := [("verification_key_id", zkProof.verificationKeyId),
    ("backend", "sha256-deterministic-proof-stub"), ("compatibility", "plonk,groth16,stark"),
    ("trace_artifact_id", trace.artifactId)]
  proofBlobHex := String.ofList zkProof.proofBytes.hex
  inputHash := witness.inputHash
  outputHash := witness.outputHash
  traceHash := witness.traceHash
  finalProof := String.ofList zkProof.proofBytes.hex

/-- `prove_artifacts`. The identifier of the proof is a hash that covers its cycle. -/
def proveArtifacts (circuit : Circuit) (trace : Trace std) (witness : Witness std)
    (producedBy : String) (cycle : Int) : Except PyError (Proof std) := do
  let zkProof ← generateZkProof std strOf (toZkWitness std trace witness)
  let commitments ← deterministicCommitments std circuit trace witness
  if Json.isLongInt cycle then .error longIntError
  else
    buildProofArtifact std (stubProofData std circuit trace witness zkProof commitments) producedBy
      cycle

/-! ### What is proved -/

section Facts

variable {std strOf} {circuit : Circuit} {trace : Trace std} {witness : Witness std}

/-- A proof of the artifacts is there where the fast path has one and there are commitments. -/
theorem proveArtifacts_ok {zkProof : ZKProof} {commitments : List String}
    (hzk : generateZkProof std strOf (toZkWitness std trace witness) = .ok zkProof)
    (hcommitments : deterministicCommitments std circuit trace witness = .ok commitments)
    (producedBy : String) {cycle : Int} (hcycle : Json.isLongInt cycle = false) :
    ∃ proof, proveArtifacts std strOf circuit trace witness producedBy cycle = .ok proof ∧
      proof.toProofData = stubProofData std circuit trace witness zkProof commitments := by
  obtain ⟨proof, hproof⟩ := buildProofArtifact_ok
    (stubProofData std circuit trace witness zkProof commitments) producedBy cycle
  refine ⟨proof, ?_, buildProofArtifact_toProofData hproof⟩
  have hshort : ¬ Json.isLongInt cycle = true := by simp [hcycle]
  rw [proveArtifacts, hzk, Except.ok_bind, hcommitments, Except.ok_bind, if_neg hshort, hproof]

/-- A dump without floats has a hash exactly if it has no long integers. -/
theorem contentHash_ok_iff {dump : List (String × PyVal)} (hfree : floatFree (.dict dump) = true) :
    (∃ hash, contentHash std dump = .ok hash) ↔ hasLongInt (.dict dump) = false := by
  have htext : (∃ text, checkedCanonicalJson std (.dict dump) = .ok text) ↔
      hasLongInt (.dict dump) = false :=
    (checkedCanonicalJson_ok_iff std).trans (and_iff_right hfree)
  rw [← htext]
  constructor
  · intro ⟨hash, h⟩
    obtain ⟨text, htext, -⟩ := Except.bind_eq_ok_iff.mp h
    exact ⟨text, htext⟩
  · intro ⟨text, htext⟩
    exact ⟨sha256Hex std text, by rw [contentHash, htext]; rfl⟩

theorem floatFree_privateInputs (witness : Witness std) :
    floatFreeMembers witness.privateInputs = true := by
  obtain ⟨json, hjson, -⟩ := Except.bind_eq_ok_iff.mp witness.canonical
  have hfree := floatFree_of_canonicalize std hjson
  simpa [WitnessData.payload, floatFree, floatFreeMembers] using hfree

theorem floatFree_circuitDump (circuit : Circuit) : floatFree (.dict circuit.dump) = true := by
  have hconstraints : floatFreeItems (circuit.constraints.map CircuitConstraint.payload) = true := by
    rw [floatFreeItems_iff, List.forall_mem_map]
    intro c _
    simp [CircuitConstraint.payload, floatFree, floatFreeMembers]
  simp [Circuit.dump, floatFree, floatFreeMembers, hconstraints]

theorem floatFree_traceDump (trace : Trace std) : floatFree (.dict (trace.dump std)) = true := by
  simp [Trace.dump, floatFree, floatFreeMembers, floatFree_tracePayload]

theorem floatFree_witnessDump (witness : Witness std) :
    floatFree (.dict (witness.dump std)) = true := by
  simp [Witness.dump, floatFree, floatFreeMembers, floatFree_privateInputs]

/-- An integer of the artifacts has more digits than Python writes. -/
def artifactsHaveLongInt (circuit : Circuit) (trace : Trace std) (witness : Witness std) : Bool :=
  hasLongInt (.dict circuit.dump) || hasLongInt (.dict (trace.dump std)) ||
    hasLongInt (.dict (witness.dump std))

/-- The sources are texts, and have commitments. -/
theorem commitments_ok (sources : List (String × String × String)) :
    ∃ commitments, (sources.map fun s => commitmentSource s.1 s.2.1 s.2.2).mapM
      (canonicalHash std) = .ok commitments := by
  induction sources with
  | nil => exact ⟨[], rfl⟩
  | cons s sources ih =>
      have hfree : floatFree (commitmentSource s.1 s.2.1 s.2.2) = true := rfl
      obtain ⟨hash, hhash⟩ := canonicalHash_ok std hfree
      obtain ⟨commitments, hcommitments⟩ := ih
      exact ⟨hash :: commitments, by
        rw [List.map_cons, List.mapM_cons, hhash, Except.ok_bind, hcommitments]
        rfl⟩

/-- **There are commitments exactly if no integer of the artifacts is too long.** -/
theorem deterministicCommitments_ok_iff :
    (∃ commitments, deterministicCommitments std circuit trace witness = .ok commitments) ↔
      artifactsHaveLongInt circuit trace witness = false := by
  rw [artifactsHaveLongInt, Bool.or_eq_false_iff, Bool.or_eq_false_iff,
    ← contentHash_ok_iff (floatFree_circuitDump circuit),
    ← contentHash_ok_iff (floatFree_traceDump trace),
    ← contentHash_ok_iff (floatFree_witnessDump witness)]
  constructor
  · intro ⟨commitments, h⟩
    obtain ⟨circuitHash, hc, h⟩ := Except.bind_eq_ok_iff.mp h
    obtain ⟨traceHash, ht, h⟩ := Except.bind_eq_ok_iff.mp h
    obtain ⟨witnessHash, hw, -⟩ := Except.bind_eq_ok_iff.mp h
    exact ⟨⟨⟨_, hc⟩, _, ht⟩, _, hw⟩
  · intro ⟨⟨⟨circuitHash, hc⟩, traceHash, ht⟩, witnessHash, hw⟩
    rw [deterministicCommitments, hc, Except.ok_bind, ht, Except.ok_bind, hw, Except.ok_bind]
    exact commitments_ok [("circuit", circuit.artifactId, circuitHash),
      ("trace", trace.artifactId, traceHash), ("witness", witness.artifactId, witnessHash)]

end Facts

end Vrl.Zk

import Vrl.Sdk.Python.LoadedSpec
import Vrl.Sdk.Python.LoadedVerifierSpec

/-!
# Vrl.Sdk.Python.DeclaredTypes

Dictionaries whose fields have the JSON types that the records of `bundle.py` and
`identity.py` declare (`wellTyped`). A field may be missing, and an optional one `null`.

On a bundle that is read from such a dictionary no step of the verifier raises
(**`verify_completes`**).
-/

open TextCodec CheckPipeline JsonValue

namespace Vrl.Sdk.Python.Loaded

/-! ### Types -/

/-- `str`. -/
def isStr : JsonValue → Bool
  | .str _ => true
  | _ => false

/-- `int`. -/
def isInt : JsonValue → Bool
  | .int _ => true
  | _ => false

/-- `float`, for which JSON may have any number. -/
def isFloat : JsonValue → Bool
  | .int _ => true
  | .float _ => true
  | _ => false

/-- `List[...]`. -/
def isListOf (isItem : JsonValue → Bool) : JsonValue → Bool
  | .arr items => items.all isItem
  | _ => false

/-- `Optional[...]`. -/
def orNull (isPart : JsonValue → Bool) (v : JsonValue) : Bool := v.isNull || isPart v

/-- The fields and their types. -/
abbrev Shape := List (String × (JsonValue → Bool))

/-- A dictionary whose members have the types of the fields they are named for. -/
def hasShape (shape : Shape) : JsonValue → Bool
  | .obj data => shape.all fun field => (data.lookup field.1).all field.2
  | _ => false

def identityShape : Shape :=
  [("ai_id", isStr), ("model_name", isStr), ("model_version", isStr), ("provider_id", isStr),
    ("execution_environment", isStr), ("provider_signature", orNull isStr),
    ("tee_attestation_report", orNull isStr), ("parent_ai_id", orNull isStr)]

def computationShape : Shape :=
  [("circuit_id", isStr), ("circuit_version", isStr), ("circuit_hash", isStr),
    ("input_hash", isStr), ("output_hash", isStr), ("trace_hash", isStr),
    ("integrity_hash", isStr)]

def proofShape : Shape :=
  [("proof_system", isStr), ("proof_bytes", isStr), ("public_inputs", isListOf isStr),
    ("verification_key_id", isStr), ("proof_hash", isStr),
    ("commitments", orNull (isListOf isStr))]

def commitmentShape : Shape :=
  [("dataset_id", isStr), ("dataset_version", isStr), ("dataset_hash", isStr),
    ("provider_id", isStr), ("committed_at", isStr), ("commitment_hash", isStr),
    ("provider_signature", orNull isStr)]

def timestampShape : Shape :=
  [("tsa_token", isStr), ("tsa_provider", isStr), ("tsa_hash_algorithm", isStr)]

def anchorShape : Shape :=
  [("chain", isStr), ("tx_hash", isStr), ("block_number", isInt), ("anchored_at", isStr)]

def legalShape : Shape :=
  [("jurisdictions", orNull (isListOf isStr)), ("admissibility_standard", orNull isStr),
    ("compliance_flags", orNull (isListOf isStr)),
    ("timestamp_authority", orNull (hasShape timestampShape)),
    ("immutable_anchor", orNull (hasShape anchorShape))]

def graphShape : Shape :=
  [("depends_on", orNull (isListOf isStr)), ("produced_by", orNull isStr),
    ("causal_depth", orNull isInt), ("graph_root_hash", orNull isStr),
    ("privacy_tier", orNull isStr)]

def trustShape : Shape :=
  [("prover_id", orNull isStr), ("prover_version", orNull isStr),
    ("trust_score_at_issuance", orNull isFloat), ("circuit_certification_tier", orNull isStr),
    ("anomaly_flags", orNull (isListOf isStr))]

def bundleShape : Shape :=
  [("vrl_version", isStr), ("bundle_id", isStr), ("issued_at", isStr),
    ("ai_identity", hasShape identityShape), ("computation", hasShape computationShape),
    ("proof", hasShape proofShape),
    ("data_commitments", orNull (isListOf (hasShape commitmentShape))),
    ("legal", orNull (hasShape legalShape)), ("proof_graph", orNull (hasShape graphShape)),
    ("trust_context", orNull (hasShape trustShape))]

/-- A bundle's dictionary whose fields have their declared types. -/
def wellTyped (value : JsonValue) : Bool := hasShape bundleShape value

/-! ### Fields of a declared type -/

theorem isStr_iff {v : JsonValue} : isStr v = true ↔ ∃ s, v = .str s := by
  cases v <;> simp [isStr]

section Fields

variable {shape : Shape} {data : List (String × JsonValue)} {key : String}
  {isField : JsonValue → Bool} (h : hasShape shape (.obj data) = true)

include h

/-- A member that is there has the type of its field. -/
theorem hasShape_field (hfield : (key, isField) ∈ shape)
    (hkey : (data.lookup key).isSome = true) : isField (getOrNull data key) = true := by
  have hall := List.all_eq_true.mp h (key, isField) hfield
  obtain ⟨v, hv⟩ := Option.isSome_iff_exists.mp hkey
  rw [hv, Option.all_some] at hall
  rw [getOrNull, hv, Option.getD_some]
  exact hall

/-- An optional member has the type of its field, or is `None`. -/
theorem hasShape_optional (hfield : (key, orNull isField) ∈ shape) :
    orNull isField (getOrNull data key) = true := by
  cases hkey : data.lookup key with
  | some v => exact hasShape_field h hfield (by rw [hkey]; rfl)
  | none =>
      rw [getOrNull, hkey]
      rfl

end Fields

/-- The items of a list of texts are UUIDs or raise the one error that is caught. -/
theorem readUuid_cases {v : JsonValue} (h : isStr v = true) :
    v.readUuid = .ok () ∨ ∃ e, v.readUuid = .error e ∧ e.kind = .valueError := by
  obtain ⟨s, rfl⟩ := isStr_iff.mp h
  rw [readUuid]
  by_cases hs : PyInt.parsesUuid s = true
  · rw [if_pos hs]
    exact Or.inl rfl
  · rw [if_neg hs]
    exact Or.inr ⟨_, rfl, rfl⟩

/-! ### Nothing raises -/

/-- The fields that a step could raise on have their declared types. -/
structure TypedFields (bundle : ProofBundle) : Prop where
  inputHash : isStr bundle.computation.inputHash = true
  outputHash : isStr bundle.computation.outputHash = true
  traceHash : isStr bundle.computation.traceHash = true
  integrityHash : isStr bundle.computation.integrityHash = true
  proofSystem : isStr bundle.proof.proofSystem = true
  dependsOn : orNull (isListOf isStr) (dependsOn bundle) = true

variable {fmt : Formatter}

theorem Reads.typedFields {data : List (String × JsonValue)} {bundle : ProofBundle}
    (h : Reads fmt data bundle) (hd : wellTyped (.obj data) = true) : TypedFields bundle := by
  obtain ⟨comp, hcompObj, hcompKeys, hcomp⟩ := Computation.fromDict_eq_ok_iff.mp h.computation
  obtain ⟨proof, hproofObj, hproofKeys, -, hproof⟩ := (Proof.fromDict_eq_ok_iff fmt).mp h.proof
  have hcompShape : hasShape computationShape (.obj comp) = true := by
    rw [← hcompObj]
    exact hasShape_field hd (by simp [bundleShape])
      (h.required "computation" (by simp [ProofBundle.required]))
  have hproofShape : hasShape proofShape (.obj proof) = true := by
    rw [← hproofObj]
    exact hasShape_field hd (by simp [bundleShape])
      (h.required "proof" (by simp [ProofBundle.required]))
  -- a graph that is absent counts as one without dependencies
  have hgraph : orNull (isListOf isStr) (dependsOn bundle) = true := by
    rw [dependsOn]
    rcases optionalPart_eq_ok_iff.mp h.proofGraph with ⟨-, hnone⟩ | ⟨-, graph, hread, hsome⟩
    · rw [hnone]
      rfl
    · obtain ⟨members, hobj, hgraph⟩ := ProofGraph.fromDict_eq_ok_iff.mp hread
      have hshape : orNull (hasShape graphShape) (getOrNull data "proof_graph") = true :=
        hasShape_optional hd (by simp [bundleShape])
      rw [hobj] at hshape
      rw [hsome, ← hgraph]
      exact hasShape_optional hshape (by simp [graphShape])
  have hfield : ∀ key, (key, isStr) ∈ computationShape → key ∈ Computation.required →
      isStr (getOrNull comp key) = true :=
    fun key hshape hkey => hasShape_field hcompShape hshape (hcompKeys key hkey)
  have hsystem : isStr (getOrNull proof "proof_system") = true :=
    hasShape_field hproofShape (by simp [proofShape]) (hproofKeys _ (by simp [Proof.required]))
  exact {
    inputHash := by
      rw [← hcomp]
      exact hfield "input_hash" (by simp [computationShape]) (by simp [Computation.required])
    outputHash := by
      rw [← hcomp]
      exact hfield "output_hash" (by simp [computationShape]) (by simp [Computation.required])
    traceHash := by
      rw [← hcomp]
      exact hfield "trace_hash" (by simp [computationShape]) (by simp [Computation.required])
    integrityHash := by
      rw [← hcomp]
      exact hfield "integrity_hash" (by simp [computationShape]) (by simp [Computation.required])
    proofSystem := by
      rw [← hproof]
      exact hsystem
    dependsOn := hgraph }

section Completes

variable (std : PyStd) (fmt) {bundle : ProofBundle} (h : TypedFields bundle)

theorem checkEdges_completes {ids : List JsonValue} (hids : ids.all isStr = true) :
    Completes fun r => checkEdges fmt r ids := by
  induction ids with
  | nil => exact .ok _
  | cons id ids ih =>
      rw [List.all_cons, Bool.and_eq_true] at hids
      intro r
      show ∃ out, checkEdges fmt r (id :: ids) = .ok out
      rw [checkEdges]
      rcases readUuid_cases hids.1 with hread | ⟨e, hread, hkind⟩
      · rw [hread]
        exact ih hids.2 r
      · rw [hread]
        dsimp only
        rw [if_pos hkind]
        exact ⟨_, rfl⟩

/-- What may be iterated over is a list of texts. -/
theorem iterate_of_typed {v : JsonValue} (hv : orNull (isListOf isStr) v = true)
    (htruthy : v.truthy = true) : ∃ ids, v.iterate = .ok ids ∧ ids.all isStr = true := by
  cases v with
  | arr items => exact ⟨items, rfl, hv⟩
  | null => cases htruthy
  | _ => cases hv

include h

theorem verifyGraph_completes (r : VerificationResult) :
    ∃ r', verifyGraph fmt bundle r = .ok r' := by
  rw [verifyGraph, step10ProofGraphVerification]
  cases htruthy : (dependsOn bundle).truthy with
  | false => exact ⟨r, rfl⟩
  | true =>
      obtain ⟨ids, hids, hall⟩ := iterate_of_typed h.dependsOn htruthy
      obtain ⟨⟨r', ok⟩, hedges⟩ := checkEdges_completes fmt hall r
      simp only [Bool.not_true, Bool.false_eq_true, if_false, hids, Except.ok_bind, hedges]
      cases ok with
      | true => exact ⟨_, rfl⟩
      | false => exact ⟨_, rfl⟩

theorem requiredSteps_complete (registry : CircuitRegistry) :
    ∀ step ∈ requiredSteps std fmt registry bundle, Completes step := by
  obtain ⟨inputHash, hin⟩ := isStr_iff.mp h.inputHash
  obtain ⟨outputHash, hout⟩ := isStr_iff.mp h.outputHash
  obtain ⟨traceHash, htrace⟩ := isStr_iff.mp h.traceHash
  obtain ⟨integrityHash, hintegrity⟩ := isStr_iff.mp h.integrityHash
  obtain ⟨proofSystem, hsystem⟩ := isStr_iff.mp h.proofSystem
  -- each step raises at most on one of these values
  intro step hstep
  simp only [requiredSteps, List.mem_cons, List.not_mem_nil, or_false] at hstep
  rcases hstep with rfl | rfl | rfl | rfl | rfl | rfl | rfl | rfl
  · exact .ite (.ok _) (.ok _)
  · unfold step2SchemaValidation
    cases (requiredFields bundle).find? fun field => field.2.isNull with
    | some field => exact .ok _
    | none =>
        cases (hashFields bundle).find? fun field => !isValidHexHash field.2 with
        | some field => exact .ite (.ok _) (.ok _)
        | none => exact .ite (.ok _) (.ok _)
  · have hid : computeBundleIdFromIntegrity std bundle.computation.integrityHash =
        .ok (Python.computeBundleIdFromIntegrity std integrityHash) := by
      rw [computeBundleIdFromIntegrity, hintegrity]
      rfl
    exact .bind hid (.ite (.ok _) (.ok _))
  · have hhash : computeIntegrityHash std bundle.computation.inputHash
        bundle.computation.outputHash bundle.computation.traceHash =
          .ok (Python.computeIntegrityHash std inputHash outputHash traceHash) := by
      rw [computeIntegrityHash, hin, hout, htrace]
      rfl
    exact .bind hhash (.ite (.ok _) (.ok _))
  · unfold step5CircuitResolution
    cases registry bundle.computation.circuitId bundle.computation.circuitVersion with
    | none => exact .ok _
    | some circuitHash => exact .ite (.ok _) (.ok _)
  · have hvalid : bundle.proof.proofSystem.isIn validSystems =
        .ok (validSystems.contains proofSystem) := by
      rw [hsystem]
      rfl
    exact .bind hvalid (.ite (.ok _) (.ite (.ok _) (.ok _)))
  · exact .ite (.ok _) (.ite (.ok _) (.ok _))
  · unfold step8DataCommitmentVerification
    cases bundle.dataCommitments with
    | none => exact .ok _
    | some commitments =>
        cases commitments with
        | nil => exact .ok _
        | cons commitment commitments => exact .ok _

/-- **On fields of their declared types the verifier returns.** -/
theorem verify_completes (registry : CircuitRegistry) :
    ∃ r, verify std fmt registry bundle = .ok r := by
  rw [verify_eq_run]
  exact orReturnRaising_completes
    (runRaising_completes (requiredSteps_complete fmt std h registry) _)
    fun r => verifyGraph_completes fmt h _

end Completes

end Vrl.Sdk.Python.Loaded

import Vrl.Core.Recalculation
import Vrl.Zk.PlonkVerifier

/-!
# Vrl.Zk.ProverVerifier

Prover (`zk/provers/plonk_prover.py`) and verifier (`zk/verifiers/plonk_verifier.py`) of a
proof compute the same values from different data: the prover from a witness, the verifier
from the proof alone.

Public inputs are all that has to be read back. They travel as sorted `key=value` entries,
and reading the entries gives the dictionary back in the order of its keys
(**`parsePublicInputs_serialize`**), whatever characters the values consist of. The rest
follows from the inversion of `build_plonk_proof` (**`buildPlonkProof_inv`**).
-/

open Pydantic

namespace Vrl.Zk

variable (std : PyStd) (backend : Backend)

/-! ### Public inputs there and back -/

/-- A name that an entry can begin with. -/
def IsInputName (key : String) : Prop := key ≠ "" ∧ '=' ∉ key.toList

theorem toList_serialized (key value : String) :
    (key ++ "=" ++ value).toList = key.toList ++ '=' :: value.toList := by
  simp [String.toList_append]

/-- An entry is split behind its name. -/
theorem IsInputName.split {key : String} (h : IsInputName key) (value : List Char) :
    (key.toList ++ '=' :: value).takeWhile (· ≠ '=') = key.toList ∧
      (key.toList ++ '=' :: value).dropWhile (· ≠ '=') = '=' :: value := by
  have hkey : ∀ c ∈ key.toList, decide (c ≠ '=') = true := by
    intro c hc
    rw [decide_eq_true_eq]
    rintro rfl
    exact h.2 hc
  constructor
  · rw [List.takeWhile_append_of_pos hkey, List.takeWhile_cons_of_neg (by simp), List.append_nil]
  · rw [List.dropWhile_append_of_pos hkey, List.dropWhile_cons_of_neg (by simp)]

theorem parseEntry_serialized {key : String} (h : IsInputName key) (value : String) :
    parseEntry (key ++ "=" ++ value) = .ok (key, value) := by
  obtain ⟨htake, hdrop⟩ := h.split value.toList
  have hnil : key.toList ≠ [] := by
    intro hnil
    exact h.1 (String.toList_eq_nil_iff.mp hnil)
  simp only [parseEntry, toList_serialized, htake, hdrop, if_neg hnil, String.ofList_toList]

/-- Entries with new keys are put at the end, in their order. -/
theorem parseEntries_serialized {publicInputs members : List (String × String)}
    (hkeys : ((publicInputs ++ members).map (·.1)).Nodup)
    (hnames : ∀ m ∈ members, IsInputName m.1) :
    parseEntries publicInputs (members.map fun m => m.1 ++ "=" ++ m.2) =
      .ok (publicInputs ++ members) := by
  induction members generalizing publicInputs with
  | nil => rw [List.map_nil, parseEntries, List.append_nil]
  | cons m members ih =>
      obtain ⟨key, value⟩ := m
      rw [List.forall_mem_cons] at hnames
      have hnew : key ∉ publicInputs.map (·.1) := by
        intro hmem
        rw [List.map_append, List.nodup_append] at hkeys
        exact hkeys.2.2 key hmem key (List.mem_cons_self ..) rfl
      have hrest : (publicInputs ++ (key, value) :: members) =
          (publicInputs ++ [(key, value)]) ++ members := by
        rw [List.append_assoc]
        rfl
      rw [hrest] at hkeys ⊢
      rw [List.map_cons, parseEntries, parseEntry_serialized hnames.1, Except.ok_bind]
      show parseEntries (setItem publicInputs key value) _ = _
      rw [setItem_of_not_mem hnew]
      exact ih hkeys hnames.2

theorem sortMembers_keys_nodup {α : Type} {members : List (String × α)}
    (h : (members.map (·.1)).Nodup) : ((Json.sortMembers members).map (·.1)).Nodup := by
  have hperm : (Json.sortMembers members).Perm members := List.perm_insertionSort _ _
  exact (hperm.map (·.1)).nodup_iff.mpr h

/-- **Reading serialised public inputs gives them back, in the order of their keys.** -/
theorem parsePublicInputs_serialize {publicInputs : List (String × String)}
    (hkeys : (publicInputs.map (·.1)).Nodup) (hnames : ∀ m ∈ publicInputs, IsInputName m.1) :
    parsePublicInputs (serializePublicInputs publicInputs) =
      .ok (Json.sortMembers publicInputs) := by
  have hentries : parseEntries [] (serializePublicInputs publicInputs) =
      .ok ([] ++ Json.sortMembers publicInputs) :=
    parseEntries_serialized (sortMembers_keys_nodup hkeys)
      fun m hm => hnames m (Json.mem_sortMembers.mp hm)
  rw [parsePublicInputs, hentries, Except.ok_bind, List.nil_append, Json.sortMembers_sortMembers]
  rfl

theorem lookup_sortMembers {α : Type} {members : List (String × α)}
    (h : (members.map (·.1)).Nodup) {key : String} {value : α}
    (hlookup : members.lookup key = some value) :
    (Json.sortMembers members).lookup key = some value := by
  rw [lookup_eq_some_iff_mem (sortMembers_keys_nodup h), Json.mem_sortMembers]
  exact (lookup_eq_some_iff_mem h).mp hlookup

/-- The hash of public inputs does not depend on their order. -/
theorem canonicalPublicInputsHash_sortMembers (publicInputs : List (String × String)) :
    canonicalPublicInputsHash std (Json.sortMembers publicInputs) =
      canonicalPublicInputsHash std publicInputs := by
  rw [canonicalPublicInputsHash, Json.sortMembers_sortMembers, canonicalPublicInputsHash]

/-! ### What the prover computes -/

/-- The values that prover and verifier have to agree on. -/
structure ProofValues where
  publicInputsHash : String
  finalProof : String
  verificationKeyId : String
  instanceValues : List Int

/-- What the backend is sent to prove an assignment. -/
def proveRequest {std : PyStd} (witness : Witness std) (traceHash circuitHash : String)
    (assignment : PlonkAssignment) (instanceValues : List Int) : ProveRequest where
  inputHash := witness.inputHash
  outputHash := witness.outputHash
  circuitHash := circuitHash
  traceHash := traceHash
  publicInputsHash := assignment.publicInputsHash
  witnessHash := witness.witnessHash
  aCol := assignment.aCol
  bCol := assignment.bCol
  cCol := assignment.cCol
  instanceValues := instanceValues

/-- The values that `build_plonk_proof` uses, and the data that it puts into the proof. -/
inductive ProverUses (witness : Witness std) (traceHash : String) (values : ProofValues)
    (data : ProofData) : Prop where
  | intro {circuit : PlonkCircuit} {key : KeyMaterial} {assignment : PlonkAssignment}
      {landedCostFp : Int} {response : ProveResponse}
      (htrace : witness.traceHash = traceHash)
      (hcircuit : compileCircuit std = .ok circuit)
      (hkey : ensureCompiled backend circuit = .ok key)
      (hassignment : generateAssignment std witness = .ok assignment)
      (hinputs : assignment.publicInputsHash = values.publicInputsHash)
      (hcost : getItem assignment.wireMap "landed_cost_fp" = .ok landedCostFp)
      (hinstance : buildInstanceValues landedCostFp traceHash circuit.circuitHash
        values.publicInputsHash = .ok values.instanceValues)
      (hprove : backend.prove (proveRequest witness traceHash circuit.circuitHash assignment
        values.instanceValues) = .ok response)
      (hfinal : finalProofHash std response.proofBytesHex response.commitments
        (serializePublicInputs witness.publicInputs) circuit.circuitHash traceHash
        values.publicInputsHash = .ok values.finalProof)
      (hkeyId : (response.metadata.lookup "verification_key_id").getD key.verificationKeyId =
        values.verificationKeyId)
      (hdata : data = {
        proofSystem
        circuitArtifactId := "circuit_" ++ String.ofList (circuit.circuitHash.toList.take 24)
        witnessArtifactId := witness.artifactId
        commitments := response.commitments
        publicInputs := serializePublicInputs witness.publicInputs
        metadata := proofMetadata std circuit key witness traceHash values.publicInputsHash
          response.metadata
        proofBlobHex := response.proofBytesHex
        inputHash := witness.inputHash
        outputHash := witness.outputHash
        traceHash
        finalProof := values.finalProof }) : ProverUses witness traceHash values data

section Inversion

variable {std backend} {witness : Witness std}

/-- **What `build_plonk_proof` has done when it returns a proof.** -/
theorem buildPlonkProof_inv {traceHash producedBy : String} {cycle : Int} {proof : Proof std}
    (h : buildPlonkProof std backend witness traceHash producedBy cycle = .ok proof) :
    ∃ values, ProverUses std backend witness traceHash values proof.toProofData := by
  unfold buildPlonkProof at h
  obtain ⟨_, htrace, h⟩ := Except.bind_eq_ok_iff.mp h
  obtain ⟨circuit, hcircuit, h⟩ := Except.bind_eq_ok_iff.mp h
  obtain ⟨key, hkey, h⟩ := Except.bind_eq_ok_iff.mp h
  obtain ⟨assignment, hassignment, h⟩ := Except.bind_eq_ok_iff.mp h
  obtain ⟨landedCostFp, hcost, h⟩ := Except.bind_eq_ok_iff.mp h
  obtain ⟨instanceValues, hinstance, h⟩ := Except.bind_eq_ok_iff.mp h
  obtain ⟨response, hprove, h⟩ := Except.bind_eq_ok_iff.mp h
  obtain ⟨finalProof, hfinal, h⟩ := Except.bind_eq_ok_iff.mp h
  have hmatch : witness.traceHash = traceHash := by
    unfold assertWitnessTraceMatch at htrace
    split at htrace
    · assumption
    · cases htrace
  exact ⟨{
    publicInputsHash := assignment.publicInputsHash
    finalProof
    verificationKeyId := (response.metadata.lookup "verification_key_id").getD key.verificationKeyId
    instanceValues },
    .intro hmatch hcircuit hkey hassignment rfl hcost hinstance hprove hfinal rfl
      (buildProofArtifact_toProofData h)⟩

/-- What an assignment keeps of the public inputs: their hash, and the landed cost. -/
theorem generateAssignment_inv {assignment : PlonkAssignment}
    (h : generateAssignment std witness = .ok assignment) :
    ∃ landedCost landedCostFp, witness.publicInputs.lookup "landed_cost" = some landedCost ∧
      toFixedPoint landedCost = .ok landedCostFp ∧
      getItem assignment.wireMap "landed_cost_fp" = .ok landedCostFp ∧
      canonicalPublicInputsHash std witness.publicInputs = .ok assignment.publicInputsHash := by
  unfold generateAssignment at h
  simp only [Except.bind_eq_ok_iff] at h
  obtain ⟨_, -, _, -, _, -, _, -, _, -, _, -, _, -, _, -, landedCost, hcost, landedCostFp, hfp, _, -,
    _, hhash, h⟩ := h
  cases h
  exact ⟨landedCost, landedCostFp, getItem_eq_ok.mp hcost, hfp, rfl, hhash⟩

theorem hashHexToLimbs_length {hexValue : String} {limbs : List Int}
    (h : hashHexToLimbs hexValue = .ok limbs) : limbs.length = 4 := by
  by_cases hlength : hexValue.toList.length = 64
  · rw [hashHexToLimbs, if_pos hlength] at h
    exact (Except.forall₂_of_mapM h).length_eq.symm
  · rw [hashHexToLimbs, if_neg hlength] at h
    cases h

/-- There are always 13 instance values. -/
theorem buildInstanceValues_length {landedCostFp : Int}
    {traceHash circuitHash publicInputsHash : String} {instanceValues : List Int}
    (h : buildInstanceValues landedCostFp traceHash circuitHash publicInputsHash =
      .ok instanceValues) : instanceValues.length = 13 := by
  obtain ⟨traceLimbs, htrace, h⟩ := Except.bind_eq_ok_iff.mp h
  obtain ⟨circuitLimbs, hcircuit, h⟩ := Except.bind_eq_ok_iff.mp h
  obtain ⟨inputsLimbs, hinputs, h⟩ := Except.bind_eq_ok_iff.mp h
  cases h
  rw [List.length_cons, List.length_append, List.length_append, hashHexToLimbs_length htrace,
    hashHexToLimbs_length hcircuit, hashHexToLimbs_length hinputs]

end Inversion

/-! ### What the verifier computes -/

/-- The values that `verify_plonk_proof` uses. -/
inductive VerifierUses (proof : Proof std) (values : ProofValues) : Prop where
  | intro {publicInputs : List (String × String)} {landedCost : String} {circuit : PlonkCircuit}
      {key : KeyMaterial} {landedCostFp : Int}
      (hparse : parsePublicInputs proof.publicInputs = .ok publicInputs)
      (hcost : publicInputs.lookup "landed_cost" = some landedCost)
      (hcircuit : compileCircuit std = .ok circuit)
      (hinputs : canonicalPublicInputsHash std publicInputs = .ok values.publicInputsHash)
      (hfinal : finalProofHash std proof.proofBlobHex proof.commitments proof.publicInputs
        circuit.circuitHash proof.traceHash values.publicInputsHash = .ok values.finalProof)
      (hkey : deriveVerificationKey backend circuit.circuitHash circuit = .ok key)
      (hkeyId : key.verificationKeyId = values.verificationKeyId)
      (hfp : toFixedPoint landedCost = .ok landedCostFp)
      (hinstance : buildInstanceValues landedCostFp proof.traceHash circuit.circuitHash
        values.publicInputsHash = .ok values.instanceValues) : VerifierUses proof values

/-- The proof carries the values. -/
structure Proof.Carries {std : PyStd} (proof : Proof std) (values : ProofValues) : Prop where
  publicInputsHash : proof.metadata.lookup "public_inputs_hash" = some values.publicInputsHash
  finalProof : proof.finalProof = values.finalProof
  verificationKeyId : proof.metadata.lookup "verification_key_id" = some values.verificationKeyId

/-! ### Agreement -/

/-- The backend verifies the proofs that it has produced. -/
def Backend.VerifiesOwn : Prop :=
  ∀ request response, backend.prove request = .ok response →
    ∃ answer, backend.verify request.instanceValues response.proofBytesHex = .ok answer ∧
      answer.valid = true

/-- A key that a proof is reported to be made with is the one that the circuit was compiled
to. -/
def Backend.ReportsCompiledKeys : Prop :=
  ∀ circuit key request response id, backend.compile circuit = .ok key →
    request.circuitHash = circuit.circuitHash → backend.prove request = .ok response →
    response.metadata.lookup "verification_key_id" = some id → id = key.verificationKeyId

/-- Only bytes in ASCII verify: they are read as hexadecimal. -/
def Backend.VerifiesAscii : Prop :=
  ∀ values bytes answer, backend.verify values bytes = .ok answer → answer.valid = true →
    TextCodec.IsAscii bytes.toList

theorem isAscii_proofBlobHex (hascii : backend.VerifiesAscii) {proof : Proof std}
    (h : proof.IsValid std backend) : TextCodec.IsAscii proof.proofBlobHex.toList := by
  obtain ⟨-, response, -, -, -, -, -, -, -, -, -, -, -, -, -, hverify, hvalid⟩ := h
  exact hascii _ _ _ hverify hvalid

section Agreement

variable {std backend} {witness : Witness std} {traceHash : String} {values : ProofValues}
  {proof : Proof std}

/-- The prover writes the values it uses into the proof. -/
theorem carries_of_proverUses
    (h : ProverUses std backend witness traceHash values proof.toProofData) :
    proof.Carries values := by
  obtain ⟨-, -, -, -, -, -, -, -, -, hkeyId, hdata⟩ := h
  constructor
  · rw [hdata]
    rfl
  · rw [hdata]
  · rw [hdata, ← hkeyId]
    rfl

/-- **The verifier uses the values that the prover has used.** -/
theorem verifierUses_of_proverUses (hreports : backend.ReportsCompiledKeys)
    (hkeys : (witness.publicInputs.map (·.1)).Nodup)
    (hnames : ∀ m ∈ witness.publicInputs, IsInputName m.1)
    (h : ProverUses std backend witness traceHash values proof.toProofData) :
    VerifierUses std backend proof values := by
  obtain ⟨-, hcircuit, hkey, hassignment, hinputs, hcost, hinstance, hprove, hfinal, hkeyId,
    hdata⟩ := h
  rename_i circuit key assignment landedCostFp response
  obtain ⟨landedCost, landedCostFp', hlookup, hfp, hcost', hhash⟩ :=
    generateAssignment_inv hassignment
  rw [hcost] at hcost'
  cases hcost'
  have hreported : key.verificationKeyId = values.verificationKeyId := by
    rw [← hkeyId]
    cases hid : response.metadata.lookup "verification_key_id" with
    | none => rfl
    | some id => exact (hreports circuit key _ response id hkey rfl hprove hid).symm
  have hparse : parsePublicInputs proof.publicInputs =
      .ok (Json.sortMembers witness.publicInputs) := by
    rw [hdata]
    exact parsePublicInputs_serialize hkeys hnames
  refine .intro hparse (lookup_sortMembers hkeys hlookup) hcircuit ?_ ?_ ?_ hreported hfp ?_
  · rw [canonicalPublicInputsHash_sortMembers, hhash, hinputs]
  · rw [hdata]
    exact hfinal
  · rw [deriveVerificationKey_self]
    exact hkey
  · rw [hdata]
    exact hinstance

/-- A proof of a witness is valid on its own. -/
theorem isValid_of_proverUses (hverifies : backend.VerifiesOwn)
    (hreports : backend.ReportsCompiledKeys) (hkeys : (witness.publicInputs.map (·.1)).Nodup)
    (hnames : ∀ m ∈ witness.publicInputs, IsInputName m.1)
    (h : ProverUses std backend witness traceHash values proof.toProofData) :
    proof.IsValid std backend := by
  obtain ⟨hinputs, hfinal, hkeyId⟩ := carries_of_proverUses h
  obtain ⟨hparse, hcost, hcircuit, hhash, hrecomputed, hkey, hkeyEq, hfp, hinstance⟩ :=
    verifierUses_of_proverUses hreports hkeys hnames h
  obtain ⟨-, hproverCircuit, -, -, -, -, -, hprove, -, -, hdata⟩ := h
  rw [hproverCircuit] at hcircuit
  cases hcircuit
  rw [deriveVerificationKey_self] at hkey
  obtain ⟨answer, hanswer, hvalid⟩ := hverifies _ _ hprove
  refine ⟨by rw [hdata], answer, .intro hparse hcost hproverCircuit ?_ ?_ hhash ?_ hrecomputed ?_
    hkey (.inr ?_) hfp hinstance ?_ hvalid⟩
  · -- the circuit and the trace are those of the prover
    rw [Proof.getMetadata, hdata]
    rfl
  · rw [hdata]
    rfl
  · rw [Proof.getMetadata, hinputs]
    exact constantTimeEqual_of_canonicalHash std hhash
  · rw [hfinal]
    exact constantTimeEqual_of_canonicalHash std hrecomputed
  · rw [Proof.getMetadata, hkeyId, hkeyEq]
    rfl
  · rw [hdata]
    exact hanswer

end Agreement

/-! ### Witnesses that can be proved -/

section Provable

variable {std backend}

theorem toFixedPoint_of_mul {text : String} {d scaled : PyDecimal} {i : Int}
    (hd : PyDecimal.ofText (strip text.toList) = some d)
    (hmul : d.mul context (.ofInt fixedPointScale) = .ok scaled)
    (hi : scaled.toInt .halfUp = .ok i) : toFixedPoint text = .ok (i % fieldOrder) := by
  rw [toFixedPoint, hd]
  simp only [Except.ok_bind, hmul, hi]
  rfl

/-- The text of an amount of money is read back, and scaling it stays in range. -/
theorem scaled_of_isMoney {d : PyDecimal} (h : IsMoney d) :
    PyDecimal.ofText (strip (String.ofList d.text).toList) = some d ∧
      ∃ neg coeff exp, d.mul context (.ofInt fixedPointScale) = .ok (.finite neg coeff exp) := by
  obtain ⟨neg, cents, rfl, hfixed⟩ := isFixed_of_isMoney h
  have hstrip : strip (PyDecimal.text (.finite neg cents (-2))) =
      PyDecimal.text (.finite neg cents (-2)) :=
    strip_eq_self fun c hc =>
      isStrSpace_of_isNumberChar (PyDecimal.text_isNumberChar hfixed c hc)
  have hscale : fixedPointScale.natAbs ≤ 1000000 := by norm_num [fixedPointScale]
  constructor
  · rw [String.toList_ofList, hstrip, PyDecimal.ofText_text hfixed]
  · exact PyDecimal.mul_ofInt_ok 28 neg hfixed.digits (by decide) hscale

/-- An amount of money has a fixed point. -/
theorem toFixedPoint_of_isMoney {d : PyDecimal} (h : IsMoney d) :
    ∃ fixed, toFixedPoint (String.ofList d.text) = .ok fixed := by
  obtain ⟨hread, neg, coeff, exp, hmul⟩ := scaled_of_isMoney h
  exact ⟨_, toFixedPoint_of_mul hread hmul rfl⟩

/-- The assignment over the fixed points of the amounts of a request, its fees and its cost. -/
def assignmentOf (customsValue freight insurance quantity landedCost duty s301 mpf hmf : Int)
    (publicInputsHash : String) : PlonkAssignment :=
  let quantity := quantity % fieldOrder
  let extended := customsValue * quantity % fieldOrder
  let feePartial := (duty + s301) % fieldOrder
  let mpfHmfSum := (mpf + hmf) % fieldOrder
  let feeFull := (feePartial + mpfHmfSum) % fieldOrder
  let baseSum := (extended + freight + insurance) % fieldOrder
  { aCol := [customsValue, duty, s301, mpf, hmf, duty, feePartial, baseSum]
    bCol := [quantity, 1, 1, 1, 1, s301, mpfHmfSum, feeFull]
    cCol := [extended, duty, s301, mpf, hmf, feePartial, feeFull, landedCost]
    wireMap := [("customs_value_fp", customsValue), ("quantity_fp", quantity),
      ("extended_value_fp", extended), ("one_fp", 1), ("duty_amount_fp", duty),
      ("s301_amount_fp", s301), ("mpf_amount_fp", mpf), ("hmf_amount_fp", hmf),
      ("fee_partial_fp", feePartial), ("mpf_hmf_sum_fp", mpfHmfSum), ("fee_full_fp", feeFull),
      ("base_sum_fp", baseSum), ("landed_cost_fp", landedCost), ("freight_fp", freight),
      ("insurance_fp", insurance)]
    publicInputsHash }

/-- **What `generate_assignment` returns for the witness of a calculation.** -/
theorem generateAssignment_eq {r : ImportCalculationRequest} (hr : r.IsCanonical)
    {response : CalculationResponse} (hresponse : calculateImportLandedCost std r = .ok response)
    {witness : Witness std} (hprivate : witness.privateInputs = r.payload)
    (hpublic : witness.publicInputs.lookup "landed_cost" =
      some (String.ofList response.result.landedCost.text))
    {customsValue freight insurance landedCost duty s301 mpf hmf : Int} {hash : String}
    (hvalue : toFixedPoint (String.ofList r.customsValue.1.text) = .ok customsValue)
    (hfreight : toFixedPoint (String.ofList r.freight.1.text) = .ok freight)
    (hinsurance : toFixedPoint (String.ofList r.insurance.1.text) = .ok insurance)
    (hlanded : toFixedPoint (String.ofList response.result.landedCost.text) = .ok landedCost)
    (hduty : toFixedPoint (String.ofList response.result.dutyAmount.text) = .ok duty)
    (hs301 : toFixedPoint (String.ofList response.result.section301Amount.text) = .ok s301)
    (hmpf : toFixedPoint (String.ofList response.result.mpfAmount.text) = .ok mpf)
    (hhmf : toFixedPoint (String.ofList response.result.hmfAmount.text) = .ok hmf)
    (hhash : canonicalPublicInputsHash std witness.publicInputs = .ok hash) :
    generateAssignment std witness = .ok (assignmentOf customsValue freight insurance
      r.quantity.1 landedCost duty s301 mpf hmf hash) := by
  have hfees : deriveFeeComponents std r.payload = .ok (duty, s301, mpf, hmf) := by
    rw [deriveFeeComponents, modelValidate_payload std hr, Except.ok_bind, hresponse]
    simp only [Except.ok_bind, hduty, hs301, hmpf, hhmf]
    rfl
  have hcustomsItem : getItem r.payload "customs_value" = .ok (.decimal r.customsValue.1) := rfl
  have hfreightItem : getItem r.payload "freight" = .ok (.decimal r.freight.1) := rfl
  have hinsuranceItem : getItem r.payload "insurance" = .ok (.decimal r.insurance.1) := rfl
  have hquantity : getItem r.payload "quantity" = .ok (.int r.quantity.1) := rfl
  have htext : ∀ d : PyDecimal, textOf (.decimal d) = String.ofList d.text := fun d => rfl
  rw [generateAssignment, hprivate, hcustomsItem, hfreightItem, hinsuranceItem, hquantity]
  simp only [Except.ok_bind, htext, hvalue, hfreight, hinsurance, intOf, getItem_eq_ok.mpr hpublic,
    hlanded, hfees, hhash]
  rfl

/-- **The witness of a calculation has an assignment.** -/
theorem generateAssignment_ok {r : ImportCalculationRequest} (hr : r.IsCanonical)
    {response : CalculationResponse} (hresponse : calculateImportLandedCost std r = .ok response)
    {witness : Witness std} (hprivate : witness.privateInputs = r.payload)
    (hpublic : witness.publicInputs.lookup "landed_cost" =
      some (String.ofList response.result.landedCost.text)) :
    ∃ assignment, generateAssignment std witness = .ok assignment := by
  have hresult := isFixed_of_calculation ((calculate_eq_ok_iff hr).mp hresponse)
  obtain ⟨valueFp, hvalue⟩ := toFixedPoint_of_isMoney r.customsValue.2.1
  obtain ⟨freightFp, hfreight⟩ := toFixedPoint_of_isMoney r.freight.2.1
  obtain ⟨insuranceFp, hinsurance⟩ := toFixedPoint_of_isMoney r.insurance.2.1
  obtain ⟨dutyFp, hduty⟩ := toFixedPoint_of_isMoney hresult.dutyAmount
  obtain ⟨s301Fp, hs301⟩ := toFixedPoint_of_isMoney hresult.section301Amount
  obtain ⟨mpfFp, hmpf⟩ := toFixedPoint_of_isMoney hresult.mpfAmount
  obtain ⟨hmfFp, hhmf⟩ := toFixedPoint_of_isMoney hresult.hmfAmount
  obtain ⟨landedFp, hlanded⟩ := toFixedPoint_of_isMoney hresult.landedCost
  obtain ⟨hash, hhash⟩ : ∃ hash, canonicalPublicInputsHash std witness.publicInputs = .ok hash :=
    canonicalHash_ok std (floatFree_ofStringDict _)
  exact ⟨_, generateAssignment_eq hr hresponse hprivate hpublic hvalue hfreight hinsurance hlanded
    hduty hs301 hmpf hhmf hhash⟩

/-- **A witness with an assignment has a proof where the backend always answers.** -/
theorem buildPlonkProof_ok (hfull : std.IsFullLength)
    (hcompile : ∀ circuit, ∃ key, backend.compile circuit = .ok key)
    (hprove : ∀ request, ∃ response, backend.prove request = .ok response)
    {witness : Witness std} (hhash : ∃ text, witness.traceHash = std.hexdigest text)
    (hassignment : ∃ assignment, generateAssignment std witness = .ok assignment)
    (producedBy : String) (cycle : Int) :
    ∃ proof, buildPlonkProof std backend witness witness.traceHash producedBy cycle = .ok proof := by
  obtain ⟨assignment, hassignment⟩ := hassignment
  obtain ⟨landedCost, landedCostFp, -, -, hcost, hinputs⟩ := generateAssignment_inv hassignment
  obtain ⟨circuit, hcircuit⟩ := compileCircuit_ok std
  obtain ⟨key, hkey⟩ := hcompile circuit
  have hcircuitHash : ∃ text, circuit.circuitHash = std.hexdigest text := by
    obtain ⟨hash, hhash, h⟩ := Except.bind_eq_ok_iff.mp hcircuit
    cases h
    exact exists_of_canonicalHash std hhash
  obtain ⟨traceText, htraceText⟩ := hhash
  obtain ⟨circuitText, hcircuitText⟩ := hcircuitHash
  obtain ⟨inputsText, hinputsText⟩ := exists_of_canonicalHash std hinputs
  obtain ⟨instanceValues, hinstance⟩ : ∃ values, buildInstanceValues landedCostFp witness.traceHash
      circuit.circuitHash assignment.publicInputsHash = .ok values := by
    rw [htraceText, hcircuitText, hinputsText]
    exact buildInstanceValues_ok std hfull ..
  obtain ⟨response, hresponse⟩ :=
    hprove (proveRequest witness witness.traceHash circuit.circuitHash assignment instanceValues)
  obtain ⟨finalProof, hfinal⟩ : ∃ finalProof, finalProofHash std response.proofBytesHex
      response.commitments (serializePublicInputs witness.publicInputs) circuit.circuitHash
      witness.traceHash assignment.publicInputsHash = .ok finalProof := by
    refine canonicalHash_ok std ?_
    simp [floatFree, floatFreeMembers]
  rw [proveRequest] at hresponse
  rw [buildPlonkProof, assertWitnessTraceMatch, if_pos rfl, Except.ok_bind, hcircuit,
    Except.ok_bind, ensureCompiled, hkey, Except.ok_bind, hassignment, Except.ok_bind, hcost,
    Except.ok_bind, hinstance, Except.ok_bind, hresponse, Except.ok_bind]
  simp only [hfinal, Except.ok_bind]
  exact buildProofArtifact_ok ..

end Provable

/-! ### Prover and verifier -/

/-- **Prover and verifier agree: from its proof alone the verifier recomputes the values that
the prover has used, and accepts the proof.** -/
theorem plonk_prover_verifier_agree (hverifies : backend.VerifiesOwn)
    (hreports : backend.ReportsCompiledKeys) {witness : Witness std}
    (hkeys : (witness.publicInputs.map (·.1)).Nodup)
    (hnames : ∀ m ∈ witness.publicInputs, IsInputName m.1)
    {traceHash producedBy : String} {cycle : Int} {proof : Proof std}
    (hproof : buildPlonkProof std backend witness traceHash producedBy cycle = .ok proof) :
    (∃ values, ProverUses std backend witness traceHash values proof.toProofData ∧
        proof.Carries values ∧ VerifierUses std backend proof values ∧
        values.instanceValues.length = 13) ∧
      ∀ verifiedBy verifiedCycle, ∃ result,
        verifyPlonkProof std backend proof verifiedBy verifiedCycle = .ok result ∧
          result.status = .valid := by
  obtain ⟨values, huses⟩ := buildPlonkProof_inv hproof
  have hverifier := verifierUses_of_proverUses hreports hkeys hnames huses
  have hlength : values.instanceValues.length = 13 := by
    obtain ⟨-, -, -, -, -, -, -, -, hinstance⟩ := hverifier
    exact buildInstanceValues_length hinstance
  refine ⟨⟨values, huses, carries_of_proverUses huses, hverifier, hlength⟩, ?_⟩
  intro verifiedBy verifiedCycle
  obtain ⟨result, hresult, hstatus⟩ :=
    verifyPlonkProof_status std backend proof verifiedBy verifiedCycle
  exact ⟨result, hresult,
    hstatus.mpr (isValid_of_proverUses hverifies hreports hkeys hnames huses)⟩

theorem transcriptBackend_verifiesOwn : transcriptBackend.VerifiesOwn := by
  intro request response h
  cases h
  exact ⟨_, rfl, beq_self_eq_true _⟩

theorem transcriptBackend_reportsCompiledKeys : transcriptBackend.ReportsCompiledKeys := by
  intro circuit key request response id hkey _ hresponse hid
  cases hkey
  cases hresponse
  cases hid
  rfl

theorem transcriptBackend_verifiesAscii : transcriptBackend.VerifiesAscii := by
  intro values bytes answer h hvalid
  cases h
  have hbytes : bytes = instanceTranscript values := by simpa using hvalid
  rw [hbytes, instanceTranscript, String.toList_ofList]
  intro c hc
  exact TextCodec.isAsciiChar_of_isLowerHex (TextCodec.hexEncode_isLowerHex _ c hc)

/-- A value may contain the sign that entries are split at. -/
theorem plonk_prover_verifier_agree_reference :
    ∃ (witness : Witness lengthStd) (proof : Proof lengthStd),
      witness.publicInputs = [("note", "a=b=é"), ("landed_cost", "3292.31")] ∧
      buildPlonkProof lengthStd transcriptBackend witness witness.traceHash "prover" 1 = .ok proof ∧
      (∃ values, ProverUses lengthStd transcriptBackend witness witness.traceHash values
          proof.toProofData ∧ proof.Carries values ∧
          VerifierUses lengthStd transcriptBackend proof values ∧
          values.instanceValues.length = 13) ∧
        ∀ verifiedBy verifiedCycle, ∃ result,
          verifyPlonkProof lengthStd transcriptBackend proof verifiedBy verifiedCycle = .ok result ∧
            result.status = .valid := by
  obtain ⟨hcanonical, response, hresponse, hlanded⟩ :=
    @calculate_reference lengthStd "CN" 329231 (List.mem_cons_self ..)
  have htext : String.ofList response.result.landedCost.text = "3292.31" := by
    rw [hlanded]
    decide +kernel
  obtain ⟨witness, hwitness⟩ : ∃ witness, buildWitnessArtifact lengthStd {
      traceArtifactId := "trace"
      inputHash := response.integrity.inputHash
      outputHash := response.integrity.outputHash
      traceHash := lengthStd.hexdigest "trace"
      publicInputs := [("note", "a=b=é"), ("landed_cost", "3292.31")]
      privateInputs := (referenceRequest "CN").payload } "witness" 1 = .ok witness :=
    buildWitnessArtifact_ok rfl "witness" 1
  have hdata := buildWitnessArtifact_inv hwitness
  have hpublic : witness.publicInputs = [("note", "a=b=é"), ("landed_cost", "3292.31")] := by
    rw [hdata]
  have hcost : witness.publicInputs.lookup "landed_cost" =
      some (String.ofList response.result.landedCost.text) := by
    rw [hpublic, htext]
    decide
  have htrace : witness.traceHash = lengthStd.hexdigest "trace" := by rw [hdata]
  have hfull : lengthStd.IsFullLength := lengthSha_isFullLength
  have hassignment := generateAssignment_ok hcanonical hresponse (by rw [hdata]) hcost
  obtain ⟨proof, hproof⟩ : ∃ proof, buildPlonkProof lengthStd transcriptBackend witness
      witness.traceHash "prover" 1 = .ok proof :=
    buildPlonkProof_ok hfull (fun _ => ⟨_, rfl⟩) (fun _ => ⟨_, rfl⟩)
      ⟨"trace", htrace⟩ hassignment "prover" 1
  have hkeys : (witness.publicInputs.map (·.1)).Nodup := by
    rw [hpublic]
    decide
  have hnames : ∀ m ∈ witness.publicInputs, IsInputName m.1 := by
    rw [hpublic]
    simp [IsInputName]
  exact ⟨witness, proof, hpublic, hproof, plonk_prover_verifier_agree lengthStd transcriptBackend
    transcriptBackend_verifiesOwn transcriptBackend_reportsCompiledKeys hkeys hnames hproof⟩

end Vrl.Zk

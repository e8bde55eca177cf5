import Vrl.Zk.AmlWitness
import Vrl.Zk.ProofSpelling

/-!
# Vrl.Zk.ContractClauseWitness

The wire assignment of the contract clause circuit
(`zk/witness/contract_clause_witness_generator.py`): four gates that multiply and three that
add.

Every wire that a gate computes is computed by the generator as the gate asks for it, and the
others are limbs. So whatever assignment is returned satisfies the circuit, and one is returned
exactly for a classification of the table and two hashes whose blocks are numbers
(**`contractClause_complete`**).
-/

open TextCodec

namespace Vrl.Zk

variable (std : PyStd)

/-! ### The generator -/

/-- `CLASSIFICATION_ENCODING`. -/
def classificationEncoding : List (String × Int) :=
  [("COMPLIANT", 0), ("LOW_RISK", 1), ("MEDIUM_RISK", 2), ("HIGH_RISK", 3)]

/-- `ContractClauseWitnessInput`. -/
structure ContractClauseWitnessInput where
  clauseText : String
  clauseId : String
  modelRawOutput : String
  classificationResult : String
  rulesetIdHash : String
  aiId : String
  auditEntryHash : String

/-- The code of a classification, which has to be in the table. -/
def encodeClassification (classificationResult : String) : Except PyError Int :=
  match classificationEncoding.lookup classificationResult with
  | some classificationCode => .ok classificationCode
  | none => .error ⟨.valueError, "Invalid classification_result: " ++ classificationResult ++
      ". Must be one of: ['COMPLIANT', 'LOW_RISK', 'MEDIUM_RISK', 'HIGH_RISK']"⟩

/-- `build_contract_clause_assignment`. -/
def buildContractClauseAssignment (input : ContractClauseWitnessInput) :
    Except PyError PlonkAssignment := do
  let classificationCode ← encodeClassification input.classificationResult
  let clauseHash := sha256Hex std input.clauseText
  let modelOutputHash := sha256Hex std input.modelRawOutput
  let classificationValueFp := classificationCode * fixedPointScale % fieldOrder
  let clauseHashLimbs ← hashHexToLimbs clauseHash
  let modelOutputHashLimbs ← hashHexToLimbs modelOutputHash
  let rulesetHashLimbs ← hashHexToLimbs input.rulesetIdHash
  let auditHashLimbs ← hashHexToLimbs input.auditEntryHash
  let clause0 ← columnAt clauseHashLimbs 0
  let clause1 ← columnAt clauseHashLimbs 1
  let model0 ← columnAt modelOutputHashLimbs 0
  let model1 ← columnAt modelOutputHashLimbs 1
  let ruleset0 ← columnAt rulesetHashLimbs 0
  let audit0 ← columnAt auditHashLimbs 0
  let product0Fp := clause0 * model0 % fieldOrder
  let product1Fp := ruleset0 * classificationValueFp % fieldOrder
  let product2Fp := clause1 * model1 % fieldOrder
  let product3Fp := audit0 % fieldOrder
  let sum01Fp := (product0Fp + product1Fp) % fieldOrder
  let sum23Fp := (product2Fp + product3Fp) % fieldOrder
  let finalProofElementFp := (sum01Fp + sum23Fp) % fieldOrder
  let oneFp := 1
  let publicInputs := [("ruleset_id_hash", input.rulesetIdHash), ("ai_id", input.aiId),
    ("classification_result", input.classificationResult),
    ("audit_entry_hash", input.auditEntryHash)]
  return {
    aCol := [clause0, ruleset0, clause1, audit0, product0Fp, product2Fp, sum01Fp]
    bCol := [model0, classificationValueFp, model1, oneFp, product1Fp, product3Fp, sum23Fp]
    cCol := [product0Fp, product1Fp, product2Fp, product3Fp, sum01Fp, sum23Fp,
      finalProofElementFp]
    wireMap := [("clause_text", clause0), ("clause_hash", clause0), ("model_raw_output", model0),
      ("model_output_hash", model0), ("classification_code", classificationCode),
      ("classification_value_fp", classificationValueFp), ("ruleset_id_hash", ruleset0),
      ("ai_id", audit0), ("audit_entry_hash", audit0), ("product_0_fp", product0Fp),
      ("product_1_fp", product1Fp), ("product_2_fp", product2Fp), ("product_3_fp", product3Fp),
      ("sum_01_fp", sum01Fp), ("sum_23_fp", sum23Fp),
      ("final_proof_element_fp", finalProofElementFp), ("one_fp", oneFp)]
    publicInputsHash := ← canonicalPublicInputsHash std publicInputs }

/-! ### What the generator needs -/

/-- Four blocks of sixteen characters that are numbers. -/
def IsLimbText (hash : String) : Prop :=
  hash.toList.length = 64 ∧
    ∀ index ∈ [0, 16, 32, 48], PyInt.parsesBase16 ((hash.toList.drop index).take 16) = true

/-- A classification of the table, under a ruleset and an audit entry that have limbs. -/
structure ContractClauseWitnessInput.IsClassified (input : ContractClauseWitnessInput) : Prop where
  classification : input.classificationResult ∈ classificationEncoding.map Prod.fst
  ruleset : IsLimbText input.rulesetIdHash
  auditEntry : IsLimbText input.auditEntryHash

theorem limbAt_ok_iff {cs : List Char} {index : Nat} :
    (∃ limb, limbAt cs index = .ok limb) ↔
      PyInt.parsesBase16 ((cs.drop index).take 16) = true := by
  rw [limbAt, PyInt.readBase16]
  cases PyInt.parsesBase16 ((cs.drop index).take 16) with
  | true => exact ⟨fun _ => rfl, fun _ => ⟨_, rfl⟩⟩
  | false =>
      constructor
      · rintro ⟨limb, h⟩
        cases h
      · intro h
        cases h

/-- A text has limbs exactly if its blocks are numbers. -/
theorem hashHexToLimbs_ok_iff {hash : String} :
    (∃ limbs, hashHexToLimbs hash = .ok limbs) ↔ IsLimbText hash := by
  rw [hashHexToLimbs, IsLimbText]
  by_cases hlength : hash.toList.length = 64
  · rw [if_pos hlength, Except.mapM_ok_iff, and_iff_right hlength]
    exact forall₂_congr fun index _ => limbAt_ok_iff
  · rw [if_neg hlength]
    constructor
    · rintro ⟨limbs, h⟩
      cases h
    · intro h
      exact absurd h.1 hlength

/-- The limbs that the generator reads. -/
theorem hashHexToLimbs_columns {hash : String} {limbs : List Int}
    (h : hashHexToLimbs hash = .ok limbs) :
    ∃ l0 l1, limbAt hash.toList 0 = .ok l0 ∧ limbAt hash.toList 16 = .ok l1 ∧
      columnAt limbs 0 = .ok l0 ∧ columnAt limbs 1 = .ok l1 := by
  obtain ⟨-, l0, l1, l2, l3, h0, h1, -, -, rfl⟩ := hashHexToLimbs_inv h
  exact ⟨l0, l1, h0, h1, rfl, rfl⟩

theorem encodeClassification_eq {classificationResult : String} {code : Int} :
    encodeClassification classificationResult = .ok code ↔
      classificationEncoding.lookup classificationResult = some code := by
  rw [encodeClassification]
  cases classificationEncoding.lookup classificationResult with
  | none => simp
  | some code' => simp

theorem encodeClassification_ok_iff {classificationResult : String} :
    (∃ code, encodeClassification classificationResult = .ok code) ↔
      classificationResult ∈ classificationEncoding.map Prod.fst := by
  simp only [encodeClassification_eq]
  rw [← Option.isSome_iff_exists, List.lookup_isSome_iff, List.mem_map]
  simp only [beq_iff_eq]
  exact exists_congr fun _ => and_congr_right fun _ => eq_comm

/-! ### The number the gates add up -/

/-- A block of sixteen characters as a number. -/
def blockValue (hash : String) (index : Nat) : Int :=
  (PyInt.readBase16 ((hash.toList.drop index).take 16)).getD 0

/-- The products of the first two blocks of the hashes, the ruleset at the scale of the
classification and the audit entry, over the integers. -/
def ContractClauseWitnessInput.proofElement (input : ContractClauseWitnessInput) : Int :=
  let clauseHash := sha256Hex std input.clauseText
  let modelOutputHash := sha256Hex std input.modelRawOutput
  let code := (classificationEncoding.lookup input.classificationResult).getD 0
  blockValue clauseHash 0 * blockValue modelOutputHash 0 +
    blockValue input.rulesetIdHash 0 * (code * fixedPointScale) +
    blockValue clauseHash 16 * blockValue modelOutputHash 16 + blockValue input.auditEntryHash 0

variable {std}

theorem limbAt_eq_blockValue {hash : String} {index : Nat} {limb : Int}
    (h : limbAt hash.toList index = .ok limb) : limb = blockValue hash index := by
  rw [limbAt] at h
  rw [blockValue]
  cases hread : PyInt.readBase16 ((hash.toList.drop index).take 16) with
  | none =>
      rw [hread] at h
      cases h
  | some value =>
      rw [hread] at h
      cases h
      rfl

/-- A number and its remainder are the same field element. -/
theorem wrapped_holds (x : Int) :
    decide ((x - x % (fieldOrder : Int)) % (fieldOrder : Int) = 0) = true := by
  rw [Int.sub_emod_emod, sub_self, Int.zero_emod, decide_eq_true rfl]

/-- Remainders may be taken of the products and sums one by one or of the whole. -/
theorem emod_proofElement (a b c d e f g p : Int) :
    ((a * b % p + c * (d % p) % p) % p + (e * f % p + g % p) % p) % p =
      (a * b + c * d + e * f + g) % p := by
  have hproduct : c * (d % p) % p = c * d % p := by
    rw [Int.mul_emod, Int.emod_emod_of_dvd d dvd_rfl, ← Int.mul_emod]
  rw [hproduct]
  simp only [Int.emod_add_emod, Int.add_emod_emod]
  rw [← add_assoc]

/-! ### Assignments -/

/-- What an assignment of the generator has been built from. -/
theorem buildContractClauseAssignment_inv {input : ContractClauseWitnessInput}
    {assignment : PlonkAssignment} (h : buildContractClauseAssignment std input = .ok assignment) :
    input.IsClassified ∧ assignment.gateResults 4 3 = .ok (List.replicate 7 true) ∧
      getItem assignment.wireMap "final_proof_element_fp" =
        .ok (input.proofElement std % fieldOrder) := by
  obtain ⟨code, hcode, h⟩ := Except.bind_eq_ok_iff.mp h
  obtain ⟨clauseLimbs, hclause, h⟩ := Except.bind_eq_ok_iff.mp h
  obtain ⟨modelLimbs, hmodel, h⟩ := Except.bind_eq_ok_iff.mp h
  obtain ⟨rulesetLimbs, hruleset, h⟩ := Except.bind_eq_ok_iff.mp h
  obtain ⟨auditLimbs, haudit, h⟩ := Except.bind_eq_ok_iff.mp h
  obtain ⟨clause0, clause1, hclause0, hclause1, hc0, hc1⟩ := hashHexToLimbs_columns hclause
  obtain ⟨model0, model1, hmodel0, hmodel1, hm0, hm1⟩ := hashHexToLimbs_columns hmodel
  obtain ⟨ruleset0, -, hruleset0, -, hr0, -⟩ := hashHexToLimbs_columns hruleset
  obtain ⟨audit0, -, haudit0, -, ha0, -⟩ := hashHexToLimbs_columns haudit
  rw [hc0, hc1, hm0, hm1, hr0, ha0] at h
  simp only [Except.ok_bind] at h
  obtain ⟨hash, -, h⟩ := Except.bind_eq_ok_iff.mp h
  cases h
  refine ⟨⟨encodeClassification_ok_iff.mp ⟨code, hcode⟩,
    hashHexToLimbs_ok_iff.mp ⟨_, hruleset⟩, hashHexToLimbs_ok_iff.mp ⟨_, haudit⟩⟩, ?_, ?_⟩
  · show Except.ok [_, _, _, decide ((audit0 * 1 - audit0 % (fieldOrder : Int)) % _ = 0),
      _, _, _] = _
    rw [mul_one]
    simp only [wrapped_holds]
    rfl
  · rw [ContractClauseWitnessInput.proofElement, ← limbAt_eq_blockValue hclause0,
      ← limbAt_eq_blockValue hclause1, ← limbAt_eq_blockValue hmodel0,
      ← limbAt_eq_blockValue hmodel1, ← limbAt_eq_blockValue hruleset0,
      ← limbAt_eq_blockValue haudit0, encodeClassification_eq.mp hcode, Option.getD_some, ← emod_proofElement]
    rfl

/-- **An assignment is returned exactly for a classification of the table with two hashes that
have limbs, and all its gates hold**; the last wire is what they add up. -/
theorem contractClause_complete (hfull : std.IsFullLength) (input : ContractClauseWitnessInput) :
    ((∃ assignment, buildContractClauseAssignment std input = .ok assignment) ↔
        input.IsClassified) ∧
      ∀ assignment, buildContractClauseAssignment std input = .ok assignment →
        assignment.gateResults 4 3 = .ok (List.replicate 7 true) ∧
          getItem assignment.wireMap "final_proof_element_fp" =
            .ok (input.proofElement std % fieldOrder) := by
  refine ⟨⟨?_, fun h => ?_⟩, fun assignment h => (buildContractClauseAssignment_inv h).2⟩
  · rintro ⟨assignment, h⟩
    exact (buildContractClauseAssignment_inv h).1
  · obtain ⟨code, hcode⟩ := encodeClassification_ok_iff.mpr h.classification
    obtain ⟨clauseLimbs, hclause⟩ := hashHexToLimbs_ok std hfull input.clauseText
    obtain ⟨modelLimbs, hmodel⟩ := hashHexToLimbs_ok std hfull input.modelRawOutput
    obtain ⟨rulesetLimbs, hruleset⟩ := hashHexToLimbs_ok_iff.mpr h.ruleset
    obtain ⟨auditLimbs, haudit⟩ := hashHexToLimbs_ok_iff.mpr h.auditEntry
    obtain ⟨clause0, clause1, -, -, hc0, hc1⟩ := hashHexToLimbs_columns hclause
    obtain ⟨model0, model1, -, -, hm0, hm1⟩ := hashHexToLimbs_columns hmodel
    obtain ⟨ruleset0, -, -, -, hr0, -⟩ := hashHexToLimbs_columns hruleset
    obtain ⟨audit0, -, -, -, ha0, -⟩ := hashHexToLimbs_columns haudit
    obtain ⟨hash, hhash⟩ := canonicalHash_ok std (floatFree_ofStringDict (Json.sortMembers
      [("ruleset_id_hash", input.rulesetIdHash), ("ai_id", input.aiId),
        ("classification_result", input.classificationResult),
        ("audit_entry_hash", input.auditEntryHash)]))
    rw [← canonicalPublicInputsHash] at hhash
    rw [← sha256Hex] at hclause hmodel
    simp only [buildContractClauseAssignment, hcode, hclause, hmodel, hruleset, haudit, hc0, hc1,
      hm0, hm1, hr0, ha0, hhash, Except.ok_bind]
    exact ⟨_, rfl⟩

/-- A clause of high risk. The blocks of its ruleset have a sign, a prefix and underscores. -/
def riskyClause : ContractClauseWitnessInput where
  clauseText := "Genetic data may be stored."
  clauseId := "CLAUSE_GDPR_ART9_001"
  modelRawOutput := "CLASSIFICATION: HIGH_RISK"
  classificationResult := "HIGH_RISK"
  rulesetIdHash := "-0123456789abcde  0x0123456789AB1_2_3_4_5_6_7_8 0000000000000001"
  aiId := "legal-classifier"
  auditEntryHash := "0123456789abcdef0123456789abcdef0123456789abcdef0123456789abcdef"

theorem riskyClause_isClassified : riskyClause.IsClassified where
  classification := by decide
  ruleset := ⟨by decide, by decide⟩
  auditEntry := ⟨by decide, by decide⟩

theorem contractClause_complete_risky : ∃ assignment,
    buildContractClauseAssignment lengthStd riskyClause = .ok assignment ∧
      assignment.gateResults 4 3 = .ok (List.replicate 7 true) := by
  have hfull : lengthStd.IsFullLength := lengthSha_isFullLength
  have hcomplete := contractClause_complete hfull riskyClause
  obtain ⟨assignment, hbuild⟩ := hcomplete.1.mpr riskyClause_isClassified
  exact ⟨assignment, hbuild, (hcomplete.2 assignment hbuild).1⟩

end Vrl.Zk

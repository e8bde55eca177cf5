import Vrl.Zk.ImportCompleteness

/-!
# Vrl.Zk.AmlWitness

The wire assignment of the sanctions screening circuit
(`zk/witness/aml_witness_generator.py`): four gates that multiply and three that add.

The fifth gate copies the screening result into the cleared flag, which is computed as the
complement of the result. So it holds for no screening at all (**`aml_never_complete`**),
whatever the other gates do (**`buildAmlAssignment_gates`**).
-/

open PyDecimal TextCodec

namespace Vrl.Zk

/-! ### Gates -/

/-- The checks of a `verify_gate_constraints`: products on the first rows, sums on the rows
that follow. -/
def PlonkAssignment.gateResults (assignment : PlonkAssignment) (products sums : Nat) :
    Except PyError (List Bool) := do
  let products' ← (List.range' 0 products).mapM fun index => do
    let a ← columnAt assignment.aCol index
    let b ← columnAt assignment.bCol index
    let c ← columnAt assignment.cCol index
    return decide ((a * b - c) % fieldOrder = 0)
  let sums' ← (List.range' products sums).mapM fun index => do
    let a ← columnAt assignment.aCol index
    let b ← columnAt assignment.bCol index
    let c ← columnAt assignment.cCol index
    return decide ((a + b - c) % fieldOrder = 0)
  return products' ++ sums'

/-- The import circuit is checked in the same way. -/
theorem verifyGateConstraints_eq (assignment : PlonkAssignment) :
    assignment.verifyGateConstraints = assignment.gateResults 5 3 := rfl

/-- A wire times one is the wire. -/
theorem copy_holds (x : Int) : decide ((x * 1 - x) % (fieldOrder : Int) = 0) = true := by
  rw [mul_one, sub_self, Int.zero_emod, decide_eq_true rfl]

/-- A wire plus zero is the wire. -/
theorem bind_holds (x : Int) : decide ((x + 0 - x) % (fieldOrder : Int) = 0) = true := by
  rw [add_zero, sub_self, Int.zero_emod, decide_eq_true rfl]

/-! ### Fixed points of hashes -/

/-- `to_fixed_point(int(hash[:16], 16))`. -/
def hashFixedPoint (hash : String) : Except PyError Int := do
  toFixedPointInt (← limbAt hash.toList 0)

/-- Sixteen digits have a fixed point. -/
theorem hashFixedPoint_ok {hash : String} (hlength : 16 ≤ hash.toList.length)
    (hdigits : ∀ c ∈ hash.toList.take 16, isHexAnyCase c = true) :
    ∃ fixed, hashFixedPoint hash = .ok fixed := by
  have hzero : 0 < hash.toList.length := by omega
  obtain ⟨limb, hlimb, hlt⟩ := limbAt_ok hzero hdigits
  have hbound : limb < 10 ^ 28 := hlt.trans (by decide)
  exact ⟨_, by rw [hashFixedPoint, hlimb, Except.ok_bind, toFixedPointInt_eq hbound]⟩

theorem hashFixedPoint_sha256Hex {std : PyStd} (hfull : std.IsFullLength) (text : String) :
    ∃ fixed, hashFixedPoint (sha256Hex std text) = .ok fixed := by
  refine hashFixedPoint_ok ?_ fun c hc => ?_
  · rw [sha256Hex, hfull text]
    decide
  · exact PyInt.isHexAnyCase_of_isLowerHex
      (std.isLowerHex_hexdigest text c (List.mem_of_mem_take hc))

/-! ### Screenings -/

variable (std : PyStd)

/-- `AMLWitnessInput`. -/
structure AMLWitnessInput where
  name : String
  nameNormalized : String
  sanctionsRoot : String
  screeningTimestamp : String
  expectedResult : Int

/-- `build_aml_assignment`. -/
def buildAmlAssignment (input : AMLWitnessInput) : Except PyError PlonkAssignment := do
  let nameHash := sha256Hex std (input.name ++ input.nameNormalized)
  let nameHashFp ← hashFixedPoint nameHash
  let sanctionsRootFp ← hashFixedPoint input.sanctionsRoot
  let timestampHash := sha256Hex std input.screeningTimestamp
  let timestampHashFp ← hashFixedPoint timestampHash
  let membershipResultFp ← toFixedPointInt input.expectedResult
  let screeningResultFp := membershipResultFp
  let clearedFlagFp := (1 - membershipResultFp) % fieldOrder
  let oneFp := 1
  let zeroFp := 0
  let screeningId := sha256Hex std (nameHash ++ input.sanctionsRoot ++ timestampHash)
  let screeningIdFp ← hashFixedPoint screeningId
  let publicInputs := [("sanctions_root", input.sanctionsRoot),
    ("screening_result", String.ofList (intText input.expectedResult)),
    ("screening_id", screeningId)]
  return {
    aCol := [nameHashFp, nameHashFp, membershipResultFp, screeningResultFp, screeningResultFp,
      timestampHashFp, nameHashFp]
    bCol := [sanctionsRootFp, oneFp, oneFp, oneFp, zeroFp, zeroFp, sanctionsRootFp]
    cCol := [membershipResultFp, nameHashFp, screeningResultFp, screeningResultFp, clearedFlagFp,
      timestampHashFp, screeningIdFp]
    wireMap := [("name_hash_fp", nameHashFp), ("sanctions_root_fp", sanctionsRootFp),
      ("membership_result_fp", membershipResultFp), ("screening_result_fp", screeningResultFp),
      ("cleared_flag_fp", clearedFlagFp), ("timestamp_hash_fp", timestampHashFp),
      ("screening_id_fp", screeningIdFp), ("one_fp", oneFp), ("zero_fp", zeroFp)]
    publicInputsHash := ← canonicalPublicInputsHash std publicInputs }

/-- A screening with a result, against a root of sixteen digits at least. -/
structure AMLWitnessInput.IsScreening (input : AMLWitnessInput) : Prop where
  result : input.expectedResult = 0 ∨ input.expectedResult = 1
  length : 16 ≤ input.sanctionsRoot.toList.length
  digits : ∀ c ∈ input.sanctionsRoot.toList, isHexAnyCase c = true

/-- An assignment is returned, all seven gates hold, and the cleared flag is the complement of
the screening result. -/
def AMLWitnessInput.IsComplete (input : AMLWitnessInput) : Prop :=
  ∃ assignment screeningResultFp, buildAmlAssignment std input = .ok assignment ∧
    assignment.gateResults 4 3 = .ok (List.replicate 7 true) ∧
    getItem assignment.wireMap "screening_result_fp" = .ok screeningResultFp ∧
    getItem assignment.wireMap "cleared_flag_fp" = .ok ((1 - screeningResultFp) % fieldOrder)

variable {std}

/-- **An assignment is always returned**, the gates that copy hold, and the one of the cleared
flag does not. -/
theorem buildAmlAssignment_gates (hfull : std.IsFullLength) {input : AMLWitnessInput}
    (h : input.IsScreening) :
    ∃ assignment result first last, buildAmlAssignment std input = .ok assignment ∧
      toFixedPointInt input.expectedResult = .ok result ∧
      getItem assignment.wireMap "screening_result_fp" = .ok result ∧
      getItem assignment.wireMap "cleared_flag_fp" = .ok ((1 - result) % fieldOrder) ∧
      assignment.gateResults 4 3 = .ok [first, true, true, true, false, true, last] := by
  obtain ⟨nameHashFp, hname⟩ :=
    hashFixedPoint_sha256Hex hfull (input.name ++ input.nameNormalized)
  obtain ⟨rootFp, hroot⟩ := hashFixedPoint_ok h.length fun c hc =>
    h.digits c (List.mem_of_mem_take hc)
  obtain ⟨timestampFp, htimestamp⟩ := hashFixedPoint_sha256Hex hfull input.screeningTimestamp
  obtain ⟨idFp, hid⟩ := hashFixedPoint_sha256Hex hfull (sha256Hex std (input.name ++
    input.nameNormalized) ++ input.sanctionsRoot ++ sha256Hex std input.screeningTimestamp)
  obtain ⟨result, hresult, hflag⟩ : ∃ result, toFixedPointInt input.expectedResult = .ok result ∧
      decide ((result + 0 - (1 - result) % fieldOrder) % (fieldOrder : Int) = 0) = false := by
    rcases h.result with hzero | hone
    · rw [hzero]
      exact ⟨0, toFixedPointInt_eq (n := 0) (by decide), by decide⟩
    · rw [hone]
      exact ⟨1000000, toFixedPointInt_eq (n := 1) (by decide), by decide⟩
  have hhash : ∀ publicInputs, ∃ hash, canonicalPublicInputsHash std publicInputs = .ok hash :=
    fun _ => canonicalHash_ok std (floatFree_ofStringDict _)
  obtain ⟨hash, hhash⟩ := hhash [("sanctions_root", input.sanctionsRoot),
    ("screening_result", String.ofList (intText input.expectedResult)),
    ("screening_id", sha256Hex std (sha256Hex std (input.name ++ input.nameNormalized) ++
      input.sanctionsRoot ++ sha256Hex std input.screeningTimestamp))]
  have hbuild : ∃ assignment, buildAmlAssignment std input = .ok assignment ∧
      assignment.aCol = [nameHashFp, nameHashFp, result, result, result, timestampFp,
        nameHashFp] ∧
      assignment.bCol = [rootFp, 1, 1, 1, 0, 0, rootFp] ∧
      assignment.cCol = [result, nameHashFp, result, result, (1 - result) % fieldOrder,
        timestampFp, idFp] ∧
      getItem assignment.wireMap "screening_result_fp" = .ok result ∧
      getItem assignment.wireMap "cleared_flag_fp" = .ok ((1 - result) % fieldOrder) := by
    simp only [buildAmlAssignment, hname, hroot, htimestamp, hresult, hid, hhash, Except.ok_bind]
    exact ⟨_, rfl, rfl, rfl, rfl, rfl, rfl⟩
  obtain ⟨⟨aCol, bCol, cCol, wireMap, publicInputsHash⟩, hbuild, rfl, rfl, rfl, hscreening,
    hcleared⟩ := hbuild
  refine ⟨_, result, decide ((nameHashFp * rootFp - result) % (fieldOrder : Int) = 0),
    decide ((nameHashFp + rootFp - idFp) % (fieldOrder : Int) = 0), hbuild, hresult, hscreening,
    hcleared, ?_⟩
  show Except.ok [_, decide ((nameHashFp * 1 - nameHashFp) % (fieldOrder : Int) = 0),
    decide ((result * 1 - result) % (fieldOrder : Int) = 0),
    decide ((result * 1 - result) % (fieldOrder : Int) = 0),
    decide ((result + 0 - (1 - result) % fieldOrder) % (fieldOrder : Int) = 0),
    decide ((timestampFp + 0 - timestampFp) % (fieldOrder : Int) = 0), _] = _
  rw [copy_holds, copy_holds, hflag, bind_holds]

/-- **No screening has a witness that satisfies the circuit.** -/
theorem aml_never_complete (hfull : std.IsFullLength) {input : AMLWitnessInput}
    (h : input.IsScreening) : ¬ input.IsComplete std := by
  obtain ⟨assignment, result, first, last, hbuild, -, -, -, hgates⟩ :=
    buildAmlAssignment_gates hfull h
  intro ⟨assignment', _, hbuild', hgates', _⟩
  rw [hbuild] at hbuild'
  cases hbuild'
  rw [hgates] at hgates'
  cases hgates'

/-- A name that is cleared, against a root of 64 digits. -/
def clearedScreening : AMLWitnessInput where
  name := "John Smith"
  nameNormalized := "john smith"
  sanctionsRoot := "0123456789abcdef0123456789abcdef0123456789abcdef0123456789abcdef"
  screeningTimestamp := "2026-04-04T12:00:00Z"
  expectedResult := 0

theorem clearedScreening_isScreening : clearedScreening.IsScreening :=
  ⟨.inl rfl, by decide, by decide⟩

theorem aml_never_complete_cleared : clearedScreening.IsScreening ∧
    ¬ clearedScreening.IsComplete lengthStd := by
  have hfull : lengthStd.IsFullLength := lengthSha_isFullLength
  exact ⟨clearedScreening_isScreening, aml_never_complete hfull clearedScreening_isScreening⟩

/-- Its assignment has a screening result of zero and a cleared flag of one, which the fifth
gate takes for the same. -/
theorem cleared_name_rejected : ∃ assignment first last,
    buildAmlAssignment lengthStd clearedScreening = .ok assignment ∧
      getItem assignment.wireMap "screening_result_fp" = .ok 0 ∧
      getItem assignment.wireMap "cleared_flag_fp" = .ok 1 ∧
      assignment.gateResults 4 3 = .ok [first, true, true, true, false, true, last] ∧
      ¬ clearedScreening.IsComplete lengthStd := by
  have hfull : lengthStd.IsFullLength := lengthSha_isFullLength
  obtain ⟨assignment, result, first, last, hbuild, hresult, hscreening, hcleared, hgates⟩ :=
    buildAmlAssignment_gates hfull clearedScreening_isScreening
  have hzero : result = 0 := by
    have hexpected : clearedScreening.expectedResult = ((0 : Nat) : Int) := rfl
    rw [hexpected, toFixedPointInt_eq (by decide), Except.ok.injEq, Nat.zero_mul] at hresult
    exact hresult.symm
  have hone : (1 - 0 : Int) % fieldOrder = 1 := by decide
  rw [hzero] at hscreening hcleared
  rw [hone] at hcleared
  refine ⟨assignment, first, last, hbuild, hscreening, hcleared, hgates, ?_⟩
  intro ⟨assignment', _, hbuild', hgates', _⟩
  rw [hbuild] at hbuild'
  cases hbuild'
  rw [hgates] at hgates'
  cases hgates'

end Vrl.Zk

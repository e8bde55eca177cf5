import Vrl.Backend.HonestBundle
import Vrl.Core.EngineArithmetic
import Vrl.Zk.FieldAgreement

/-!
# Vrl.Zk.ImportCompleteness

The witness of every trace packet has an assignment that satisfies the import circuit
(**`import_witness_complete`**).

The circuit adds up what the engine has added up, in units of a millionth and modulo the
order of the field. That agrees because the amounts of a response are whole cents of at most
28 digits (`inCents_of_calculate`): scaling them is exact (**`toFixedPoint_of_isCents`**), the
engine has rounded neither the extended customs value nor the sum, and no amount reaches the
order of the field.
-/

open PyDecimal TextCodec

namespace Vrl.Zk

variable {std : PyStd}

/-! ### Fixed points of amounts -/

/-- **The fixed point of a number** of no more digits than the context has. -/
theorem toFixedPoint_of_read {text : String} {neg : Bool} {coeff : Nat} {exp : Int}
    (hread : ofText (strip text.toList) = some (.finite neg coeff exp))
    (hsign : neg = true → coeff = 0) (hdigits : numDigits coeff ≤ 28) (hlow : -1000 ≤ exp)
    (hhigh : exp ≤ 0) :
    toFixedPoint text =
      .ok ((Rounding.halfUp.div (coeff * 10 ^ 6) (10 ^ (-exp).toNat) : Nat) % fieldOrder) := by
  have hscale : fixedPointScale.natAbs ≤ 1000000 := by decide
  obtain ⟨neg', coeff', exp', hmul⟩ : ∃ neg' coeff' exp', (PyDecimal.finite neg coeff exp).mul
      context (.ofInt fixedPointScale) = .ok (.finite neg' coeff' exp') :=
    mul_ofInt_ok 28 neg hdigits hhigh hscale
  have hd : IsUnits exp coeff (.finite neg coeff exp) := .intro le_rfl (by simp) hsign
  have hunits : IsUnits 0 (10 ^ 6) (.ofInt fixedPointScale) :=
    .intro le_rfl (by decide) fun h => absurd h (by decide)
  have hscaled := mul_units (hasUnit_context (by omega) (by omega)) hd hunits hmul
  have hexact : significant context.prec (coeff * 10 ^ 6) = coeff * 10 ^ 6 :=
    significant_mul_pow (by decide) 6 (lt_of_numDigits_le hdigits)
  have hint := @toInt_units _ _ _ .halfUp (by omega) hscaled
  rw [hexact, Int.add_zero] at hint
  exact toFixedPoint_of_mul hread hmul hint

/-- **Scaling an amount is exact**, and nothing wraps. -/
theorem toFixedPoint_of_isCents {cents : Nat} {d : PyDecimal} (hd : IsCents cents d)
    (hmoney : IsMoney d) :
    toFixedPoint (String.ofList d.text) = .ok (cents * 10 ^ 4 : Nat) := by
  have hdigits := hd.numDigits_le hmoney
  have hread := (scaled_of_isMoney hmoney).1
  obtain ⟨neg, rfl, hsign⟩ := hd
  have hexact : Rounding.halfUp.div (cents * 10 ^ 6) (10 ^ 2) = cents * 10 ^ 4 := by
    have hsplit : cents * 10 ^ 6 = cents * 10 ^ 4 * 10 ^ 2 := by ring
    rw [hsplit, Rounding.div_mul_cancel _ _ (by decide)]
  have hnowrap : cents * 10 ^ 4 < fieldOrder := by
    have hbound : 10 ^ 28 * 10 ^ 4 < fieldOrder := by decide
    exact (Nat.mul_lt_mul_of_pos_right (lt_of_numDigits_le hdigits) (by decide)).trans hbound
  have hfixed := toFixedPoint_of_read hread hsign hdigits (by decide) (by decide)
  have hexp : (-(-2) : Int).toNat = 2 := rfl
  have hmod : ((cents * 10 ^ 4 : Nat) : Int) % fieldOrder = (cents * 10 ^ 4 : Nat) := by
    rw [← Int.natCast_emod, Nat.mod_eq_of_lt hnowrap]
  rw [hexp, hexact, hmod] at hfixed
  exact hfixed

/-- `to_fixed_point` of an integer. -/
def toFixedPointInt (i : Int) : Except PyError Int := toFixedPoint (String.ofList (intText i))

/-- **Scaling a natural number is exact.** -/
theorem toFixedPointInt_eq {n : Nat} (h : n < 10 ^ 28) :
    toFixedPointInt n = .ok (n * 10 ^ 6 : Nat) := by
  have hdigits : numDigits n ≤ 28 := numDigits_le_of_lt (by decide) h
  have hstrip : strip (intText n) = intText n := by
    refine strip_eq_self fun c hc => isStrSpace_of_isNumberChar ?_
    rw [isNumberChar, natText_isDecimal n c hc]
    rfl
  have hread : ofText (strip (String.ofList (intText n)).toList) = some (.finite false n 0) := by
    rw [String.toList_ofList, hstrip, ofText_intText]
    · have hnonneg : decide ((n : Int) < 0) = false := decide_eq_false (by omega)
      rw [PyDecimal.ofInt, hnonneg, Int.natAbs_natCast]
    · exact hdigits.trans (by decide)
  have hnowrap : n * 10 ^ 6 < fieldOrder := by
    have hbound : 10 ^ 28 * 10 ^ 6 < fieldOrder := by decide
    exact (Nat.mul_lt_mul_of_pos_right h (by decide)).trans hbound
  have hfixed := toFixedPoint_of_read hread (fun h => absurd h (by decide)) hdigits (by decide)
    le_rfl
  have hexp : (-0 : Int).toNat = 0 := rfl
  rwa [hexp, Nat.pow_zero, Rounding.div_one, ← Int.natCast_emod, Nat.mod_eq_of_lt hnowrap]
    at hfixed

/-! ### Gates -/

/-- The gates over fixed points that are not negative hold if the cost is the sum of the rest
modulo the order of the field. -/
theorem assignmentOf_holds {customsValue freight insurance quantity landedCost duty s301 mpf hmf :
      Int} (hash : String) (hnonneg : ∀ v ∈ [customsValue, landedCost, duty, s301, mpf, hmf], 0 ≤ v)
    (hsum : customsValue * quantity + freight + insurance + (duty + s301 + (mpf + hmf)) ≡
      landedCost [ZMOD fieldOrder]) :
    (assignmentOf customsValue freight insurance quantity landedCost duty s301 mpf hmf
      hash).verifyGateConstraints = .ok (List.replicate 8 true) := by
  have hmod : ∀ x : Int, 0 ≤ x % fieldOrder := fun x => Int.emod_nonneg x (by decide)
  simp only [List.forall_mem_cons, List.not_mem_nil, IsEmpty.forall_iff, implies_true,
    and_true] at hnonneg
  obtain ⟨hvalue, hlanded, hduty, h301, hmpf, hhmf⟩ := hnonneg
  rw [verifyGateConstraints_iff]
  · have hbase := (Int.mod_modEq (customsValue * (quantity % fieldOrder)) fieldOrder).trans
      ((Int.mod_modEq quantity fieldOrder).mul_left customsValue)
    have hfees := (Int.mod_modEq _ (fieldOrder : Int)).trans
      ((Int.mod_modEq (duty + s301) fieldOrder).add (Int.mod_modEq (mpf + hmf) fieldOrder))
    have htotal := ((Int.mod_modEq _ (fieldOrder : Int)).trans
      ((hbase.add_right freight).add_right insurance)).add hfees
    have hcopy : ∀ x : Int, (fieldOrder : Int) ∣ x * 1 - x := by simp
    intro row hrow
    interval_cases row
    · exact (Int.mod_modEq _ _).dvd
    · exact hcopy _
    · exact hcopy _
    · exact hcopy _
    · exact hcopy _
    · exact (Int.mod_modEq _ _).dvd
    · exact (Int.mod_modEq _ _).dvd
    · exact (htotal.trans hsum).symm.dvd
  · refine ⟨⟨rfl, ?_⟩, ⟨rfl, ?_⟩, ⟨rfl, ?_⟩⟩ <;>
      simp only [assignmentOf, List.forall_mem_cons, List.not_mem_nil, IsEmpty.forall_iff,
        implies_true, and_true, hmod, hvalue, hlanded, hduty, h301, hmpf, hhmf, zero_le_one]

/-! ### Packets -/

/-- **The witness of a trace packet satisfies the circuit**, and the output wire carries the
landed cost in millionths. -/
theorem import_witness_complete {payload : PyVal} {producedBy : String} {cycle : Int}
    {packet : DeterministicTracePacket std}
    (h : buildTracePacket std payload producedBy cycle = .ok packet) :
    ∃ assignment, generateAssignment std packet.witnessArtifact = .ok assignment ∧
      assignment.verifyGateConstraints = .ok (List.replicate 8 true) ∧
      ∃ landedCostFp, columnAt assignment.cCol 7 = .ok landedCostFp ∧
        (landedCostFp : Rat) = packet.response.result.landedCost.toRat * 10 ^ 6 := by
  obtain ⟨hvalid, hcoherent⟩ := buildTracePacket_inv h
  have hcanonical := isCanonical_of_packet h
  obtain ⟨rule, hrule⟩ := exists_rule_of_calculate hvalid hcoherent.response
  have hcents := inCents_of_calculate hvalid hcoherent.response hrule
  have hfixed := isFixed_of_calculation ((calculate_eq_ok_iff hcanonical).mp hcoherent.response)
  have hvalue := toFixedPoint_of_isCents (isCents_customsValue packet.request.customsValue)
    packet.request.customsValue.2.1
  have hfreight := toFixedPoint_of_isCents (isCents_charge packet.request.freight)
    packet.request.freight.2.1
  have hinsurance := toFixedPoint_of_isCents (isCents_charge packet.request.insurance)
    packet.request.insurance.2.1
  have hlanded := toFixedPoint_of_isCents hcents.landedCost hfixed.landedCost
  have hduty := toFixedPoint_of_isCents hcents.dutyAmount hfixed.dutyAmount
  have hs301 := toFixedPoint_of_isCents hcents.section301Amount hfixed.section301Amount
  have hmpf := toFixedPoint_of_isCents hcents.mpfAmount hfixed.mpfAmount
  have hhmf := toFixedPoint_of_isCents hcents.hmfAmount hfixed.hmfAmount
  have hprivate : packet.witnessArtifact.privateInputs = packet.request.payload := by
    rw [hcoherent.witnessData]
  obtain ⟨hash, hhash⟩ : ∃ hash,
      canonicalPublicInputsHash std packet.witnessArtifact.publicInputs = .ok hash :=
    canonicalHash_ok std (floatFree_ofStringDict _)
  refine ⟨_, generateAssignment_eq hcanonical hcoherent.response hprivate (packet_landedCost h)
    hvalue hfreight hinsurance hlanded hduty hs301 hmpf hhmf hhash, ?_, _, rfl, ?_⟩
  · refine assignmentOf_holds hash ?_ ?_
    · simp only [List.forall_mem_cons, List.not_mem_nil, IsEmpty.forall_iff, implies_true,
        and_true, Int.natCast_nonneg]
    · -- the engine has added the same amounts, in cents
      have hquantity : packet.request.quantity.1 = (packet.request.quantity.1.toNat : Int) :=
        (Int.toNat_of_nonneg ((by decide : (0 : Int) ≤ 1).trans packet.request.quantity.2.1)).symm
      have hsum : (landedCents packet.request rule * 10 ^ 4 : Nat) =
          packet.request.customsValue.1.coefficient * 10 ^ 4 * packet.request.quantity.1.toNat +
            packet.request.freight.1.coefficient * 10 ^ 4 +
            packet.request.insurance.1.coefficient * 10 ^ 4 +
            (dutyCents packet.request rule * 10 ^ 4 + section301Cents packet.request rule * 10 ^ 4 +
              (mpfCents packet.request * 10 ^ 4 + hmfCents packet.request * 10 ^ 4)) := by
        simp only [landedCents, extendedCents, List.sum_cons, List.sum_nil]
        ring
      rw [hquantity, hsum]
      push_cast
      exact Int.ModEq.refl _
  · rw [hcents.landedCost.toRat]
    push_cast
    ring

/-- The packet of the reference request. -/
theorem import_witness_complete_reference :
    ∃ (packet : DeterministicTracePacket lengthStd) (assignment : PlonkAssignment),
      buildTracePacket lengthStd (.dict (referenceRequest "CN").payload) "witness" 1 = .ok packet ∧
      packet.response.result.landedCost = .finite false 329231 (-2) ∧
      generateAssignment lengthStd packet.witnessArtifact = .ok assignment ∧
      assignment.verifyGateConstraints = .ok (List.replicate 8 true) := by
  obtain ⟨hcanonical, response, hresponse, hlanded⟩ :=
    @calculate_reference lengthStd "CN" 329231 (List.mem_cons_self ..)
  obtain ⟨packet, hpacket, -, hpacketResponse⟩ :=
    buildTracePacket_ok (modelValidate_payload lengthStd hcanonical) hresponse "witness" 1
  obtain ⟨assignment, hassignment, hgates, -⟩ := import_witness_complete hpacket
  rw [← hpacketResponse] at hlanded
  exact ⟨packet, assignment, hpacket, hlanded, hassignment, hgates⟩

end Vrl.Zk

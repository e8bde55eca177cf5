import Vrl.Zk.ImportCircuit
import Vrl.Zk.WitnessGenerator
import Mathlib.RingTheory.Coprime.Lemmas
import Mathlib.Tactic.NormNum.GCD
import Mathlib.Data.List.GetD

/-!
# Vrl.Zk.FieldAgreement

The gate constraints as the server checks them (`zk/witness/generator.py`) and as the
backend does (`zk/rust_backend/src/main.rs`), on the same columns.

Both ask that eight residuals vanish, each modulo its own number: the server modulo
`fieldOrder`, the backend in the field of order `pastaFp`. The two are different primes of
the same curve cycle, so the checks agree exactly when the residuals vanish modulo both or
modulo neither.
-/

open Plonkish TextCodec

namespace Vrl.Zk

/-! ### Columns -/

/-- Columns of eight natural numbers. -/
structure PlonkAssignment.EightRows (assignment : PlonkAssignment) : Prop where
  aCol : assignment.aCol.length = 8 ∧ ∀ v ∈ assignment.aCol, 0 ≤ v
  bCol : assignment.bCol.length = 8 ∧ ∀ v ∈ assignment.bCol, 0 ≤ v
  cCol : assignment.cCol.length = 8 ∧ ∀ v ∈ assignment.cCol, 0 ≤ v

/-- What a row leaves: `a * b - c` in the rows that multiply, `a + b - c` in the others. -/
def PlonkAssignment.residual (assignment : PlonkAssignment) (row : Nat) : Int :=
  let a := assignment.aCol.getD row 0
  let b := assignment.bCol.getD row 0
  let c := assignment.cCol.getD row 0
  if row < 5 then a * b - c else a + b - c

/-! ### The server -/

theorem columnAt_of_lt {column : List Int} {index : Nat} (h : index < column.length) :
    columnAt column index = .ok (column.getD index 0) := by
  rw [columnAt, List.getD_eq_getElem?_getD, List.getElem?_eq_getElem h]
  rfl

/-- The server reduces every residual modulo its own order. -/
theorem verifyGateConstraints_of_eightRows {assignment : PlonkAssignment}
    (h : assignment.EightRows) :
    assignment.verifyGateConstraints = .ok ((List.range 8).map fun row =>
      decide (assignment.residual row % fieldOrder = 0)) := by
  have ha : ∀ row, row < 8 → columnAt assignment.aCol row = .ok (assignment.aCol.getD row 0) :=
    fun row hrow => columnAt_of_lt (by rw [h.aCol.1]; exact hrow)
  have hb : ∀ row, row < 8 → columnAt assignment.bCol row = .ok (assignment.bCol.getD row 0) :=
    fun row hrow => columnAt_of_lt (by rw [h.bCol.1]; exact hrow)
  have hc : ∀ row, row < 8 → columnAt assignment.cCol row = .ok (assignment.cCol.getD row 0) :=
    fun row hrow => columnAt_of_lt (by rw [h.cCol.1]; exact hrow)
  simp (disch := decide) only [PlonkAssignment.verifyGateConstraints, List.range', List.mapM_cons,
    List.mapM_nil, ha, hb, hc]
  rfl

theorem verifyGateConstraints_iff {assignment : PlonkAssignment} (h : assignment.EightRows) :
    assignment.verifyGateConstraints = .ok (List.replicate 8 true) ↔
      ∀ row < 8, (fieldOrder : Int) ∣ assignment.residual row := by
  have hreplicate : List.replicate 8 true = (List.range 8).map fun _ => true := by decide
  rw [verifyGateConstraints_of_eightRows h, Except.ok.injEq, hreplicate, List.map_inj_left]
  simp only [List.mem_range, decide_eq_true_eq, Int.dvd_iff_emod_eq_zero]

/-! ### The backend -/

/-- `fp_from_decimal`: digits without a leading zero, reduced as they are read. -/
def fpFromDecimal (value : String) : Except String (ZMod pastaFp) :=
  let cs := value.toList
  if cs = ['0'] ∨ (cs ≠ [] ∧ cs.head? ≠ some '0' ∧ cs.all isDecimal = true) then
    .ok (readNat cs)
  else .error ("invalid field element: " ++ value)

/-- `parse_fp_vec`. -/
def parseFpVec (values : List String) : Except String (List (ZMod pastaFp)) :=
  values.mapM fpFromDecimal

/-- `ImportCircuit`. -/
structure ImportCircuit where
  aCol : List (ZMod pastaFp)
  bCol : List (ZMod pastaFp)
  cCol : List (ZMod pastaFp)
  publicBindings : List (ZMod pastaFp)

/-- `EXPECTED_INSTANCE_VALUES`. -/
def expectedInstanceValues : Nat := 13

/-- `build_circuit`. -/
def buildCircuit (aCol bCol cCol instanceValues : List String) :
    Except String (ImportCircuit × List (ZMod pastaFp)) :=
  if aCol.length ≠ expectedGateCount ∨ bCol.length ≠ expectedGateCount ∨
      cCol.length ≠ expectedGateCount then
    .error "unexpected wire column length"
  else if instanceValues.length ≠ expectedInstanceValues then
    .error ("unexpected instance value length: " ++
      String.ofList (natText instanceValues.length))
  else do
    let instances ← parseFpVec instanceValues
    let aCol ← parseFpVec aCol
    let bCol ← parseFpVec bCol
    let cCol ← parseFpVec cCol
    return ({ aCol, bCol, cCol, publicBindings := instances.tail }, instances)

/-- The table that `synthesize` fills: the gates on the first rows, the public bindings below
them in the first column. -/
def ImportCircuit.table (circuit : ImportCircuit) (instances : List (ZMod pastaFp)) :
    Assignment Column (ZMod pastaFp) where
  advice
    | .a, row => (circuit.aCol ++ circuit.publicBindings).getD row 0
    | .b, row => circuit.bCol.getD row 0
    | .c, row => circuit.cCol.getD row 0
  inst row := instances.getD row 0

/-- The gates vanish on every row on which they are enabled. -/
def GatesHold {F : Type} [CommRing F] (table : Assignment Column F) : Prop :=
  ∀ g ∈ (importCircuit (expectedInstanceValues - 1)).gates,
    ∀ row, g.selector row = true → g.poly.eval table row = 0

/-- The texts that a column is sent as. -/
def columnTexts (column : List Int) : List String := column.map fun v => String.ofList (intText v)

/-- A column in the field. -/
def inField (column : List Int) : List (ZMod pastaFp) := column.map Int.cast

theorem fpFromDecimal_intText {v : Int} (h : 0 ≤ v) :
    fpFromDecimal (String.ofList (intText v)) = .ok (v : ZMod pastaFp) := by
  obtain ⟨n, rfl⟩ := Int.eq_ofNat_of_zero_le h
  have htext : intText (n : Int) = natText n := rfl
  have hdigits : (natText n).all isDecimal = true :=
    List.all_eq_true.mpr (natText_isDecimal n)
  rw [fpFromDecimal, String.toList_ofList, htext, readNat_natText, if_pos, Int.cast_natCast]
  rcases natText_lead n with hzero | ⟨c, cs, hcons, hne, -, -⟩
  · exact .inl hzero
  · refine .inr ⟨natText_ne_nil n, ?_, hdigits⟩
    rw [hcons]
    simpa using hne

theorem parseFpVec_columnTexts {column : List Int} (h : ∀ v ∈ column, 0 ≤ v) :
    parseFpVec (columnTexts column) = .ok (inField column) := by
  unfold parseFpVec columnTexts inField
  induction column with
  | nil => rfl
  | cons v column ih =>
      rw [List.forall_mem_cons] at h
      rw [List.map_cons, List.mapM_cons, fpFromDecimal_intText h.1, ih h.2]
      rfl

/-- Columns of natural numbers and instance values are read in the field. -/
theorem buildCircuit_of_eightRows {assignment : PlonkAssignment} (h : assignment.EightRows)
    {instanceValues : List Int} (hlength : instanceValues.length = expectedInstanceValues)
    (hvalues : ∀ v ∈ instanceValues, 0 ≤ v) :
    buildCircuit (columnTexts assignment.aCol) (columnTexts assignment.bCol)
        (columnTexts assignment.cCol) (columnTexts instanceValues) =
      .ok ({
        aCol := inField assignment.aCol
        bCol := inField assignment.bCol
        cCol := inField assignment.cCol
        publicBindings := (inField instanceValues).tail }, inField instanceValues) := by
  have hlen : ∀ column, (columnTexts column).length = column.length := fun column => by
    rw [columnTexts, List.length_map]
  rw [buildCircuit, hlen, hlen, hlen, hlen, h.aCol.1, h.bCol.1, h.cCol.1, hlength,
    if_neg (by decide), if_neg (by decide), parseFpVec_columnTexts hvalues,
    parseFpVec_columnTexts h.aCol.2, parseFpVec_columnTexts h.bCol.2,
    parseFpVec_columnTexts h.cCol.2]
  rfl

theorem getD_inField {column : List Int} (row : Nat) :
    (inField column).getD row 0 = (column.getD row 0 : Int) := by
  rw [inField, List.getD_eq_getElem?_getD, List.getD_eq_getElem?_getD, List.getElem?_map]
  cases column[row]? <;> simp

/-- A gate of the backend holds on a row when its residual vanishes in the field. -/
theorem gatesHold_iff {assignment : PlonkAssignment} (h : assignment.EightRows)
    (publicBindings instances : List (ZMod pastaFp)) :
    GatesHold (ImportCircuit.table ⟨inField assignment.aCol, inField assignment.bCol,
        inField assignment.cCol, publicBindings⟩ instances) ↔
      ∀ row < 8, (pastaFp : Int) ∣ assignment.residual row := by
  have ha : ∀ row < 8, (inField assignment.aCol ++ publicBindings).getD row 0 =
      (assignment.aCol.getD row 0 : Int) := by
    intro row hrow
    have hlt : row < (inField assignment.aCol).length := by
      rw [inField, List.length_map, h.aCol.1]
      exact hrow
    rw [List.getD_append _ _ _ _ hlt, getD_inField]
  -- the rows below 5 multiply, the other three add
  constructor
  · intro hgates row hrow
    rw [← ZMod.intCast_zmod_eq_zero_iff_dvd, PlonkAssignment.residual]
    by_cases h5 : row < 5
    · have hmul := hgates mulGate (List.mem_cons_self ..) row (decide_eq_true h5)
      simp only [mulGate, RowPoly.eval, ImportCircuit.table, ha row hrow, getD_inField] at hmul
      rw [if_pos h5, Int.cast_sub, Int.cast_mul]
      exact hmul
    · have hadd := hgates addGate (List.mem_cons_of_mem _ (List.mem_cons_self ..)) row
        (decide_eq_true ⟨Nat.le_of_not_lt h5, hrow⟩)
      simp only [addGate, RowPoly.eval, ImportCircuit.table, ha row hrow, getD_inField] at hadd
      rw [if_neg h5, Int.cast_sub, Int.cast_add]
      exact hadd
  · intro hresidual g hg row hselected
    simp only [importCircuit, List.mem_cons, List.not_mem_nil, or_false] at hg
    rcases hg with rfl | rfl
    · have h5 : row < 5 := of_decide_eq_true hselected
      have hrow : row < 8 := by omega
      have hzero := hresidual row hrow
      rw [← ZMod.intCast_zmod_eq_zero_iff_dvd, PlonkAssignment.residual, if_pos h5,
        Int.cast_sub, Int.cast_mul] at hzero
      simp only [mulGate, RowPoly.eval, ImportCircuit.table, ha row hrow, getD_inField]
      exact hzero
    · obtain ⟨h5, hrow⟩ : 5 ≤ row ∧ row < 8 := of_decide_eq_true hselected
      have hzero := hresidual row hrow
      rw [← ZMod.intCast_zmod_eq_zero_iff_dvd, PlonkAssignment.residual, if_neg (by omega),
        Int.cast_sub, Int.cast_add] at hzero
      simp only [addGate, RowPoly.eval, ImportCircuit.table, ha row hrow, getD_inField]
      exact hzero

/-! ### Agreement -/

/-- The two orders share no factor. -/
theorem pastaFp_coprime_fieldOrder : IsCoprime (pastaFp : Int) (fieldOrder : Int) := by
  rw [Nat.isCoprime_iff_coprime, pastaFp, fieldOrder]
  norm_num

/-- Of two coprime moduli, either both divide all residuals or each misses one, or the
divisibilities differ. -/
theorem dvd_agrees_iff {p q : Int} (hpq : IsCoprime p q) (residual : Nat → Int) (n : Nat) :
    ((∀ row < n, q ∣ residual row) ↔ ∀ row < n, p ∣ residual row) ↔
      (∀ row < n, p * q ∣ residual row) ∨
        (∃ row < n, ¬ p ∣ residual row) ∧ ∃ row < n, ¬ q ∣ residual row := by
  have hboth : (∀ row < n, p * q ∣ residual row) ↔
      (∀ row < n, p ∣ residual row) ∧ ∀ row < n, q ∣ residual row := by
    constructor
    · intro h
      exact ⟨fun row hrow => (dvd_mul_right p q).trans (h row hrow),
        fun row hrow => (dvd_mul_left q p).trans (h row hrow)⟩
    · rintro ⟨hp, hq⟩ row hrow
      exact hpq.mul_dvd (hp row hrow) (hq row hrow)
  have hnot : ∀ m : Int, (∃ row < n, ¬ m ∣ residual row) ↔ ¬ ∀ row < n, m ∣ residual row := by
    intro m
    simp only [not_forall, exists_prop]
  rw [hboth, hnot, hnot]
  tauto

/-- What the backend's gates say of columns that were sent to it. -/
def BackendAccepts (assignment : PlonkAssignment) (instanceValues : List Int) : Prop :=
  ∃ circuit instances,
    buildCircuit (columnTexts assignment.aCol) (columnTexts assignment.bCol)
      (columnTexts assignment.cCol) (columnTexts instanceValues) = .ok (circuit, instances) ∧
    GatesHold (circuit.table instances)

theorem backendAccepts_iff {assignment : PlonkAssignment} (h : assignment.EightRows)
    {instanceValues : List Int} (hlength : instanceValues.length = expectedInstanceValues)
    (hvalues : ∀ v ∈ instanceValues, 0 ≤ v) :
    BackendAccepts assignment instanceValues ↔
      ∀ row < 8, (pastaFp : Int) ∣ assignment.residual row := by
  have hbuild := buildCircuit_of_eightRows h hlength hvalues
  constructor
  · rintro ⟨circuit, instances, hok, hgates⟩
    rw [hbuild, Except.ok.injEq, Prod.mk.injEq] at hok
    obtain ⟨rfl, rfl⟩ := hok
    exact (gatesHold_iff h _ _).mp hgates
  · intro hresidual
    exact ⟨_, _, hbuild, (gatesHold_iff h _ _).mpr hresidual⟩

/-- **Server and backend agree on an assignment exactly when every residual is a multiple of
both orders, or each order misses one of them.** -/
theorem gate_checks_agree_iff {assignment : PlonkAssignment} (h : assignment.EightRows)
    {instanceValues : List Int} (hlength : instanceValues.length = expectedInstanceValues)
    (hvalues : ∀ v ∈ instanceValues, 0 ≤ v) :
    (assignment.verifyGateConstraints = .ok (List.replicate 8 true) ↔
        BackendAccepts assignment instanceValues) ↔
      (∀ row < 8, (pastaFp * fieldOrder : Int) ∣ assignment.residual row) ∨
        (∃ row < 8, ¬ (pastaFp : Int) ∣ assignment.residual row) ∧
          ∃ row < 8, ¬ (fieldOrder : Int) ∣ assignment.residual row := by
  rw [verifyGateConstraints_iff h, backendAccepts_iff h hlength hvalues]
  exact dvd_agrees_iff pastaFp_coprime_fieldOrder assignment.residual 8

/-- An assignment that only its first row fills. -/
def firstRow (a b c : Int) : PlonkAssignment where
  aCol := a :: List.replicate 7 0
  bCol := b :: List.replicate 7 0
  cCol := c :: List.replicate 7 0
  wireMap := []
  publicInputsHash := ""

theorem firstRow_eightRows {a b c : Int} (ha : 0 ≤ a) (hb : 0 ≤ b) (hc : 0 ≤ c) :
    (firstRow a b c).EightRows := by
  have hcolumn : ∀ v : Int, 0 ≤ v → (v :: List.replicate 7 0).length = 8 ∧
      ∀ w ∈ v :: List.replicate 7 (0 : Int), 0 ≤ w := by
    intro v hv
    refine ⟨rfl, fun w hw => ?_⟩
    rcases List.mem_cons.mp hw with rfl | hw
    · exact hv
    · exact (List.eq_of_mem_replicate hw).ge
  exact ⟨hcolumn a ha, hcolumn b hb, hcolumn c hc⟩

theorem gate_checks_agree_iff_firstRow :
    ((firstRow 2 3 6).verifyGateConstraints = .ok (List.replicate 8 true) ↔
        BackendAccepts (firstRow 2 3 6) (List.replicate 13 0)) ↔
      (∀ row < 8, (pastaFp * fieldOrder : Int) ∣ (firstRow 2 3 6).residual row) ∨
        (∃ row < 8, ¬ (pastaFp : Int) ∣ (firstRow 2 3 6).residual row) ∧
          ∃ row < 8, ¬ (fieldOrder : Int) ∣ (firstRow 2 3 6).residual row :=
  gate_checks_agree_iff (firstRow_eightRows (by decide) (by decide) (by decide)) rfl (by decide)

/-- A first factor of the backend's order is zero there, and not for the server. -/
theorem gate_checks_differ :
    BackendAccepts (firstRow pastaFp 1 0) (List.replicate 13 0) ∧
      (firstRow pastaFp 1 0).verifyGateConstraints ≠ .ok (List.replicate 8 true) := by
  have hrows : (firstRow pastaFp 1 0).EightRows :=
    firstRow_eightRows (by decide) (by decide) (by decide)
  rw [backendAccepts_iff hrows rfl (by decide), Ne, verifyGateConstraints_iff hrows]
  constructor
  · intro row hrow
    interval_cases row <;> decide
  · intro h
    exact absurd (h 0 (by decide)) (by decide)

end Vrl.Zk

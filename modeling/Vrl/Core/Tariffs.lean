import Vrl.Utils.Canonical

/-!
# Vrl.Core.Tariffs

The tariff dataset and its lookup (`core/tariffs.py`).
-/

namespace Vrl

variable (std : PyStd)

/-- `DATASET_VERSION`. -/
def datasetVersion : String := "2026.03.28"

/-- `TariffRule`. -/
structure TariffRule where
  hsPrefix : String
  ruleRef : String
  description : String
  dutyRate : PyDecimal
  section301Rate : PyDecimal
  section301OriginCountries : List String
  deriving DecidableEq, Repr

/-- `TARIFF_RULES`. -/
def tariffRules : List TariffRule :=
  [⟨"8471300100", "HTS-8471300100", "Portable digital processing machines", .finite false 0 (-4),
      .finite false 0 (-4), []⟩,
    ⟨"8507600000", "HTS-8507600000", "Lithium-ion accumulators", .finite false 340 (-4),
      .finite false 2500 (-4), ["CN"]⟩,
    ⟨"6110200000", "HTS-6110200000", "Sweaters, pullovers, cardigans", .finite false 1650 (-4),
      .finite false 0 (-4), []⟩,
    ⟨"6403990000", "HTS-6403990000", "Footwear with outer soles of rubber/plastics",
      .finite false 3750 (-4), .finite false 0 (-4), []⟩,
    ⟨"8703220000", "HTS-8703220000", "Motor cars", .finite false 250 (-4), .finite false 0 (-4),
      []⟩,
    ⟨"9403600000", "HTS-9403600000", "Other wooden furniture", .finite false 0 (-4),
      .finite false 0 (-4), []⟩]

/-- `asdict` of a rule. -/
def TariffRule.payload (rule : TariffRule) : PyVal :=
  .dict [("hs_prefix", .str rule.hsPrefix), ("rule_ref", .str rule.ruleRef),
    ("description", .str rule.description), ("duty_rate", .decimal rule.dutyRate),
    ("section_301_rate", .decimal rule.section301Rate),
    ("section_301_origin_countries", .list (rule.section301OriginCountries.map .str))]

/-- `_dataset_payload`. -/
def datasetPayload : PyVal :=
  .dict [("dataset_version", .str datasetVersion),
    ("rules", .list (tariffRules.map TariffRule.payload))]

/-- `DATASET_HASH`. -/
def datasetHash : Except PyError String := canonicalHash std datasetPayload

/-- `validate_dataset_integrity`: `EXPECTED_DATASET_HASH` is the hash that the module has
been loaded with. -/
def validateDatasetIntegrity : Except PyError Unit := do
  let current ← canonicalHash std datasetPayload
  if ← constantTimeEqual current (← datasetHash std) then return ()
  else .error ⟨.runtimeError, "Tariff dataset integrity check failed"⟩

/-- `lookup_tariff_rule`. -/
def lookupTariffRule (hsCode : String) : Except PyError TariffRule := do
  validateDatasetIntegrity std
  match tariffRules.find? fun rule => hsCode == rule.hsPrefix with
  | some rule => return rule
  | none => .error ⟨.lookupError, "No tariff rule found for HS code " ++ hsCode⟩

theorem datasetHash_ok : ∃ hash, datasetHash std = .ok hash := canonicalHash_ok std (by decide)

theorem validateDatasetIntegrity_ok : validateDatasetIntegrity std = .ok () := by
  obtain ⟨hash, hhash⟩ := datasetHash_ok std
  have hcurrent : canonicalHash std datasetPayload = .ok hash := hhash
  have hequal := constantTimeEqual_of_canonicalHash std hcurrent
  rw [validateDatasetIntegrity, hcurrent, hhash]
  simp only [Except.ok_bind, hequal, if_true]
  rfl

/-- The dataset is always the one that was loaded: a lookup only fails for an unknown
code. -/
theorem lookupTariffRule_eq_ok {hsCode : String} {rule : TariffRule} :
    lookupTariffRule std hsCode = .ok rule ↔
      tariffRules.find? (fun rule => hsCode == rule.hsPrefix) = some rule := by
  rw [lookupTariffRule, validateDatasetIntegrity_ok, Except.ok_bind]
  cases tariffRules.find? fun rule => hsCode == rule.hsPrefix with
  | none => simp
  | some r => simp

end Vrl

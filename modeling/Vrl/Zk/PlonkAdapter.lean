import Vrl.Utils.Canonical

/-!
# Vrl.Zk.PlonkAdapter

The gate table of the import circuit as the compiler writes it down
(`zk/compiler/plonk_adapter.py`): eight gates, the wires they connect, and the
hash that identifies the circuit.
-/

namespace Vrl

/-- `FIELD_ORDER`, the modulus the compiler and the witness generator compute with. -/
def fieldOrder : Nat :=
  28948022309329048855892746252171976963363056481941647379679742748393362948097

/-- `MINUS_ONE`. -/
def minusOne : Int := fieldOrder - 1

/-- `PlonkGate`. -/
structure PlonkGate where
  gateId : Int
  description : String
  wireA : String
  wireB : String
  wireC : String
  qL : Int
  qR : Int
  qM : Int
  qO : Int
  qC : Int
  deriving DecidableEq, Repr

/-- `_GATES`. -/
def gates : List PlonkGate :=
  [⟨0, "extended_value", "customs_value_fp", "quantity_fp", "extended_value_fp",
      0, 0, 1, minusOne, 0⟩,
    ⟨1, "base_duty_copy", "duty_amount_fp", "one_fp", "duty_amount_fp", 0, 0, 1, minusOne, 0⟩,
    ⟨2, "section_301_copy", "s301_amount_fp", "one_fp", "s301_amount_fp", 0, 0, 1, minusOne, 0⟩,
    ⟨3, "mpf_amount_copy", "mpf_amount_fp", "one_fp", "mpf_amount_fp", 0, 0, 1, minusOne, 0⟩,
    ⟨4, "hmf_amount_copy", "hmf_amount_fp", "one_fp", "hmf_amount_fp", 0, 0, 1, minusOne, 0⟩,
    ⟨5, "fee_partial", "duty_amount_fp", "s301_amount_fp", "fee_partial_fp",
      1, 1, 0, minusOne, 0⟩,
    ⟨6, "fee_full", "fee_partial_fp", "mpf_hmf_sum_fp", "fee_full_fp", 1, 1, 0, minusOne, 0⟩,
    ⟨7, "landed_cost", "base_sum_fp", "fee_full_fp", "landed_cost_fp", 1, 1, 0, minusOne, 0⟩]

/-! ### The circuit -/

/-- `CIRCUIT_VERSION`. -/
def circuitVersion : String := "import-landed-cost-plonk-v2-halo2"

/-- `BACKEND_FRAMEWORK`. -/
def backendFramework : String := "halo2"

/-- `PUBLIC_BINDING_TARGETS`. -/
def publicBindingTargets : List String :=
  ["landed_cost_fp", "trace_hash_limb_0", "trace_hash_limb_1", "trace_hash_limb_2",
    "trace_hash_limb_3", "circuit_hash_limb_0", "circuit_hash_limb_1", "circuit_hash_limb_2",
    "circuit_hash_limb_3", "public_inputs_hash_limb_0", "public_inputs_hash_limb_1",
    "public_inputs_hash_limb_2", "public_inputs_hash_limb_3"]

/-- The members of a gate that the hash of the circuit is taken over. -/
def PlonkGate.payload (gate : PlonkGate) : PyVal :=
  .dict [("gate_id", .int gate.gateId), ("description", .str gate.description),
    ("q_L", .int gate.qL), ("q_R", .int gate.qR), ("q_M", .int gate.qM), ("q_O", .int gate.qO),
    ("q_C", .int gate.qC)]

/-- `PlonkCircuit`. The selectors of the source are columns of its gates. -/
structure PlonkCircuit where
  version : String
  gates : List PlonkGate
  publicBindingTargets : List String
  circuitHash : String

variable (std : PyStd)

/-- The payload that the hash of a circuit is taken over. -/
def circuitPayload (gates : List PlonkGate) : PyVal :=
  .dict [("version", .str circuitVersion), ("framework", .str backendFramework),
    ("gates", .list (gates.map PlonkGate.payload)),
    ("public_binding_targets", .list (publicBindingTargets.map .str))]

/-- `_compute_circuit_hash`. -/
def computeCircuitHash (gates : List PlonkGate) : Except PyError String :=
  canonicalHash std (circuitPayload gates)

/-- `compile_circuit`. -/
def compileCircuit : Except PyError PlonkCircuit := do
  let circuitHash ← computeCircuitHash std gates
  return { version := circuitVersion, gates, publicBindingTargets, circuitHash }

theorem compileCircuit_of_hash {hash : String}
    (h : canonicalHash std (circuitPayload gates) = .ok hash) :
    ∃ circuit, compileCircuit std = .ok circuit ∧ circuit.circuitHash = hash := by
  rw [compileCircuit, computeCircuitHash, h]
  exact ⟨_, rfl, rfl⟩

theorem compileCircuit_ok : ∃ circuit, compileCircuit std = .ok circuit := by
  have hfree : floatFree (circuitPayload gates) = true := by decide
  obtain ⟨hash, hhash⟩ := canonicalHash_ok std hfree
  obtain ⟨circuit, hcircuit, -⟩ := compileCircuit_of_hash std hhash
  exact ⟨circuit, hcircuit⟩

end Vrl

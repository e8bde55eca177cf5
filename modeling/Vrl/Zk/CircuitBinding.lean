import Vrl.Lib.JsonEquality
import Vrl.Zk.Backend

/-!
# Vrl.Zk.CircuitBinding

What the hash of a circuit says about its gates (`zk/compiler/plonk_adapter.py`), and the key
identifiers that are taken from it (`key_ids` of `zk/rust_backend/src/main.rs`).

The payload of the hash has the number, the description and the selectors of every gate, but not
its wires. So two lists of gates have one hash exactly if they agree in all that
(**`computeCircuitHash_eq_iff`**), however their wires are connected.
-/

open TextCodec

namespace Vrl

/-! ### Key identifiers -/

/-- `PARAMS_K`, as it is written. -/
def paramsK : String := "6"

/-- The identifiers of a proving and of a verification key. -/
structure KeyIds where
  provingKeyId : String
  verificationKeyId : String
  deriving DecidableEq, Repr

/-- The text that the identifier of a key is the digest of. -/
def keyText (purpose circuitHash : String) : String :=
  Zk.backendVersion ++ ":" ++ purpose ++ ":" ++ paramsK ++ ":" ++ circuitHash

variable (std : PyStd)

/-- `key_ids`. -/
def keyIds (circuitHash : String) : KeyIds where
  provingKeyId := std.hexdigest (keyText "proving" circuitHash)
  verificationKeyId := std.hexdigest (keyText "verification" circuitHash)

/-! ### What the hash covers -/

/-- Two gates that the payload of the hash has the same members for. -/
structure SameHashed (gate gate' : PlonkGate) : Prop where
  gateId : gate.gateId = gate'.gateId
  description : std.nfc gate.description = std.nfc gate'.description
  qL : gate.qL = gate'.qL
  qR : gate.qR = gate'.qR
  qM : gate.qM = gate'.qM
  qO : gate.qO = gate'.qO
  qC : gate.qC = gate'.qC

/-- The members of a gate in their canonical form. -/
def gateMembers (gate : PlonkGate) : List (String × Json) :=
  [("gate_id", .int gate.gateId), ("description", .str (std.nfc gate.description)),
    ("q_L", .int gate.qL), ("q_R", .int gate.qR), ("q_M", .int gate.qM), ("q_O", .int gate.qO),
    ("q_C", .int gate.qC)]

/-- The canonical form of a gate. -/
def canonicalGate (gate : PlonkGate) : Json := .obj (Json.sortMembers (gateMembers std gate))

/-- The members of a circuit in their canonical form. -/
def circuitMembers (gates : List PlonkGate) : List (String × Json) :=
  [("version", .str (std.nfc circuitVersion)), ("framework", .str (std.nfc backendFramework)),
    ("gates", .arr (gates.map (canonicalGate std))),
    ("public_binding_targets", .arr (publicBindingTargets.map fun s => .str (std.nfc s)))]

variable {std}

theorem canonicalize_gate (gate : PlonkGate) :
    canonicalize std gate.payload = .ok (canonicalGate std gate) :=
  canonicalize_dict_of_members rfl

theorem canonicalize_circuit (gates : List PlonkGate) :
    canonicalize std (circuitPayload gates) =
      .ok (.obj (Json.sortMembers (circuitMembers std gates))) := by
  have hgates : canonicalize std (.list (gates.map PlonkGate.payload)) =
      .ok (.arr (gates.map (canonicalGate std))) := by
    rw [canonicalize, canonicalizeItems_map gates canonicalize_gate]
    rfl
  have htargets : canonicalize std (.list (publicBindingTargets.map .str)) =
      .ok (.arr (publicBindingTargets.map fun s => .str (std.nfc s))) := by
    rw [canonicalize, canonicalizeItems_map publicBindingTargets fun s => by rw [canonicalize]]
    rfl
  refine canonicalize_dict_of_members ?_
  rw [canonicalizeMembers_eq_map]
  simp only [List.map_cons, List.map_nil, hgates, htargets]
  rfl

/-- Gates have one canonical form exactly if their hashed members agree. -/
theorem sortKeys_gate_iff {gate gate' : PlonkGate} :
    Json.sortKeys (canonicalGate std gate) = Json.sortKeys (canonicalGate std gate') ↔
      SameHashed std gate gate' := by
  have hkeys : (gateMembers std gate).map (·.1) = (gateMembers std gate').map (·.1) := rfl
  rw [canonicalGate, canonicalGate, Json.sortKeys_obj_sortMembers, Json.sortKeys_obj_sortMembers,
    Json.sortKeys_record_iff hkeys (by simp [gateMembers])]
  simp only [gateMembers, Json.sortKeysMembers, Json.sortKeys, List.cons.injEq, Prod.mk.injEq,
    Json.int.injEq, Json.str.injEq, true_and, and_true]
  constructor
  · intro ⟨hid, hdescription, hL, hR, hM, hO, hC⟩
    exact ⟨hid, hdescription, hL, hR, hM, hO, hC⟩
  · intro h
    exact ⟨h.gateId, h.description, h.qL, h.qR, h.qM, h.qO, h.qC⟩

theorem sortKeysItems_gates_iff {gates gates' : List PlonkGate} :
    Json.sortKeysItems (gates.map (canonicalGate std)) =
        Json.sortKeysItems (gates'.map (canonicalGate std)) ↔
      List.Forall₂ (SameHashed std) gates gates' := by
  induction gates generalizing gates' with
  | nil =>
      cases gates' with
      | nil => simp
      | cons gate' gates' => simp [Json.sortKeysItems]
  | cons gate gates ih =>
      cases gates' with
      | nil => simp [Json.sortKeysItems]
      | cons gate' gates' =>
          rw [List.map_cons, List.map_cons, Json.sortKeysItems, Json.sortKeysItems,
            List.cons.injEq, sortKeys_gate_iff, ih, List.forall₂_cons]

/-- **Two circuits have one hash exactly if their gates agree in all but the wires**, up to the
spelling of the descriptions. -/
theorem computeCircuitHash_eq_iff (hinj : Function.Injective std.hexdigest)
    {gates gates' : List PlonkGate} :
    computeCircuitHash std gates = computeCircuitHash std gates' ↔
      List.Forall₂ (SameHashed std) gates gates' := by
  have hhash : ∀ gates, computeCircuitHash std gates = .ok (std.hexdigest
      (dumpsCanonical (.obj (Json.sortMembers (circuitMembers std gates))))) :=
    fun gates => canonicalHash_of_canonicalize std (canonicalize_circuit gates)
  have hkeys : (circuitMembers std gates).map (·.1) = (circuitMembers std gates').map (·.1) := rfl
  rw [hhash, hhash, Except.ok.injEq, hinj.eq_iff, dumpsCanonical_eq_iff,
    Json.sortKeys_obj_sortMembers, Json.sortKeys_obj_sortMembers,
    Json.sortKeys_record_iff hkeys (by simp [circuitMembers])]
  simp only [circuitMembers, Json.sortKeysMembers, Json.sortKeys, List.cons.injEq, Prod.mk.injEq,
    Json.arr.injEq, true_and, and_true]
  exact sortKeysItems_gates_iff

/-! ### Binding -/

/-- A key of a circuit has an identifier of its own, which no other circuit's key has. -/
theorem keyText_injective (purpose : String) : Function.Injective (keyText purpose) := by
  intro hash hash' h
  rw [keyText, keyText] at h
  exact String.append_right_inj _ |>.mp h

variable (std) in
/-- The hash and the key identifiers of a circuit are not those of another one. -/
structure BindsCircuit (gates gates' : List PlonkGate) : Prop where
  circuitHash : computeCircuitHash std gates = computeCircuitHash std gates' → gates = gates'
  provingKeyId : ∀ hash hash', computeCircuitHash std gates = .ok hash →
    computeCircuitHash std gates' = .ok hash' →
    (keyIds std hash).provingKeyId = (keyIds std hash').provingKeyId → gates = gates'
  verificationKeyId : ∀ hash hash', computeCircuitHash std gates = .ok hash →
    computeCircuitHash std gates' = .ok hash' →
    (keyIds std hash).verificationKeyId = (keyIds std hash').verificationKeyId → gates = gates'

/-- **The hash binds two circuits exactly if they are not the same up to their wires.** -/
theorem circuit_hash_binds_iff (hinj : Function.Injective std.hexdigest)
    (gates gates' : List PlonkGate) :
    BindsCircuit std gates gates' ↔
      (List.Forall₂ (SameHashed std) gates gates' → gates = gates') := by
  rw [← computeCircuitHash_eq_iff hinj]
  constructor
  · intro h
    exact h.circuitHash
  · intro h
    -- one key identifier comes from one hash
    have hkeys : ∀ purpose hash hash', computeCircuitHash std gates = .ok hash →
        computeCircuitHash std gates' = .ok hash' →
        std.hexdigest (keyText purpose hash) = std.hexdigest (keyText purpose hash') →
        gates = gates' := by
      intro purpose hash hash' hhash hhash' heq
      refine h ?_
      rw [hhash, hhash', keyText_injective purpose (hinj heq)]
    exact ⟨h, hkeys "proving", hkeys "verification"⟩

/-! ### A circuit with other wires -/

section Sample

/-- The text that the import circuit is hashed as. -/
def circuitText : String := ((canonicalJson lengthStd (circuitPayload gates)).toOption).getD ""

/-- The digest of the import circuit. -/
def circuitDigests : DigestTable where
  entries := [(circuitText, "3fa24c7763608b01b4c7e411655ebc75ff7a906c38bd79a4cc3be0f4479cdf23")]
  isDigest := by decide +kernel
  distinct := by decide +kernel

/-- The library with this digest. -/
def circuitStd : PyStd := { lengthStd with toSha256 := circuitDigests.sha }

theorem circuitStd_injective : Function.Injective circuitStd.hexdigest := by
  rw [circuitStd]
  exact DigestTable.sha_injective _

/-- The gates of the import circuit, all of them on the same three wires. -/
def rewiredGates : List PlonkGate :=
  gates.map fun gate => { gate with wireA := "one_fp", wireB := "one_fp", wireC := "one_fp" }

theorem rewiredGates_sameHashed : List.Forall₂ (SameHashed circuitStd) gates rewiredGates := by
  rw [rewiredGates, List.forall₂_map_right_iff]
  exact List.forall₂_same.mpr fun gate _ => ⟨rfl, rfl, rfl, rfl, rfl, rfl, rfl⟩

/-- Two circuits that differ in their wires only have one hash, and one set of keys. -/
theorem rewired_circuit_shares_hash :
    Function.Injective circuitStd.hexdigest ∧
      computeCircuitHash circuitStd gates = computeCircuitHash circuitStd rewiredGates ∧
      gates.map PlonkGate.wireA ≠ rewiredGates.map PlonkGate.wireA ∧
      ¬ BindsCircuit circuitStd gates rewiredGates := by
  have hhash := (computeCircuitHash_eq_iff circuitStd_injective).mpr rewiredGates_sameHashed
  have hwires : gates.map PlonkGate.wireA ≠ rewiredGates.map PlonkGate.wireA := by decide
  refine ⟨circuitStd_injective, hhash, hwires, ?_⟩
  intro hbinds
  exact hwires (congrArg (List.map PlonkGate.wireA) (hbinds.circuitHash hhash))

theorem circuit_hash_binds_iff_rewired :
    BindsCircuit circuitStd gates rewiredGates ↔
      (List.Forall₂ (SameHashed circuitStd) gates rewiredGates → gates = rewiredGates) :=
  circuit_hash_binds_iff circuitStd_injective gates rewiredGates

end Sample

end Vrl

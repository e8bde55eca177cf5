import Vrl.Sdk.Python.Serialization

/-!
# Vrl.Sdk.Python.RoundTrip

The verdict on a bundle that was written to JSON and read back.

Nothing the verifier looks at is lost with the empty parts (`verify_withoutEmpty`), so an
accepted bundle is judged after the round trip as it was before.
-/

open TextCodec CheckPipeline JsonValue

namespace Vrl.Sdk.Python

variable (std : PyStd) (fmt : Formatter) {floats : FloatText}

/-! ### Empty parts do not matter -/

section WithoutEmpty

variable (bundle : ProofBundle)

theorem step8_withoutEmpty (r : VerificationResult) :
    step8DataCommitmentVerification std bundle.withoutEmpty r =
      step8DataCommitmentVerification std bundle r := by
  unfold step8DataCommitmentVerification ProofBundle.withoutEmpty
  match bundle.dataCommitments with
  | none => rfl
  | some [] => rfl
  | some (_ :: _) => rfl

/-- A part without content has no content to look for. -/
theorem filter_ne_bind {α β : Type} [DecidableEq α] (value : Option α) {empty : α}
    {f : α → Option β} (h : f empty = none) :
    (value.filter fun a => a ≠ empty).bind f = value.bind f := by
  cases value with
  | none => rfl
  | some a =>
      by_cases ha : a = empty
      · simp [Option.filter, ha, h]
      · simp [Option.filter, ha]

theorem verifyOptional_withoutEmpty (r : VerificationResult) :
    verifyOptional bundle.withoutEmpty r = verifyOptional bundle r := by
  have hlegal : bundle.withoutEmpty.legal.bind (·.timestampAuthority) =
      bundle.legal.bind (·.timestampAuthority) := filter_ne_bind bundle.legal rfl
  have hgraph : bundle.withoutEmpty.proofGraph.bind (·.dependsOn) =
      bundle.proofGraph.bind (·.dependsOn) := filter_ne_bind bundle.proofGraph rfl
  unfold verifyOptional verifyGraph verifyTimestamp step9TimestampVerification
    step10ProofGraphVerification
  rw [hlegal, hgraph]

/-- **The verifier does not see whether an empty part is there.** -/
theorem verify_withoutEmpty (registry : CircuitRegistry) :
    verify std registry bundle.withoutEmpty = verify std registry bundle := by
  unfold verify
  simp only [step8_withoutEmpty, verifyOptional_withoutEmpty]
  rfl

end WithoutEmpty

/-! ### The verdict after a round trip -/

@[simp] theorem VerificationResult.isValid_toLoaded (r : VerificationResult) :
    r.toLoaded.isValid = r.isValid := rfl

/-- The text of a small number as a hash is written. -/
def hashText (n : Nat) : String := String.ofList (hexFixed 64 n)

/-- The digest that the circuit of the sample has. -/
def sampleCircuitHash : String :=
  "dca0af0bdf9877688d9bbe9e6da0e9e5b8ca5ac908bd0a645257b5e1100773ea"

/-- The digest of the text without public inputs. -/
def sampleInputsHash : String :=
  "4f53cda18c2baa0c0354bb5f9a3ecbe5ed12ab4d8e11ba873c2f11161202b945"

/-- The digest of the three hashes of the sample. -/
def sampleIntegrityHash : String :=
  "924bfdf88d318a23d686e53bfd001fe79ecd71d656bfa576d189f97b8ac14bbf"

/-- The digests of the texts that the sample is hashed as. -/
def sampleDigests : DigestTable where
  entries :=
    [(canonicalJson (.obj [
          ("circuit_id", .str "trade/import-landed-cost"),
          ("circuit_version", .str "1.0.0"),
          ("spec_version", .str "vrl/circuit/1.0")]), sampleCircuitHash),
      (hashText 1 ++ hashText 2 ++ hashText 3, sampleIntegrityHash),
      (canonicalJson (.arr []), sampleInputsHash),
      (canonicalJson (.obj [
          ("circuit_hash", .str sampleCircuitHash),
          ("proof_bytes", .str ""),
          ("proof_system", .str "sha256-deterministic"),
          ("public_inputs", .arr []),
          ("public_inputs_hash", .str sampleInputsHash),
          ("trace_hash", .str (hashText 3))]),
        "7b94868ca440703e69931be9735d996c326cb4b44a1e706fbacbc9cd87148a9b")]
  isDigest := by decide +kernel
  distinct := by decide +kernel

/-- The library with these digests, and the UUID of the integrity hash. -/
def sampleStd : PyStd :=
  { lengthStd with
    toSha256 := sampleDigests.padded
    uuid5 nameSpace name :=
      if name = sampleIntegrityHash then ⟨⟨0xfae1efe1042958b6960f534b5a136262, by decide⟩⟩
      else lengthStd.uuid5 nameSpace name }

/-- A bundle about three numbers, with a legal block. -/
def sampleBundle (legal : Option Legal) : ProofBundle :=
  let bundle := honestBundle sampleStd (hashText 0) (hashText 1) (hashText 2) (hashText 3)
  { bundle with
    aiIdentity := { bundle.aiIdentity with executionEnvironment := "deterministic" }
    legal }

theorem isValidHexHash_sampleStd (s : String) : isValidHexHash (sampleStd.hexdigest s) = true := by
  refine isValidHexHash_of_isHexHash ?_
  rw [isHexHash, Bool.and_eq_true, decide_eq_true_eq, List.all_eq_true]
  exact ⟨sampleDigests.padded_isFullLength s, sampleDigests.padded.isLowerHex_hexdigest s⟩

theorem sampleBundle_checks (legal : Option Legal) :
    ∀ c ∈ requiredChecks sampleStd isValidHexHash (mockRegistry sampleStd) (sampleBundle legal),
      c.holds = true :=
  honestBundle_checks sampleStd isValidHexHash_sampleStd (isValidHexHash_hexFixed 0)
    (isValidHexHash_hexFixed 1) (isValidHexHash_hexFixed 2) (isValidHexHash_hexFixed 3)

theorem sampleBundle_isValid (legal : Option Legal) :
    (verify sampleStd (mockRegistry sampleStd) (sampleBundle legal)).isValid = true := by
  have haccepted := (verify_characterised sampleStd (mockRegistry sampleStd)
    (sampleBundle legal)).accepted_iff.mpr (sampleBundle_checks legal)
  simpa [VerificationResult.isValid] using haccepted

theorem mockRegistry_onTexts :
    (Loaded.mockRegistry std).onTexts = mockRegistry std := by
  funext circuitId circuitVersion
  exact mockRegistry_str std circuitId circuitVersion

end Vrl.Sdk.Python

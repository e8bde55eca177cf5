import Vrl.Sdk.CommitmentAgreement
import Vrl.Sdk.Python.VerifierSpec
import Vrl.Sdk.TypeScript.VerifierSpec

/-!
# Vrl.Sdk.VerdictAgreement

When the Python and the TypeScript verifier return the same status.

The Python verifier stops at the first check that fails. The TypeScript verifier makes
them all and reports the last, looks at the format of the identifier and of the circuit
hash only, and asks for a date of issue. The statuses are the same in the cases that
`SameVerdict` lists (**`statuses_agree_iff`**).
-/

open TextCodec CheckPipeline

namespace Vrl.Sdk

/-! ### One bundle in two SDKs -/

/-- A status under its name in the TypeScript SDK. -/
def Python.VerificationStatus.toTypeScript :
    Python.VerificationStatus → TypeScript.VerificationStatus
  | .valid => .valid
  | .validPartial => .validPartial
  | .schemaInvalid => .schemaInvalid
  | .bundleIdMismatch => .bundleIdMismatch
  | .integrityMismatch => .integrityMismatch
  | .circuitHashMismatch => .circuitHashMismatch
  | .proofInvalid => .proofInvalid
  | .teeAttestationInvalid => .teeAttestationInvalid
  | .recomputationMismatch => .recomputationMismatch
  | .hashBindingInvalid => .hashBindingInvalid
  | .aiIdInvalid => .aiIdInvalid
  | .dataCommitmentInvalid => .dataCommitmentInvalid
  | .timestampInvalid => .timestampInvalid
  | .graphEdgeInvalid => .graphEdgeInvalid
  | .unsupportedVersion => .unsupportedVersion

/-- A timestamp authority block as the TypeScript SDK reads it. -/
def Python.TimestampAuthority.toTypeScript (tsa : Python.TimestampAuthority) :
    TypeScript.TimestampAuthority where
  tsaToken := tsa.tsaToken
  tsaProvider := tsa.tsaProvider
  tsaHashAlgorithm := tsa.tsaHashAlgorithm

/-- A bundle as the TypeScript SDK reads it. -/
def Python.ProofBundle.toTypeScript (bundle : Python.ProofBundle) : TypeScript.ProofBundle where
  vrlVersion := bundle.vrlVersion
  bundleId := bundle.bundleId
  issuedAt := bundle.issuedAt
  aiIdentity :=
    { aiId := bundle.aiIdentity.aiId
      providerSignature := bundle.aiIdentity.providerSignature }
  computation :=
    { circuitId := bundle.computation.circuitId
      circuitVersion := bundle.computation.circuitVersion
      circuitHash := bundle.computation.circuitHash
      inputHash := bundle.computation.inputHash
      outputHash := bundle.computation.outputHash
      traceHash := bundle.computation.traceHash
      integrityHash := bundle.computation.integrityHash }
  proof :=
    { proofSystem := bundle.proof.proofSystem
      proofBytes := bundle.proof.proofBytes
      publicInputs := bundle.proof.publicInputs
      verificationKeyId := bundle.proof.verificationKeyId
      proofHash := bundle.proof.proofHash
      commitments := bundle.proof.commitments }
  dataCommitments := bundle.dataCommitments.map (·.map (·.toTypeScript))
  legal := bundle.legal.map fun legal =>
    { timestampAuthority := legal.timestampAuthority.map (·.toTypeScript) }
  proofGraph := bundle.proofGraph.map fun graph => { dependsOn := graph.dependsOn }

variable (std : PyStd)

/-- The status of the Python verifier with its default registry. -/
def pythonStatus (bundle : Python.ProofBundle) : Python.VerificationStatus :=
  (Python.verify std (Python.mockRegistry std) bundle).status

/-- The status of the TypeScript verifier. -/
def typeScriptStatus (bundle : Python.ProofBundle) : TypeScript.VerificationStatus :=
  (TypeScript.verify std.toSha256 std.toUnicodeData bundle.toTypeScript).status

/-! ### The checks of both -/

section Checks

variable (bundle : Python.ProofBundle)

/-- The identifier is the one that Python recomputes. -/
def idRecomputes : Bool :=
  Python.computeBundleIdFromIntegrity std bundle.computation.integrityHash = bundle.bundleId

/-- The integrity hash recomputes, in either SDK. -/
def integrityRecomputes : Bool :=
  Python.computeIntegrityHash std bundle.computation.inputHash bundle.computation.outputHash
    bundle.computation.traceHash = bundle.computation.integrityHash

/-- The circuit hash is the one that is registered. -/
def circuitRegistered : Bool :=
  Python.mockRegistry std bundle.computation.circuitId bundle.computation.circuitVersion =
    some bundle.computation.circuitHash

/-- The proof passes Python's step 6. -/
def pythonProofHolds : Bool :=
  Python.validSystems.contains bundle.proof.proofSystem &&
    Python.recomputedProofHash std bundle = bundle.proof.proofHash

/-- The proof passes TypeScript's step 6. -/
def typeScriptProofHolds : Bool :=
  TypeScript.validSystems.contains bundle.proof.proofSystem &&
    TypeScript.recomputedProofHash std.toSha256 bundle.toTypeScript = bundle.proof.proofHash

/-- The commitments pass Python's step 8. -/
def pythonCommitmentsHold : Bool :=
  (bundle.dataCommitments.getD []).all (Python.commitmentHolds std)

/-- The commitments pass TypeScript's step 8. -/
def typeScriptCommitmentsHold : Bool :=
  (bundle.toTypeScript.dataCommitments.getD []).all (TypeScript.commitmentHolds std.toSha256)

/-- The hashes pass Python's step 2. -/
def pythonSchemaHolds : Bool := Python.hashesWellFormed Python.isValidHexHash bundle

/-- The required fields and the hashes pass TypeScript's step 2. -/
def typeScriptSchemaHolds : Bool :=
  TypeScript.schemaHolds std.toUnicodeData bundle.toTypeScript

/-- Python's optional steps find nothing. -/
def pythonOptionalHolds : Bool :=
  Python.timestampHolds bundle && Python.graphHolds bundle

/-- TypeScript's optional steps find nothing. -/
def typeScriptOptionalHolds : Bool :=
  TypeScript.timestampHolds bundle.toTypeScript && TypeScript.graphHolds bundle.toTypeScript

/-- After a schema that both find kept, the cases in which the statuses are the same. -/
def SameOutcome : Prop :=
  -- nothing required fails, and the optional steps agree
  (idRecomputes std bundle ∧ TypeScript.uuidRegex bundle.bundleId ∧
    integrityRecomputes std bundle ∧ circuitRegistered std bundle ∧
    pythonProofHolds std bundle ∧ typeScriptProofHolds std bundle ∧
    pythonCommitmentsHold std bundle ∧ typeScriptCommitmentsHold std bundle ∧
    pythonOptionalHolds bundle = typeScriptOptionalHolds bundle) ∨
  -- the identifier is no UUID, and nothing else that TypeScript looks at fails
  (¬ idRecomputes std bundle ∧ ¬ TypeScript.uuidRegex bundle.bundleId ∧
    integrityRecomputes std bundle ∧ typeScriptProofHolds std bundle ∧
    typeScriptCommitmentsHold std bundle) ∨
  -- the integrity hash alone is wrong
  (idRecomputes std bundle ∧ ¬ integrityRecomputes std bundle ∧
    typeScriptProofHolds std bundle ∧ typeScriptCommitmentsHold std bundle) ∨
  -- the proof alone is wrong
  (idRecomputes std bundle ∧ integrityRecomputes std bundle ∧ circuitRegistered std bundle ∧
    ¬ pythonProofHolds std bundle ∧ ¬ typeScriptProofHolds std bundle ∧
    typeScriptCommitmentsHold std bundle) ∨
  -- a commitment alone is wrong
  (idRecomputes std bundle ∧ integrityRecomputes std bundle ∧ circuitRegistered std bundle ∧
    pythonProofHolds std bundle ∧ ¬ pythonCommitmentsHold std bundle ∧
    ¬ typeScriptCommitmentsHold std bundle)

/-- The cases in which both verifiers return the same status. -/
def SameVerdict : Prop :=
  bundle.vrlVersion ≠ "1.0" ∨
  (¬ pythonSchemaHolds bundle ∧ ¬ typeScriptSchemaHolds std bundle) ∨
  (pythonSchemaHolds bundle ∧ typeScriptSchemaHolds std bundle ∧ SameOutcome std bundle)

/-! ### The statuses -/

theorem pythonStatus_eq :
    pythonStatus std bundle =
      if bundle.vrlVersion = "1.0" then
        if pythonSchemaHolds bundle then
          if idRecomputes std bundle then
            if integrityRecomputes std bundle then
              if circuitRegistered std bundle then
                if pythonProofHolds std bundle then
                  if pythonCommitmentsHold std bundle then
                    if pythonOptionalHolds bundle then .valid else .validPartial
                  else .dataCommitmentInvalid
                else .proofInvalid
              else .circuitHashMismatch
            else .integrityMismatch
          else .bundleIdMismatch
        else .schemaInvalid
      else .unsupportedVersion := by
  rw [pythonStatus, Python.verify_status, Python.requiredChecks]
  simp only [getD_firstFailure_cons, firstFailure_nil, Option.getD_none, pythonSchemaHolds,
    idRecomputes, integrityRecomputes, circuitRegistered, pythonProofHolds, pythonCommitmentsHold,
    pythonOptionalHolds, Bool.and_eq_true, decide_eq_true_eq]

/-- What passes TypeScript's schema check passes its steps 5 and 7. -/
theorem typeScriptSchemaHolds_hashes (h : typeScriptSchemaHolds std bundle = true) :
    TypeScript.isValidHexHash std.toUnicodeData bundle.computation.circuitHash = true ∧
      TypeScript.isValidHexHash std.toUnicodeData bundle.aiIdentity.aiId = true := by
  simp only [typeScriptSchemaHolds, TypeScript.schemaHolds, TypeScript.hashesWellFormed,
    TypeScript.hashFields, List.all_cons, Bool.and_eq_true] at h
  exact ⟨h.2.2.1, h.2.1⟩

theorem typeScriptStatus_eq :
    typeScriptStatus std bundle =
      if bundle.vrlVersion = "1.0" then
        if typeScriptSchemaHolds std bundle then
          if typeScriptCommitmentsHold std bundle then
            if typeScriptProofHolds std bundle then
              if integrityRecomputes std bundle then
                if TypeScript.uuidRegex bundle.bundleId then
                  if typeScriptOptionalHolds bundle then .valid else .validPartial
                else .bundleIdMismatch
              else .integrityMismatch
            else .proofInvalid
          else .dataCommitmentInvalid
        else .schemaInvalid
      else .unsupportedVersion := by
  rw [typeScriptStatus, TypeScript.verify_status]
  have hsame : bundle.toTypeScript.vrlVersion = bundle.vrlVersion := rfl
  rw [hsame]
  by_cases hversion : bundle.vrlVersion = "1.0"
  · rw [if_neg (not_not_intro hversion), if_pos hversion]
    cases hschema : typeScriptSchemaHolds std bundle with
    | false =>
        rw [typeScriptSchemaHolds] at hschema
        simp [hschema]
    | true =>
        obtain ⟨hcircuit, haiId⟩ := typeScriptSchemaHolds_hashes std bundle hschema
        rw [typeScriptSchemaHolds] at hschema
        rw [hschema, if_neg (by simp), if_pos rfl, TypeScript.requiredChecks]
        simp only [getD_lastFailure_cons, lastFailure_nil, Option.getD_none, overwrite]
        rw [show TypeScript.isValidHexHash std.toUnicodeData
          bundle.toTypeScript.computation.circuitHash = true from hcircuit,
          show TypeScript.isValidHexHash std.toUnicodeData bundle.toTypeScript.aiIdentity.aiId =
            true from haiId, if_pos rfl, if_pos rfl]
        simp only [typeScriptOptionalHolds, typeScriptProofHolds, Bool.and_eq_true]
        rfl
  · rw [if_pos hversion, if_neg hversion]

/-! ### Agreement -/

/-- After the schema, the statuses are the same exactly in the cases listed. -/
theorem outcomes_agree_iff (hversion : bundle.vrlVersion = "1.0")
    (hpython : pythonSchemaHolds bundle = true)
    (htypeScript : typeScriptSchemaHolds std bundle = true) :
    (pythonStatus std bundle).toTypeScript = typeScriptStatus std bundle ↔
      SameOutcome std bundle := by
  rw [pythonStatus_eq, typeScriptStatus_eq, SameOutcome]
  simp only [hversion, hpython, htypeScript, if_true]
  -- the first check that fails in Python, and then all that the last in TypeScript can be
  cases idRecomputes std bundle with
  | false =>
      simp only [Bool.false_eq_true, if_false, Python.VerificationStatus.toTypeScript]
      split_ifs <;> simp_all
  | true =>
      cases integrityRecomputes std bundle with
      | false =>
          simp only [Bool.false_eq_true, if_false, if_true, Python.VerificationStatus.toTypeScript]
          split_ifs <;> simp_all
      | true =>
          cases circuitRegistered std bundle with
          | false =>
              simp only [Bool.false_eq_true, if_false, if_true,
                Python.VerificationStatus.toTypeScript]
              split_ifs <;> simp_all
          | true =>
              cases pythonProofHolds std bundle with
              | false =>
                  simp only [Bool.false_eq_true, if_false, if_true,
                    Python.VerificationStatus.toTypeScript]
                  split_ifs <;> simp_all
              | true =>
                  cases pythonCommitmentsHold std bundle with
                  | false =>
                      simp only [Bool.false_eq_true, if_false, if_true,
                        Python.VerificationStatus.toTypeScript]
                      split_ifs <;> simp_all
                  | true =>
                      simp only [if_true]
                      cases pythonOptionalHolds bundle <;>
                        cases typeScriptOptionalHolds bundle <;>
                        simp only [Bool.false_eq_true, if_false, if_true,
                          Python.VerificationStatus.toTypeScript] <;>
                        split_ifs <;> simp_all

/-- **The statuses are the same exactly in the cases listed.** -/
theorem statuses_agree_iff :
    (pythonStatus std bundle).toTypeScript = typeScriptStatus std bundle ↔
      SameVerdict std bundle := by
  rw [SameVerdict]
  by_cases hversion : bundle.vrlVersion = "1.0"
  · cases hpython : pythonSchemaHolds bundle with
    | false =>
        rw [pythonStatus_eq, typeScriptStatus_eq]
        simp only [hversion, hpython, Bool.false_eq_true, if_false, if_true,
          Python.VerificationStatus.toTypeScript]
        split_ifs <;> simp_all
    | true =>
        cases htypeScript : typeScriptSchemaHolds std bundle with
        | false =>
            rw [pythonStatus_eq, typeScriptStatus_eq]
            simp only [hversion, hpython, htypeScript, Bool.false_eq_true, if_false, if_true]
            split_ifs <;> simp [Python.VerificationStatus.toTypeScript]
        | true =>
            rw [outcomes_agree_iff std bundle hversion hpython htypeScript]
            simp [hversion]
  · rw [pythonStatus_eq, typeScriptStatus_eq]
    simp [hversion, Python.VerificationStatus.toTypeScript]

/-- TypeScript hashes an object for the proof hash. -/
theorem recomputedProofHash_obj : ∃ members,
    TypeScript.recomputedProofHash std.toSha256 bundle.toTypeScript =
      std.hexdigest (TypeScript.canonicalJson (.obj members)) :=
  ⟨_, rfl⟩

theorem integrityRecomputes_eq : integrityRecomputes std bundle =
    decide (std.hexdigest (bundle.computation.inputHash ++ bundle.computation.outputHash ++
      bundle.computation.traceHash) = bundle.computation.integrityHash) := rfl

/-- 64 lower-case hexadecimal digits are well formed for TypeScript too. -/
theorem isValidHexHash_of_isHexHash (unicode : UnicodeData) {value : String}
    (h : Python.isHexHash value = true) : TypeScript.isValidHexHash unicode value = true := by
  obtain ⟨hlength, hlower⟩ := Bool.and_eq_true_iff.mp h
  rw [List.all_eq_true] at hlower
  have hascii : IsAscii value.toList := fun c hc => isAsciiChar_of_isLowerHex (hlower c hc)
  have hsame : value.toList.map Char.toLower = value.toList := by
    conv_rhs => rw [← List.map_id value.toList]
    refine List.map_congr_left fun c hc => ?_
    obtain ⟨d, hd, rfl⟩ := exists_hexDigit_of_isLowerHex (hlower c hc)
    exact toLower_hexDigit hd
  rw [TypeScript.isValidHexHash, utf16_of_isAscii hascii, List.length_map, hlength,
    unicode.lower_ascii _ hascii, hsame, String.ofList_toList]
  simp

/-- A bundle with an identifier, a date of issue and well-formed hashes passes
TypeScript's step 2. -/
theorem typeScriptSchemaHolds_of_isHexHash (hid : bundle.bundleId ≠ "")
    (hissued : bundle.issuedAt ≠ "") (h : Python.hashesWellFormed Python.isHexHash bundle = true) :
    typeScriptSchemaHolds std bundle = true := by
  have hown : TypeScript.hashesWellFormed std.toUnicodeData bundle.toTypeScript = true := by
    simp only [Python.hashesWellFormed, Python.hashFields, List.all_cons, List.all_nil,
      Bool.and_eq_true] at h
    obtain ⟨haiId, hcircuit, hin, hout, htrace, hintegrity, hproof, -⟩ := h
    have hvalid := @isValidHexHash_of_isHexHash std.toUnicodeData
    simp only [TypeScript.hashesWellFormed, TypeScript.hashFields, List.all_cons, List.all_nil,
      Bool.and_eq_true]
    exact ⟨hvalid haiId, hvalid hcircuit, hvalid hin, hvalid hout, hvalid htrace,
      hvalid hintegrity, hvalid hproof, trivial⟩
  rw [typeScriptSchemaHolds, TypeScript.schemaHolds, hown, Bool.and_true, Bool.and_eq_true,
    decide_eq_true_eq, decide_eq_true_eq]
  exact ⟨hid, hissued⟩

end Checks

/-! ### A bundle with another identifier -/

/-- The digests of the texts that the bundle is hashed as, told by their first character:
the three hashes, the public inputs and the proof. -/
def leadDigest (s : String) : String :=
  match s.toList.head? with
  | some '0' => "924bfdf88d318a23d686e53bfd001fe79ecd71d656bfa576d189f97b8ac14bbf"
  | some '[' => "4f53cda18c2baa0c0354bb5f9a3ecbe5ed12ab4d8e11ba873c2f11161202b945"
  | _ => "940c273215bfbf817ed50eff8048ac17ac4433f5ac8b06acb355dc76c038ff85"

theorem leadDigest_isLowerHex (s : String) : ∀ c ∈ (leadDigest s).toList, isLowerHex c = true := by
  unfold leadDigest
  split <;> decide +kernel

theorem misnamedUuid_lt : 0xfae1efe1042958b6960f534b5a136262 < 16 ^ 32 := by decide

/-- The library with these digests, and with the UUID of the integrity hash. -/
def misnamedStd : PyStd :=
  { lengthStd with
    hexdigest := leadDigest
    isLowerHex_hexdigest := leadDigest_isLowerHex
    uuid5 := fun _ _ => ⟨⟨0xfae1efe1042958b6960f534b5a136262, misnamedUuid_lt⟩⟩ }

/-- 64 digits of a number. -/
def digits (n : Nat) : String := String.ofList (hexFixed 64 n)

/-- A bundle with everything as it should be but for its identifier. -/
def misnamedBundle : Python.ProofBundle where
  vrlVersion := "1.0"
  bundleId := "00000000-0000-0000-0000-000000000000"
  issuedAt := "2026-01-01T00:00:00Z"
  aiIdentity :=
    { aiId := digits 0
      modelName := "model"
      modelVersion := "1"
      providerId := "provider"
      executionEnvironment := "deterministic" }
  computation :=
    { circuitId := "trade/import-landed-cost"
      circuitVersion := "1.0.0"
      circuitHash := digits 0
      inputHash := digits 1
      outputHash := digits 2
      traceHash := digits 3
      integrityHash := "924bfdf88d318a23d686e53bfd001fe79ecd71d656bfa576d189f97b8ac14bbf" }
  proof :=
    { proofSystem := "sha256-deterministic"
      proofBytes := ""
      publicInputs := []
      verificationKeyId := ""
      proofHash := "940c273215bfbf817ed50eff8048ac17ac4433f5ac8b06acb355dc76c038ff85" }

theorem misnamedStd_hexdigest (s : String) : misnamedStd.hexdigest s = leadDigest s := rfl

/-- What is hashed as an object has the digest of the proof. -/
theorem misnamedStd_obj (members : List (String × Json)) :
    misnamedStd.hexdigest (TypeScript.canonicalJson (.obj members)) =
      "940c273215bfbf817ed50eff8048ac17ac4433f5ac8b06acb355dc76c038ff85" := by
  rw [misnamedStd_hexdigest, leadDigest, TypeScript.canonicalJson, String.toList_ofList, Json.stringifySorted,
    Json.sortKeysUtf16, Json.text]
  rfl

theorem misnamedBundle_integrity : integrityRecomputes misnamedStd misnamedBundle = true := by
  have hlead : (misnamedBundle.computation.inputHash ++ misnamedBundle.computation.outputHash ++
      misnamedBundle.computation.traceHash).toList.head? = some '0' := by
    simp only [misnamedBundle, String.toList_append, digits, String.toList_ofList]
    decide +kernel
  rw [integrityRecomputes_eq, misnamedStd_hexdigest, leadDigest, hlead]
  exact decide_eq_true rfl

theorem misnamedBundle_proof : typeScriptProofHolds misnamedStd misnamedBundle = true := by
  have hsystem : TypeScript.validSystems.contains "sha256-deterministic" = true := by
    decide +kernel
  obtain ⟨members, hmembers⟩ := recomputedProofHash_obj misnamedStd misnamedBundle
  rw [typeScriptProofHolds, hmembers, misnamedStd_obj, Bool.and_eq_true]
  exact ⟨hsystem, decide_eq_true rfl⟩

/-- The hashes of the bundle are all well formed. -/
theorem misnamedBundle_hashes : Python.hashesWellFormed Python.isHexHash misnamedBundle = true := by
  have hdigits : ∀ n, Python.isHexHash (digits n) = true := Python.isHexHash_ofList_hexFixed
  simp only [Python.hashesWellFormed, Python.hashFields, misnamedBundle, List.all_cons, List.all_nil,
    hdigits, Bool.true_and, Bool.and_true]
  decide +kernel

/-- TypeScript accepts the bundle, and Python rejects it. -/
theorem misnamedBundle_verdicts :
    typeScriptStatus misnamedStd misnamedBundle = .valid ∧
      pythonStatus misnamedStd misnamedBundle = .bundleIdMismatch := by
  have hpython : pythonSchemaHolds misnamedBundle = true :=
    Python.hashesWellFormed_mono (fun _ => Python.isValidHexHash_of_isHexHash) misnamedBundle_hashes
  have htypeScript : typeScriptSchemaHolds misnamedStd misnamedBundle = true :=
    typeScriptSchemaHolds_of_isHexHash _ _ (by decide +kernel) (by decide +kernel)
      misnamedBundle_hashes
  have hid : idRecomputes misnamedStd misnamedBundle = false := by decide +kernel
  have hregex : TypeScript.uuidRegex misnamedBundle.bundleId = true := by decide +kernel
  have hcommitments : typeScriptCommitmentsHold misnamedStd misnamedBundle = true := rfl
  have hversion : misnamedBundle.vrlVersion = "1.0" := rfl
  constructor
  · rw [typeScriptStatus_eq, if_pos hversion, if_pos htypeScript, if_pos hcommitments,
      if_pos misnamedBundle_proof, if_pos misnamedBundle_integrity, if_pos hregex]
    rfl
  · rw [pythonStatus_eq, if_pos hversion, if_pos hpython, hid]
    rfl

end Vrl.Sdk

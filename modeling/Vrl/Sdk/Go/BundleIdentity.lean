import Vrl.Sdk.Go.VerifierSpec

/-!
# Vrl.Sdk.Go.BundleIdentity

How far the identifier of a valid bundle binds what was computed, in the Go SDK.

The integrity hash is taken over three hashes written one after the other, and the
verifier looks at the format of none of the three. So the identifier binds the text
as a whole, and the hashes only as far as their lengths are known.
-/

open TextCodec CheckPipeline

namespace Vrl.Sdk.Go

variable (sha : Sha256)

/-! ### What validity fixes -/

/-- The text that the integrity hash is taken over. -/
def hashedText (bundle : ProofBundle) : String :=
  bundle.computation.inputHash ++ bundle.computation.outputHash ++ bundle.computation.traceHash

/-- The identifier of a valid bundle follows from its integrity hash, and that one from
the text of its hashes. -/
theorem identified_of_valid {bundle : ProofBundle} (h : (verify sha bundle).status = some .valid) :
    uuidv5 sha vrlNamespace bundle.computation.integrityHash = some bundle.bundleId ∧
      sha.hexdigest (hashedText bundle) = bundle.computation.integrityHash := by
  have hchecks := (status_eq_valid_iff sha bundle).mp h
  simp only [requiredChecks, List.forall_mem_cons, decide_eq_true_eq] at hchecks
  exact ⟨hchecks.2.2.1, hchecks.2.2.2.1⟩

/-- Valid bundles with one identifier have one text of hashes. -/
theorem hashedText_eq_of_valid {b b' : ProofBundle}
    (hsha : CollisionFree sha.hexdigest (hashedText b) (hashedText b'))
    (huuid : CollisionFree (uuidv5 sha vrlNamespace) b.computation.integrityHash
      b'.computation.integrityHash)
    (hb : (verify sha b).status = some .valid) (hb' : (verify sha b').status = some .valid)
    (hid : b.bundleId = b'.bundleId) : hashedText b = hashedText b' := by
  obtain ⟨hbid, hbintegrity⟩ := identified_of_valid sha hb
  obtain ⟨hbid', hbintegrity'⟩ := identified_of_valid sha hb'
  have hintegrity : b.computation.integrityHash = b'.computation.integrityHash := by
    refine huuid ?_
    rw [hbid, hbid', hid]
  refine hsha ?_
  rw [hbintegrity, hbintegrity', hintegrity]

/-! ### Binding -/

/-- **Two valid bundles with one identifier are about the same hashes exactly when the
first two of these have the same lengths**, as long as nothing collides. -/
theorem valid_bundles_bound_iff {b b' : ProofBundle}
    (hsha : CollisionFree sha.hexdigest (hashedText b) (hashedText b'))
    (huuid : CollisionFree (uuidv5 sha vrlNamespace) b.computation.integrityHash
      b'.computation.integrityHash)
    (hb : (verify sha b).status = some .valid) (hb' : (verify sha b').status = some .valid)
    (hid : b.bundleId = b'.bundleId) :
    (b.computation.inputHash = b'.computation.inputHash ∧
        b.computation.outputHash = b'.computation.outputHash ∧
        b.computation.traceHash = b'.computation.traceHash) ↔
      (b.computation.inputHash.utf8ByteSize = b'.computation.inputHash.utf8ByteSize ∧
        b.computation.outputHash.utf8ByteSize = b'.computation.outputHash.utf8ByteSize) := by
  have htext := hashedText_eq_of_valid sha hsha huuid hb hb' hid
  constructor
  · intro ⟨hin, hout, _⟩
    rw [hin, hout]
    exact ⟨rfl, rfl⟩
  · intro ⟨hin, hout⟩
    exact String.append_three_inj htext hin hout

/-! ### Moving a character -/

/-- 64 hexadecimal digits, the number `n`. -/
def digits (n : Nat) : String := String.ofList (hexFixed 64 n)

/-- A bundle about three hashes, with everything that the verifier looks at as it should
be. -/
def honestBundle (inputHash outputHash traceHash : String) : ProofBundle :=
  let integrityHash := computeIntegrityHash sha inputHash outputHash traceHash
  { vrlVersion := "1.0"
    bundleId := (uuidv5 sha vrlNamespace integrityHash).getD ""
    issuedAt := "2026-01-01T00:00:00Z"
    aiIdentity :=
      { aiId := digits 0, modelName := "model", modelVersion := "1", providerId := "provider",
        executionEnvironment := "deterministic" }
    computation :=
      { circuitId := "trade/import-landed-cost", circuitVersion := "1.0.0",
        circuitHash := digits 0, inputHash, outputHash, traceHash, integrityHash }
    proof :=
      { proofSystem := "sha256-deterministic", proofBytes := "00", publicInputs := ["0"],
        verificationKeyId := "key", proofHash := digits 0 } }

/-- The identifier of a name is not empty. -/
theorem uuidv5_ne_empty (name : String) :
    ∃ id, uuidv5 sha vrlNamespace name = some id ∧ id ≠ "" := by
  have hlen : (String.ofList (vrlNamespace.toList.filter (· != '-'))).utf8ByteSize = 32 := by
    decide +kernel
  unfold uuidv5
  dsimp only
  rw [if_neg (not_not_intro hlen)]
  refine ⟨_, rfl, fun hempty => ?_⟩
  have hnil := congrArg String.toList hempty
  rw [String.toList_ofList] at hnil
  simp at hnil

theorem zeros_isValidSHA256 : isValidSHA256 (digits 0) = true := by
  unfold isValidSHA256 isValidHex digits
  simp only [String.toList_ofList]
  decide +kernel

/-- The verifier accepts such a bundle whatever the three texts are. -/
theorem honestBundle_valid (hne : ∀ s, sha.hexdigest s ≠ "")
    (inputHash outputHash traceHash : String) :
    (verify sha (honestBundle sha inputHash outputHash traceHash)).status = some .valid := by
  obtain ⟨id, hid, hidne⟩ := uuidv5_ne_empty sha
    (computeIntegrityHash sha inputHash outputHash traceHash)
  have hintegrity : computeIntegrityHash sha inputHash outputHash traceHash ≠ "" := hne _
  have hdigits := zeros_isValidSHA256
  have hdigitsne : digits 0 ≠ "" := by
    intro hempty
    rw [hempty] at hdigits
    exact absurd hdigits (by decide)
  have hhex : isValidHex "00" = true := by decide +kernel
  rw [status_eq_valid_iff]
  intro c hc
  simp only [requiredChecks, List.mem_cons, List.not_mem_nil, or_false] at hc
  obtain rfl | rfl | rfl | rfl | rfl | rfl | rfl := hc
  · simp only [honestBundle, decide_true]
  · simp [honestBundle, validateSchema, hid, hidne, hdigitsne, hintegrity]
  · simp only [honestBundle, hid, Option.getD_some, decide_true]
  · simp only [honestBundle, decide_true]
  · simp only [honestBundle, hdigits]
  · simp [honestBundle, verifyProof, hdigits, hdigitsne, hhex]
  · simp only [honestBundle, List.all_nil]

/-- Moving text from one hash to the next leaves the integrity hash as it was. -/
theorem honestBundle_moved (x y z traceHash : String) :
    hashedText (honestBundle sha (x ++ y) z traceHash) =
        hashedText (honestBundle sha x (y ++ z) traceHash) ∧
      (honestBundle sha (x ++ y) z traceHash).computation.integrityHash =
        (honestBundle sha x (y ++ z) traceHash).computation.integrityHash ∧
      (honestBundle sha (x ++ y) z traceHash).bundleId =
        (honestBundle sha x (y ++ z) traceHash).bundleId := by
  have htext : x ++ y ++ z ++ traceHash = x ++ (y ++ z) ++ traceHash := by
    simp only [String.append_assoc]
  have hintegrity : computeIntegrityHash sha (x ++ y) z traceHash =
      computeIntegrityHash sha x (y ++ z) traceHash := by
    rw [computeIntegrityHash, computeIntegrityHash, htext]
  refine ⟨htext, hintegrity, ?_⟩
  simp only [honestBundle, hintegrity]

theorem lengthSha_ne_empty (s : String) : lengthSha.hexdigest s ≠ "" := by
  intro hempty
  have hnil := congrArg (fun t => t.toList.length) hempty
  simp [lengthSha] at hnil

/-- 63 hexadecimal digits, of which the number 1. -/
def shortDigits : String := String.ofList (hexFixed 63 1)

/-- Two valid bundles with one identifier, where the last digit of one's input hash is
the first of the other's output hash. -/
theorem moved_digit_accepted :
    let b := honestBundle lengthSha (shortDigits ++ "a") (digits 2) (digits 3)
    let b' := honestBundle lengthSha shortDigits ("a" ++ digits 2) (digits 3)
    CollisionFree lengthSha.hexdigest (hashedText b) (hashedText b') ∧
      CollisionFree (uuidv5 lengthSha vrlNamespace) b.computation.integrityHash
        b'.computation.integrityHash ∧
      (verify lengthSha b).status = some .valid ∧ (verify lengthSha b').status = some .valid ∧
      b.bundleId = b'.bundleId ∧ b.computation.inputHash ≠ b'.computation.inputHash := by
  obtain ⟨htext, hintegrity, hid⟩ :=
    honestBundle_moved lengthSha shortDigits "a" (digits 2) (digits 3)
  refine ⟨fun _ => htext, fun _ => hintegrity, honestBundle_valid lengthSha lengthSha_ne_empty ..,
    honestBundle_valid lengthSha lengthSha_ne_empty .., hid, fun hin => ?_⟩
  have hsize := congrArg String.utf8ByteSize hin
  simp only [honestBundle, String.utf8ByteSize_append] at hsize
  have ha : "a".utf8ByteSize = 1 := rfl
  omega

theorem valid_bundles_bound_iff_moved :
    let b := honestBundle lengthSha (shortDigits ++ "a") (digits 2) (digits 3)
    let b' := honestBundle lengthSha shortDigits ("a" ++ digits 2) (digits 3)
    (b.computation.inputHash = b'.computation.inputHash ∧
        b.computation.outputHash = b'.computation.outputHash ∧
        b.computation.traceHash = b'.computation.traceHash) ↔
      (b.computation.inputHash.utf8ByteSize = b'.computation.inputHash.utf8ByteSize ∧
        b.computation.outputHash.utf8ByteSize = b'.computation.outputHash.utf8ByteSize) := by
  obtain ⟨htext, hintegrity, hid⟩ :=
    honestBundle_moved lengthSha shortDigits "a" (digits 2) (digits 3)
  exact valid_bundles_bound_iff lengthSha (fun _ => htext) (fun _ => hintegrity)
    (honestBundle_valid lengthSha lengthSha_ne_empty ..)
    (honestBundle_valid lengthSha lengthSha_ne_empty ..) hid

end Vrl.Sdk.Go

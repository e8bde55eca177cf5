import Vrl.Sdk.CanonicalAgreement
import Vrl.Sdk.Go.Verifier
import Vrl.Sdk.Python.Verifier
import Vrl.Sdk.TypeScript.Verifier

/-!
# Vrl.Sdk.CommitmentAgreement

The hashes that the three SDKs recompute for a data commitment.

Python and TypeScript hash an object of five members. Go hashes a copy of the
commitment with an empty `commitment_hash`, which is a member of its own there. The
texts are never the same, so neither are the hashes (**`commitment_hashes_differ`**).
-/

open TextCodec

namespace Vrl.Sdk

variable (std : PyStd)

/-! ### One commitment in three SDKs -/

/-- A commitment as the TypeScript SDK reads it. -/
def Python.DataCommitment.toTypeScript (dc : Python.DataCommitment) :
    TypeScript.DataCommitment where
  datasetId := dc.datasetId
  datasetVersion := dc.datasetVersion
  datasetHash := dc.datasetHash
  providerId := dc.providerId
  committedAt := dc.committedAt
  commitmentHash := dc.commitmentHash
  providerSignature := dc.providerSignature

/-- A commitment as the Go SDK reads it: a signature that is absent is empty. -/
def Python.DataCommitment.toGo (dc : Python.DataCommitment) : Go.DataCommitment where
  datasetId := dc.datasetId
  datasetVersion := dc.datasetVersion
  datasetHash := dc.datasetHash
  providerId := dc.providerId
  providerSignature := dc.providerSignature.getD ""
  committedAt := dc.committedAt
  commitmentHash := dc.commitmentHash

/-- The five members that the hash is specified over. -/
def commitmentObject (dc : Python.DataCommitment) : Json :=
  .obj [("committed_at", .str dc.committedAt), ("dataset_hash", .str dc.datasetHash),
    ("dataset_id", .str dc.datasetId), ("dataset_version", .str dc.datasetVersion),
    ("provider_id", .str dc.providerId)]

/-- The hash that the Python SDK recomputes. -/
def pythonCommitmentHash (dc : Python.DataCommitment) : String :=
  Python.computeCommitmentHash std dc.datasetId dc.datasetVersion dc.datasetHash dc.providerId
    dc.committedAt

/-- The hash that the TypeScript SDK recomputes. -/
def typeScriptCommitmentHash (dc : Python.DataCommitment) : String :=
  TypeScript.computeCommitmentHash std.toSha256 dc.toTypeScript.datasetId
    dc.toTypeScript.datasetVersion dc.toTypeScript.datasetHash dc.toTypeScript.providerId
    dc.toTypeScript.committedAt

/-- The hash that the Go SDK recomputes. -/
def goCommitmentHash (dc : Python.DataCommitment) : String :=
  Go.recomputedCommitment std.toSha256 dc.toGo

/-- The three SDKs recompute one hash. -/
def CommitmentHashesAgree (dc : Python.DataCommitment) : Prop :=
  pythonCommitmentHash std dc = typeScriptCommitmentHash std dc ∧
    pythonCommitmentHash std dc = goCommitmentHash std dc

/-! ### The hashed texts -/

/-- The text that Python hashes. -/
def pythonCommitmentText (dc : Python.DataCommitment) : String :=
  Python.canonicalJson (commitmentObject dc)

/-- The text that Go hashes. -/
def goCommitmentText (dc : Python.DataCommitment) : String :=
  Go.canonicalJson { dc.toGo with commitmentHash := "" }.toJson

theorem pythonCommitmentHash_eq (dc : Python.DataCommitment) :
    pythonCommitmentHash std dc = std.hexdigest (pythonCommitmentText dc) := rfl

theorem goCommitmentHash_eq (dc : Python.DataCommitment) :
    goCommitmentHash std dc = std.hexdigest (goCommitmentText dc) := rfl

/-- Python's text begins with `committed_at`. -/
theorem pythonCommitmentText_lead (dc : Python.DataCommitment) :
    ∃ rest, (pythonCommitmentText dc).toList = "\x7b\"committ".toList ++ rest := by
  rw [pythonCommitmentText, Python.canonicalJson, String.toList_ofList, Json.sortedText,
    commitmentObject]
  simp [Json.sortKeys, Json.sortKeysMembers, Json.sortMembers, List.insertionSort, Json.text,
    Json.membersText, StringCode.quoted, StringCode.body, asciiCode, asciiEscape]

/-- Go's text begins with `commitment_hash`, which is never left out. -/
theorem goCommitmentText_lead (dc : Python.DataCommitment) :
    ∃ rest, (goCommitmentText dc).toList = "\x7b\"commitm".toList ++ rest := by
  rw [goCommitmentText, Go.canonicalJson, String.toList_ofList, Json.sortedText,
    Go.DataCommitment.toJson]
  by_cases hsignature : dc.toGo.providerSignature = ""
  · simp [hsignature, Json.sortKeys, Json.sortKeysMembers, Json.sortMembers, List.insertionSort,
      List.orderedInsert, Json.text, Json.membersText, StringCode.quoted, StringCode.body,
      htmlSafeCode, htmlSafeEscape]
  · simp [hsignature, Json.sortKeys, Json.sortKeysMembers, Json.sortMembers, List.insertionSort,
      List.orderedInsert, Json.text, Json.membersText, StringCode.quoted, StringCode.body,
      htmlSafeCode, htmlSafeEscape]

theorem commitmentTexts_differ (dc : Python.DataCommitment) :
    pythonCommitmentText dc ≠ goCommitmentText dc := by
  intro h
  obtain ⟨rest, hpython⟩ := pythonCommitmentText_lead dc
  obtain ⟨rest', hgo⟩ := goCommitmentText_lead dc
  rw [h, hgo] at hpython
  simp at hpython

/-! ### The hashes -/

/-- **No commitment has the same hash in all three SDKs, and none is accepted by both the
Python and the Go SDK**, as long as SHA-256 does not collide on the two texts. -/
theorem commitment_hashes_differ {dc : Python.DataCommitment}
    (hsha : CollisionFree std.hexdigest (pythonCommitmentText dc) (goCommitmentText dc)) :
    ¬ CommitmentHashesAgree std dc ∧
      ¬ (Python.commitmentHolds std dc = true ∧
        Go.recomputedCommitment std.toSha256 dc.toGo = dc.toGo.commitmentHash) := by
  have hne : pythonCommitmentHash std dc ≠ goCommitmentHash std dc :=
    fun h => commitmentTexts_differ dc (hsha h)
  constructor
  · exact fun h => hne h.2
  · rintro ⟨hpython, hgo⟩
    exact hne ((of_decide_eq_true hpython).trans hgo.symm)

/-- A commitment to a version of a dataset. -/
def sampleCommitment : Python.DataCommitment where
  datasetId := "hts"
  datasetVersion := "2026"
  datasetHash := "00"
  providerId := "provider"
  committedAt := "2026-01-01T00:00:00Z"
  commitmentHash := ""

/-- The digests of the texts that the sample is hashed as. -/
def sampleDigests : DigestTable where
  entries :=
    [(pythonCommitmentText sampleCommitment,
        "7321952ddf9f3d6bf695853b1204336ab9966ca68f65def6f3909dc614136b01"),
      (goCommitmentText sampleCommitment,
        "f30f06c06f754536d4a752a1d8d466e79e089d90e44b55d07f31a4e0e8b12ed8")]
  isDigest := by decide +kernel
  distinct := by decide +kernel

/-- The library with these digests. -/
def sampleStd : PyStd := { lengthStd with toSha256 := sampleDigests.sha }

theorem sampleStd_injective : Function.Injective sampleStd.hexdigest := by
  rw [sampleStd]
  exact DigestTable.sha_injective _

theorem commitment_hashes_differ_sample :
    ¬ CommitmentHashesAgree sampleStd sampleCommitment ∧
      ¬ (Python.commitmentHolds sampleStd sampleCommitment = true ∧
        Go.recomputedCommitment sampleStd.toSha256 sampleCommitment.toGo =
          sampleCommitment.toGo.commitmentHash) :=
  commitment_hashes_differ sampleStd (.of_injective sampleStd_injective _ _)

/-- The characters of the sample are plain, and still its hashes differ. -/
theorem sampleCommitment_disagrees :
    AllPlain (commitmentObject sampleCommitment) ∧
      ¬ CommitmentHashesAgree sampleStd sampleCommitment := by
  refine ⟨by decide +kernel, fun h => ?_⟩
  have hgo := h.2
  rw [pythonCommitmentHash_eq, goCommitmentHash_eq] at hgo
  exact commitmentTexts_differ sampleCommitment (sampleStd_injective hgo)

end Vrl.Sdk

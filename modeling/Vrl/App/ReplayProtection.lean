import Vrl.App.Computation
import Vrl.App.Concurrency
import Vrl.Models.RequestHash

/-!
# Vrl.App.ReplayProtection

A request that is persisted already is rejected as a duplicate
(`app/services/evidence_service.py`).

A call that finds its input hash among the committed requests never gets to insert its records
(**`Loc.keepsOut_step`**), and where none of its statements raises it ends with the duplicate
error (**`Loc.rejecting_step`**). So replays are kept out as far as equal requests have equal
input hashes (**`replay_protected_iff`**).
-/

open TextCodec Pydantic

namespace Vrl

open Zk

variable (std : PyStd)

/-! ### A call that finds its duplicate -/

/-- The stages of an attempt that has not inserted records, and is not about to. -/
def Stage.KeepsOut : Stage → Prop
  | .insertRecords _ => False
  | .insertEvent kind _ | .commit kind _ => kind ≠ .persisted
  | _ => True

/-- The call does not persist its records from here. -/
def Loc.KeepsOut : Loc → Prop
  | .inTx (.attempt _) stage => stage.KeepsOut
  | .inTx (.logFailure _) _ => True
  | .returned _ => False
  | .raised _ => True

/-- Where the call stands as long as none of its statements has raised. -/
def Loc.Rejecting (c : Computed) : Loc → Prop
  | .inTx (.attempt _) .start | .inTx (.attempt _) .acquireLock | .inTx (.attempt _) .fetchHead
  | .inTx (.attempt _) (.checkDuplicate _) => True
  | .inTx (.attempt _) (.insertEvent kind _) | .inTx (.attempt _) (.commit kind _) =>
      kind = .rejectedDuplicate
  | .raised exc => exc = c.duplicateError
  | _ => False

/-- The duplicate check finds the input hash. -/
def FindsDuplicate (answer : Answer) : Loc → Prop
  | .inTx _ (.checkDuplicate _) => answer.raised = none → answer.duplicate = true
  | _ => True

variable {std} {c : Computed}

theorem Loc.keepsOut_start (task : Task) : (Loc.inTx task .start).KeepsOut := by
  cases task <;> trivial

theorem keepsOut_afterException (now : DateTime) (exc : Exc) (task : Task) :
    (afterException now exc task).KeepsOut := by
  cases task with
  | logFailure f => trivial
  | attempt n =>
      unfold afterException
      dsimp only
      split
      · trivial
      · split
        · split <;> exact Loc.keepsOut_start _
        · exact Loc.keepsOut_start _

theorem keepsOut_thenInsert {task : Task} {kind : EventKind} (hkind : kind ≠ .persisted)
    (build : Except PyError AuditEventRecord) : (thenInsert task kind build).KeepsOut := by
  cases build with
  | error e => cases task <;> trivial
  | ok record =>
      cases task with
      | attempt n => exact hkind
      | logFailure f => trivial

/-- While a failure is recorded, the call only goes on recording it. -/
theorem Loc.keepsOut_logFailure (answer : Answer) (f : Failure) (stage : Stage) :
    (Vrl.step std c answer (.inTx (.logFailure f) stage)).KeepsOut := by
  cases hr : answer.raised with
  | some e => cases stage <;> simp only [Vrl.step, hr] <;> trivial
  | none =>
      cases stage with
      | fetchHead =>
          simp only [Vrl.step, hr, afterHead]
          exact keepsOut_thenInsert (by decide) _
      | checkDuplicate prevHash =>
          simp only [Vrl.step, hr]
          split
          · exact keepsOut_thenInsert (by decide) _
          · trivial
      | insertRecords prevHash =>
          simp only [Vrl.step, hr, thenInsert]
          cases c.persistedEvent std prevHash <;> trivial
      | insertEvent kind record =>
          simp only [Vrl.step, hr]
          cases kind with
          | persisted =>
              unfold afterInsert
              cases checkPersisted std c { record with id := some answer.auditId } <;> trivial
          | rejectedDuplicate => trivial
          | persistFailed => trivial
      | _ =>
          simp only [Vrl.step, hr]
          trivial

/-- **A step of a call that finds its duplicate does not persist its records.** -/
theorem Loc.keepsOut_step {loc : Loc} {answer : Answer} (h : loc.KeepsOut)
    (hfinds : FindsDuplicate answer loc) : (Vrl.step std c answer loc).KeepsOut := by
  cases loc with
  | returned evidence => exact absurd h (fun h => h)
  | raised exc => trivial
  | inTx task stage =>
      cases task with
      | logFailure f => exact keepsOut_logFailure answer f stage
      | attempt n =>
          have hraised := fun exc => keepsOut_afterException answer.now exc (.attempt n)
          cases hr : answer.raised with
          | some e => cases stage <;> simp only [Vrl.step, hr] <;> first | trivial | exact hraised _
          | none =>
              cases stage with
              | checkDuplicate prevHash =>
                  -- the only way to the insertion of records is closed
                  simp only [Vrl.step, hr, hfinds hr, if_true]
                  exact keepsOut_thenInsert (by decide) _
              | insertRecords prevHash => exact absurd h (fun h => h)
              | insertEvent kind record =>
                  simp only [Vrl.step, hr]
                  cases kind with
                  | persisted => exact absurd rfl h
                  | rejectedDuplicate => exact h
                  | persistFailed => exact h
              | commit kind inserted =>
                  simp only [Vrl.step, hr]
                  cases kind with
                  | persisted => exact absurd rfl h
                  | rejectedDuplicate => trivial
                  | persistFailed => trivial
              | rollback exc =>
                  simp only [Vrl.step, hr]
                  exact hraised exc
              | _ =>
                  simp only [Vrl.step, hr]
                  trivial

/-- The event of a duplicate can be built when its time can be written. -/
theorem duplicateEvent_ok (htime : ∃ text, utcIsoformat c.request.createdAt = .ok text)
    (prevHash : String) : ∃ record, c.duplicateEvent std prevHash = .ok record := by
  have hall : ∀ k v, (k, v) ∈ [("input_hash", PyVal.str c.request.inputHash),
      ("reason", .str "duplicate_input_hash")] → ∃ j, canonicalize std v = .ok j := by
    intro k v hkv
    simp only [List.mem_cons, Prod.mk.injEq, List.not_mem_nil, or_false] at hkv
    obtain ⟨-, rfl⟩ | ⟨-, rfl⟩ := hkv
    · exact ⟨_, rfl⟩
    · exact ⟨_, rfl⟩
  obtain ⟨currentHash, hhash⟩ := computeAuditHash_ok std (canonicalize_dict_ok std hall) htime
    prevHash "calculation_rejected_duplicate" (some c.request.id)
  exact ⟨_, Except.bind_eq_ok_iff.mpr ⟨currentHash, hhash, rfl⟩⟩

/-- **Without errors a call that finds its duplicate goes straight to its rejection.** -/
theorem Loc.rejecting_step {loc : Loc} {answer : Answer} (h : loc.Rejecting c)
    (hok : answer.raised = none) (hfinds : FindsDuplicate answer loc)
    (htime : ∃ text, utcIsoformat c.request.createdAt = .ok text) :
    (Vrl.step std c answer loc).Rejecting c := by
  cases loc with
  | returned evidence => exact absurd h (fun h => h)
  | raised exc => exact h
  | inTx task stage =>
      cases task with
      | logFailure f => exact absurd h (fun h => h)
      | attempt n =>
          cases stage with
          | checkDuplicate prevHash =>
              obtain ⟨record, hrecord⟩ := @duplicateEvent_ok std c htime prevHash
              simp only [Vrl.step, hok, hfinds hok, if_true, hrecord]
              show EventKind.rejectedDuplicate = .rejectedDuplicate
              rfl
          | insertRecords prevHash => exact absurd h (fun h => h)
          | insertEvent kind record =>
              obtain rfl : kind = .rejectedDuplicate := h
              simp only [Vrl.step, hok]
              show EventKind.rejectedDuplicate = .rejectedDuplicate
              rfl
          | commit kind inserted =>
              obtain rfl : kind = .rejectedDuplicate := h
              simp only [Vrl.step, hok]
              show c.duplicateError = c.duplicateError
              rfl
          | rollback exc => exact absurd h (fun h => h)
          | _ =>
              simp only [Vrl.step, hok]
              trivial

/-! ### In the system -/

namespace System

variable (std) {ι : Type} (calls : ι → Computed) [DecidableEq ι]

/-- A step in which no statement of the call raises. -/
def QuietStep (j : ι) (sys sys' : System ι) : Prop :=
  ∃ i answer, sys.Permits calls i answer ∧ (i = j → answer.raised = none) ∧
    sys' = sys.step std calls i answer

/-- From here on the call is rejected: it never returns, and where none of its statements raises
it ends with the duplicate error. -/
structure Rejects (sys : System ι) (j : ι) : Prop where
  not_returned : ∀ sys', Relation.ReflTransGen (Step std calls) sys sys' →
    ∀ evidence, (sys'.sessions j).loc ≠ .returned evidence
  duplicate : ∀ sys', Relation.ReflTransGen (QuietStep std calls j) sys sys' →
    (sys'.sessions j).loc.IsFinal → (sys'.sessions j).loc = .raised (calls j).duplicateError

variable {std calls} {sys : System ι}

/-- A committed request stays committed. -/
theorem mem_requests_step {request : RequestRecord} (h : request ∈ sys.db.requests) (i : ι)
    (answer : Answer) : request ∈ (sys.step std calls i answer).db.requests := by
  show request ∈ (sys.db.insertRows _).requests
  exact Db.mem_requests_insertRows.mpr (.inl h)

omit [DecidableEq ι] in
/-- The check finds what is committed. -/
theorem findsDuplicate_of_permits {i : ι} {answer : Answer} (hperm : sys.Permits calls i answer)
    {request : RequestRecord} (hrequest : request ∈ sys.db.requests)
    (hhash : request.inputHash = (calls i).request.inputHash) :
    FindsDuplicate answer (sys.sessions i).loc := by
  unfold FindsDuplicate
  split
  · next task prevHash hloc =>
      intro hok
      have hanswer := hperm hok
      simp only [statement, hloc, Loc.statement] at hanswer
      rw [hanswer, Db.hasInputHash, List.any_eq_true]
      exact ⟨request, Db.mem_requests_insertRows.mpr (.inl hrequest), by simp [hhash]⟩
  · trivial

/-- What each step of a call keeps that finds its duplicate, the steps of the system keep once
the input hash is committed. -/
theorem keeps_of_committed {j : ι} {request : RequestRecord} {P : Loc → Prop}
    {Good : Answer → Prop}
    (hkeeps : ∀ {loc answer}, P loc → Good answer → FindsDuplicate answer loc →
      P (Vrl.step std (calls j) answer loc))
    (hhash : request.inputHash = (calls j).request.inputHash) {i : ι} {answer : Answer}
    (hperm : sys.Permits calls i answer) (hgood : i = j → Good answer)
    (h : request ∈ sys.db.requests ∧ P (sys.sessions j).loc) :
    request ∈ (sys.step std calls i answer).db.requests ∧
      P ((sys.step std calls i answer).sessions j).loc := by
  obtain ⟨hrequest, hloc⟩ := h
  refine ⟨mem_requests_step hrequest i answer, ?_⟩
  by_cases hji : j = i
  · subst hji
    simp only [step, Function.update_self, Session.step_loc]
    exact hkeeps hloc (hgood rfl) (findsDuplicate_of_permits hperm hrequest hhash)
  · simp only [step, Function.update_of_ne hji]
    exact hloc

/-- **A call that begins when its input hash is committed is rejected.** -/
theorem rejects_of_committed {j : ι} {request : RequestRecord}
    (hrequest : request ∈ sys.db.requests)
    (hhash : request.inputHash = (calls j).request.inputHash) (hinit : sys.sessions j = .init)
    (htime : ∃ text, utcIsoformat (calls j).request.createdAt = .ok text) :
    sys.Rejects std calls j := by
  constructor
  · intro sys' hrun evidence hreturned
    have hinv : request ∈ sys'.db.requests ∧ (sys'.sessions j).loc.KeepsOut := by
      clear hreturned
      induction hrun with
      | refl =>
          rw [hinit]
          exact ⟨hrequest, Loc.keepsOut_start _⟩
      | tail _ hstep ih =>
          obtain ⟨i, answer, hperm, rfl⟩ := hstep
          exact keeps_of_committed (fun h (_ : True) => Loc.keepsOut_step h) hhash hperm
            (fun _ => trivial) ih
    rw [hreturned] at hinv
    exact hinv.2
  · intro sys' hrun hfinal
    have hinv : request ∈ sys'.db.requests ∧ (sys'.sessions j).loc.Rejecting (calls j) := by
      clear hfinal
      induction hrun with
      | refl =>
          rw [hinit]
          exact ⟨hrequest, trivial⟩
      | tail _ hstep ih =>
          obtain ⟨i, answer, hperm, hquiet, rfl⟩ := hstep
          exact keeps_of_committed (fun h hok hfinds => Loc.rejecting_step h hok hfinds htime) hhash
            hperm hquiet ih
    obtain ⟨-, hrejecting⟩ := hinv
    cases hloc : (sys'.sessions j).loc with
    | inTx task stage =>
        rw [hloc] at hfinal
        exact absurd hfinal (fun h => h)
    | returned evidence =>
        rw [hloc] at hrejecting
        exact absurd hrejecting (fun h => h)
    | raised exc =>
        rw [hloc] at hrejecting
        rw [show exc = _ from hrejecting]

end System

/-! ### Replays -/

section Replays

variable (std) (backend : Backend)

/-- Once the request of a call for the first payload is committed, a call for the second one that
begins then is rejected. -/
def PersistedRejects (payload payload' : PyVal) : Prop :=
  ∀ (ι : Type) [DecidableEq ι] (calls : ι → Computed) (sys : System ι) (i j : ι)
    (createdAt createdAt' : DateTime),
    computeEvidence std backend payload createdAt = .ok (calls i) →
    computeEvidence std backend payload' createdAt' = .ok (calls j) →
    (∃ text, utcIsoformat createdAt' = .ok text) →
    (calls i).request ∈ sys.db.requests → sys.sessions j = .init → sys.Rejects std calls j

/-- The two requests have one input hash, so that either is a replay of the other. -/
structure ReplayProtected (payload payload' : PyVal) (r s : ImportCalculationRequest) : Prop where
  hash : canonicalHash std (.dict r.payload) = canonicalHash std (.dict s.payload)
  engine : ∀ response response', calculateImportLandedCost std r = .ok response →
    calculateImportLandedCost std s = .ok response' →
    response.integrity.inputHash = response'.integrity.inputHash
  rejects : PersistedRejects std backend payload payload'
  rejected : PersistedRejects std backend payload' payload

variable {std backend} {payload payload' : PyVal} {r s : ImportCalculationRequest}

/-- The input hash that the engine reports is the hash of the request. -/
theorem inputHash_of_calculate {response : CalculationResponse}
    (hpayload : ImportCalculationRequest.modelValidate std payload = .ok r)
    (h : calculateImportLandedCost std r = .ok response) :
    canonicalHash std (.dict r.payload) = .ok response.integrity.inputHash :=
  (hashesOf_calculation ((calculate_eq_ok_iff (isCanonical_of_calculate hpayload h)).mp h)).input

/-- It is the input hash of the row, which has the time of the call. -/
theorem requestRow_of_computed {createdAt : DateTime} {c : Computed}
    (hpayload : ImportCalculationRequest.modelValidate std payload = .ok r)
    (h : computeEvidence std backend payload createdAt = .ok c) :
    canonicalHash std (.dict r.payload) = .ok c.request.inputHash ∧
      c.request.createdAt = createdAt := by
  obtain ⟨r', response, zkProof, proofBundle, vkHash, hpayload', hresponse, hcomputes⟩ :=
    computeEvidence_inv h
  obtain rfl : r = r' := Except.ok.inj (hpayload.symm.trans hpayload')
  obtain ⟨hrequest, -⟩ : c.request = _ ∧ c.result = _ ∧ c.proof = _ := by
    simpa only [Prod.mk.injEq, buildRecords] using hcomputes.rows
  rw [hrequest]
  exact ⟨inputHash_of_calculate hpayload hresponse, rfl⟩

/-- Requests with one hash are rejected one after the other. -/
theorem persistedRejects_of_hash
    (hpayload : ImportCalculationRequest.modelValidate std payload = .ok r)
    (hpayload' : ImportCalculationRequest.modelValidate std payload' = .ok s)
    (hhash : canonicalHash std (.dict r.payload) = canonicalHash std (.dict s.payload)) :
    PersistedRejects std backend payload payload' := by
  intro ι _ calls sys i j createdAt createdAt' hi hj htime hcommitted hinit
  obtain ⟨hinput, -⟩ := requestRow_of_computed hpayload hi
  obtain ⟨hinput', htime'⟩ := requestRow_of_computed hpayload' hj
  rw [hhash, hinput', Except.ok.injEq] at hinput
  rw [← htime'] at htime
  exact System.rejects_of_committed hcommitted hinput.symm hinit htime

/-- **Replays of a request with equal values are kept out exactly if the signs of freight and
insurance agree.** -/
theorem replay_protected_iff (hinj : Function.Injective std.hexdigest)
    (hpayload : ImportCalculationRequest.modelValidate std payload = .ok r)
    (hpayload' : ImportCalculationRequest.modelValidate std payload' = .ok s)
    (hvalues : EqualValues r s) :
    ReplayProtected std backend payload payload' r s ↔ SameSigns r s := by
  rw [← canonicalHash_request_iff hinj hvalues]
  constructor
  · intro h
    exact h.hash
  · intro hhash
    refine ⟨hhash, ?_, ?_, ?_⟩
    · intro response response' hresponse hresponse'
      have hinput := inputHash_of_calculate hpayload hresponse
      rw [hhash, inputHash_of_calculate hpayload' hresponse', Except.ok.injEq] at hinput
      exact hinput.symm
    · exact persistedRejects_of_hash hpayload hpayload' hhash
    · exact persistedRejects_of_hash hpayload' hpayload hhash.symm

end Replays

/-! ### Free freight, with a sign and without -/

section Sample

/-- The reference request with no freight, written with a minus or without one. -/
def freeRequest (neg : Bool) : ImportCalculationRequest :=
  { referenceRequest "CN" with
    freight := ⟨.finite neg 0 (-2), ⟨neg, 0, rfl, by decide⟩, by cases neg <;> decide⟩ }

/-- What it is hashed as. -/
def freeText (neg : Bool) : String :=
  ((canonicalJson lengthStd (.dict (freeRequest neg).payload)).toOption).getD ""

/-- The digests of the two texts. -/
def freeDigests : DigestTable where
  entries := [
    (freeText false, "68b070a3a8e44b16b5297b01389b7462d074dcc82c88f0dd17e17dbb203404a3"),
    (freeText true, "c05be9ab0cd4df3a8f7c3c75c7426dfeacdb176341815abab974076c567fdf70")]
  isDigest := by decide +kernel
  distinct := by decide +kernel

/-- The library with these digests. -/
def freeStd : PyStd := { lengthStd with toSha256 := freeDigests.sha }

theorem freeStd_injective : Function.Injective freeStd.hexdigest := by
  rw [freeStd]
  exact DigestTable.sha_injective _

theorem freeRequest_isCanonical (neg : Bool) : (freeRequest neg).IsCanonical := by
  cases neg <;> exact ⟨by decide, by decide, by decide, by decide⟩

theorem modelValidate_free (neg : Bool) :
    ImportCalculationRequest.modelValidate freeStd (.dict (freeRequest neg).jsonPayload) =
      .ok (freeRequest neg) :=
  modelValidate_jsonPayload (freeRequest_isCanonical neg)

theorem freeRequest_equalValues : EqualValues (freeRequest true) (freeRequest false) :=
  ⟨rfl, rfl, by decide, by decide, by decide, rfl, rfl⟩

theorem freeRequest_differentSigns : ¬ SameSigns (freeRequest true) (freeRequest false) := by
  intro h
  exact absurd h.freight (by decide)

/-- A freight of `-0.00` makes another request of the one with a freight of `0.00`. -/
theorem signed_zero_is_no_replay :
    ImportCalculationRequest.modelValidate freeStd (.dict (freeRequest true).jsonPayload) =
        .ok (freeRequest true) ∧
      ImportCalculationRequest.modelValidate freeStd (.dict (freeRequest false).jsonPayload) =
        .ok (freeRequest false) ∧
      EqualValues (freeRequest true) (freeRequest false) ∧
      canonicalHash freeStd (.dict (freeRequest true).payload) ≠
        canonicalHash freeStd (.dict (freeRequest false).payload) ∧
      ¬ ReplayProtected freeStd transcriptBackend (.dict (freeRequest true).jsonPayload)
        (.dict (freeRequest false).jsonPayload) (freeRequest true) (freeRequest false) := by
  have hhash : canonicalHash freeStd (.dict (freeRequest true).payload) ≠
      canonicalHash freeStd (.dict (freeRequest false).payload) := by
    rw [ne_eq, canonicalHash_request_iff freeStd_injective freeRequest_equalValues]
    exact freeRequest_differentSigns
  refine ⟨modelValidate_free true, modelValidate_free false, freeRequest_equalValues, hhash, ?_⟩
  intro h
  exact hhash h.hash

theorem replay_protected_iff_free :
    ReplayProtected freeStd transcriptBackend (.dict (freeRequest true).jsonPayload)
        (.dict (freeRequest false).jsonPayload) (freeRequest true) (freeRequest false) ↔
      SameSigns (freeRequest true) (freeRequest false) :=
  replay_protected_iff freeStd_injective (modelValidate_free true) (modelValidate_free false)
    freeRequest_equalValues

end Sample

end Vrl

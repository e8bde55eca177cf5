import Vrl.App.Computation
import Vrl.App.Concurrency
import Vrl.App.VerifiedEvidence

/-!
# Vrl.App.PersistedEvidence

Evidence that was persisted is found valid ever after (`app/services/evidence_service.py`).

What a call has committed stays in the tables (**`stored_of_reachable`**), and the query finds
these rows and no others for the input hash (**`Db.fetch_eq`**). They correspond to the request that
they were computed from, and the events that come later are sealed like the first one.
-/

open TextCodec HashChain Runs

namespace Vrl

open Zk

/-! ### Committed rows -/

/-- A call that returns has just committed its rows. -/
theorem Session.rows_of_returns {std : PyStd} {c : Computed} {s : Session} {answer : Answer}
    {evidence : PersistedEvidenceBundle} (hcons : s.Consistent std c)
    (hopen : ∀ evidence, s.loc ≠ .returned evidence)
    (hreturns : (s.step std c answer).1.loc = .returned evidence) :
    ∃ inserted, (s.step std c answer).2 = c.evidenceRows .persisted ++ [.audit inserted] := by
  rw [Session.step_loc] at hreturns
  obtain ⟨loc, pending⟩ := s
  cases loc with
  | returned evidence' => exact absurd rfl (hopen evidence')
  | raised exc => cases hreturns
  | inTx task stage =>
      obtain ⟨kind, inserted, rfl, hok⟩ :=
        commit_of_returned c hcons.1 (step_moves std c answer task stage) hreturns
      obtain ⟨-, hpending, -⟩ := hcons
      obtain rfl : pending = c.evidenceRows kind ++ [.audit inserted] := hpending
      -- of all commits only that of an attempt to persist returns
      have hkind : kind = .persisted := by
        simp only [Vrl.step, hok] at hreturns
        cases task <;> cases kind <;> first | rfl | cases hreturns
      subst hkind
      refine ⟨inserted, ?_⟩
      simp only [Session.step, Loc.statement, Answer.commits, hok, Option.isNone_none,
        Bool.true_or, if_true]

namespace System

variable (std : PyStd) {ι : Type} (calls : ι → Computed) [DecidableEq ι] {sys : System ι}

/-- The rows of every call that has returned are in the tables. -/
def Stored (sys : System ι) : Prop :=
  ∀ i evidence, (sys.sessions i).loc = .returned evidence →
    ∀ row ∈ (calls i).evidenceRows .persisted, sys.db.Has row

/-- A step keeps the rows of the calls that have returned. -/
theorem stored_step (hcoherent : sys.Coherent std calls) (h : sys.Stored calls) (i : ι)
    (answer : Answer) : (sys.step std calls i answer).Stored calls := by
  have hkeeps : ∀ {row : Row}, sys.db.Has row → (sys.step std calls i answer).db.Has row := by
    intro row hrow
    rw [step, Db.has_insertRows]
    exact .inl hrow
  intro j evidence hreturned row hrow
  by_cases hji : j = i
  · subst hji
    by_cases hopen : ∀ evidence, (sys.sessions j).loc ≠ .returned evidence
    · simp only [step, Function.update_self] at hreturned
      obtain ⟨inserted, hrows⟩ :=
        Session.rows_of_returns (hcoherent.consistent j) hopen hreturned
      rw [step, hrows, Db.has_insertRows]
      exact .inr (List.mem_append_left _ hrow)
    · simp only [ne_eq, not_forall, not_not] at hopen
      obtain ⟨evidence', hloc⟩ := hopen
      exact hkeeps (h j evidence' hloc row hrow)
  · simp only [step, Function.update_of_ne hji] at hreturned
    exact hkeeps (h j evidence hreturned row hrow)

/-- **The rows of a call that has returned are in the tables of every reachable state.** -/
theorem stored_of_reachable (h : Reachable std calls sys) : sys.Stored calls := by
  have hboth : sys.Coherent std calls ∧ sys.Stored calls := by
    refine invariant_of_reachable (P := fun s => s.Coherent std calls ∧ s.Stored calls) ?_ ?_ h
    · rintro s s' ⟨hcoherent, hstored⟩ ⟨i, answer, hperm, rfl⟩
      exact ⟨coherent_step std calls hcoherent hperm, stored_step std calls hcoherent hstored i answer⟩
    · refine ⟨init_coherent std calls, ?_⟩
      intro i evidence hreturned
      cases hreturned
  exact hboth.2

/-- The service is used: some call of `calculate_and_persist` takes a step, or a request is
verified, which reads the tables and writes nothing. -/
inductive ServiceStep (sys : System ι) : System ι → Prop where
  | persist {sys' : System ι} (h : Step std calls sys sys') : ServiceStep sys sys'
  | verify (payload : PyVal) : ServiceStep sys sys

/-- Verifications leave no trace in a run. -/
theorem steps_of_service {sys sys' : System ι}
    (h : Relation.ReflTransGen (ServiceStep std calls) sys sys') :
    Relation.ReflTransGen (Step std calls) sys sys' := by
  induction h with
  | refl => exact .refl
  | tail _ hstep ih =>
      cases hstep with
      | persist hstep => exact ih.tail hstep
      | verify payload => exact ih

end System

/-! ### What the query finds -/

/-- The only element with a value that is taken once. -/
theorem filter_eq_singleton {α β : Type} [BEq β] [LawfulBEq β] {f : α → β} {l : List α} {a : α}
    (h : (l.map f).Nodup) (ha : a ∈ l) : (l.filter fun x => f x == f a) = [a] := by
  have hlength := length_filter_le_one h (f a)
  have hmem : a ∈ l.filter fun x => f x == f a := List.mem_filter.mpr ⟨ha, beq_self_eq_true _⟩
  match hfilter : l.filter fun x => f x == f a with
  | [] =>
      rw [hfilter] at hmem
      exact absurd hmem List.not_mem_nil
  | [x] =>
      rw [hfilter] at hmem
      rw [List.mem_singleton.mp hmem]
  | _ :: _ :: _ =>
      rw [hfilter] at hlength
      simp at hlength

section Fetch

variable {std : PyStd} {db : Db}

/-- **The query finds the rows that belong together.** -/
theorem Db.fetch_eq (hs : db.Sound std) {request : RequestRecord} {result : ResultRecord}
    {proof : ProofRecord} (hrequest : request ∈ db.requests) (hresult : result ∈ db.results)
    (hproof : proof ∈ db.proofs) (hresultOf : result.requestId = request.id)
    (hproofOf : proof.requestId = request.id) :
    db.fetchByInputHash request.inputHash =
      some ⟨request, result, proof, db.latestEventOf request.id⟩ := by
  have hrequests : db.requestsFor request.inputHash = [request] :=
    filter_eq_singleton hs.inputHashes hrequest
  have hresults : (db.results.filter fun s => s.requestId == request.id) = [result] := by
    rw [← hresultOf]
    exact filter_eq_singleton (hs.results ▸ hs.ids) hresult
  have hproofs : (db.proofs.filter fun p => p.requestId == request.id) = [proof] := by
    rw [← hproofOf]
    exact filter_eq_singleton (hs.proofs ▸ hs.ids) hproof
  rw [fetchByInputHash, bundleRows, hrequests, List.flatMap_singleton, hresults,
    List.flatMap_singleton, hproofs]
  rfl

/-- Every event of the log is sealed. -/
theorem Db.isSealed_of_mem (hs : db.Sound std) {event : AuditEventRecord}
    (h : event ∈ db.auditLog) : event.IsSealed std := by
  have hchain : event ∈ db.chain event.chainId := List.mem_filter.mpr ⟨h, beq_self_eq_true _⟩
  exact isSealed_of_linked _ _ _ (hs.isChain event.chainId) event hchain

end Fetch

/-! ### Completeness of verification -/

section Completeness

variable {std : PyStd} {backend : Backend} {ι : Type} {calls : ι → Computed} [DecidableEq ι]

/-- The rows of a call as the query returns them, with any sealed event. -/
theorem corresponds_of_computes {c : Computed} {request : ImportCalculationRequest}
    {response : CalculationResponse} {createdAt : DateTime} {zkProof : Proof std}
    {proofBundle : List (String × PyVal)} {vkHash : String} (hcanonical : request.IsCanonical)
    (hresponse : calculateImportLandedCost std request = .ok response)
    (h : Computes std backend c request response createdAt zkProof proofBundle vkHash)
    (hascii : backend.VerifiesAscii) {auditLog : Option AuditEventRecord}
    (haudit : ∀ event, auditLog = some event → event.IsSealed std) :
    Corresponds std backend request response
      ⟨c.request, { c.result with requestId := c.request.id },
        { c.proof with requestId := c.request.id }, auditLog⟩ := by
  have hvalidProof := isValid_of_bundle std backend h.valid h.bundled (modelValidate_dump zkProof)
  obtain ⟨hrequest, hresult, hproof⟩ : c.request = _ ∧ c.result = _ ∧ c.proof = _ := by
    simpa only [Prod.mk.injEq, buildRecords] using h.rows
  refine corresponds_of_stored hcanonical hresponse ?_ ?_ ?_ ?_ ?_
    (isAscii_proofBlobHex std backend hascii hvalidProof) haudit
  · rw [hrequest]
    exact ⟨rfl, rfl⟩
  · rw [hresult]
    exact ⟨rfl, rfl⟩
  · rw [hproof]
    exact ⟨rfl, hvalidProof.1, rfl, rfl, rfl⟩
  · rw [hproof]
    exact h.valid
  · rw [hproof]
    exact h.bundled

/-- **What a call has returned for a request is found valid in every later state**, also when
the audit log is read later than the evidence. -/
theorem persisted_request_verifies {sys sys' : System ι}
    (hrun : Relation.ReflTransGen (System.ServiceStep std calls) .init sys)
    (hlater : Relation.ReflTransGen (System.ServiceStep std calls) sys sys') {i : ι}
    {payload : PyVal} {createdAt : DateTime}
    (hcomputed : computeEvidence std backend payload createdAt = .ok (calls i))
    {evidence : PersistedEvidenceBundle}
    (hreturned : (sys.sessions i).loc = .returned evidence) (hascii : backend.VerifiesAscii) :
    ∃ response auditChain,
      verifyPersisted std backend sys.db.fetchByInputHash sys'.db.fetchAuditChain payload =
        .ok response ∧
      response.verification.status = .valid ∧ response.auditChain = some auditChain ∧
      auditChain.status = .valid := by
  have hreach : System.Reachable std calls sys := System.steps_of_service std calls hrun
  have hreach' : System.Reachable std calls sys' :=
    hreach.trans (System.steps_of_service std calls hlater)
  have hsound : sys.db.Sound std := (System.coherent_of_reachable std calls hreach).sound
  have hsound' : sys'.db.Sound std := (System.coherent_of_reachable std calls hreach').sound
  have hstored := System.stored_of_reachable std calls hreach i evidence hreturned
  obtain ⟨request, response, zkProof, bundle, vkHash, hrequest, hresponse, hcomputes⟩ :=
    computeEvidence_inv hcomputed
  have hcanonical := isCanonical_of_calculate hrequest hresponse
  have hfetch := Db.fetch_eq hsound (hstored (.request _) (List.mem_cons_self ..))
    (hstored (.result _) (List.mem_cons_of_mem _ (List.mem_cons_self ..)))
    (hstored (.proof _) (List.mem_cons_of_mem _ (List.mem_cons_of_mem _ (List.mem_cons_self ..))))
    rfl rfl
  have haudit : ∀ event, sys.db.latestEventOf (calls i).request.id = some event →
      event.IsSealed std :=
    fun event hevent => Db.isSealed_of_mem hsound (Db.mem_of_latestEventOf hevent).1
  have hcorresponds := corresponds_of_computes hcanonical hresponse hcomputes hascii haudit
  have hhash : (calls i).request.inputHash = response.integrity.inputHash :=
    hcorresponds.inputHash
  rw [hhash] at hfetch
  obtain ⟨auditChain, hchain, hchainValid⟩ := Db.verifyAuditChain_fetched std hsound'
  obtain ⟨hverified, hstatus⟩ := verifyPersisted_valid_iff.mpr ⟨request, response, _, auditChain,
    hrequest, hresponse, hfetch, hchain, hchainValid, hcorresponds, rfl⟩
  exact ⟨_, auditChain, hverified, hstatus, rfl, hchainValid⟩

end Completeness

section Sample

/-- A call that runs on its own is a run of the service. -/
theorem System.steps_solo (std : PyStd) {c : Computed}
    (htime : ∃ s, utcIsoformat c.request.createdAt = .ok s)
    (hrecord : ∀ inserted, c.buildVerifiedTrainingRecord inserted = .ok ()) :
    Relation.ReflTransGen (ServiceStep std fun _ => c) .init (soloAfter std c 7) := by
  have hreach := solo_reachable std htime hrecord (Nat.le_refl 7)
  exact Relation.ReflTransGen.mono (fun _ _ hstep => ServiceStep.persist hstep) _ _ hreach

/-- A shipment from China, verified right after it was persisted. -/
theorem persisted_request_verifies_reference :
    ∃ (c : Computed) (sys : System Unit) (evidence : PersistedEvidenceBundle),
      computeEvidence lengthStd transcriptBackend (.dict (referenceRequest "CN").jsonPayload)
        DateTime.min = .ok c ∧
      (sys.sessions ()).loc = .returned evidence ∧
      ∃ response auditChain,
        verifyPersisted lengthStd transcriptBackend sys.db.fetchByInputHash sys.db.fetchAuditChain
          (.dict (referenceRequest "CN").jsonPayload) = .ok response ∧
        response.verification.status = .valid ∧ response.auditChain = some auditChain ∧
        auditChain.status = .valid := by
  obtain ⟨hchina, response, hresponse, -⟩ :=
    @calculate_reference lengthStd "CN" 329231 (List.mem_cons_self ..)
  have hfull : lengthStd.IsFullLength := lengthSha_isFullLength
  obtain ⟨c, hc⟩ := computeEvidence_ok hfull transcriptBackend_verifiesOwn
    transcriptBackend_reportsCompiledKeys transcriptBackend_compile transcriptBackend_manifest
    transcriptBackend_prove hchina hresponse (modelValidate_jsonPayload hchina) DateTime.min
  obtain ⟨request, _, zkProof, bundle, vkHash, -, -, hcomputes⟩ := computeEvidence_inv hc
  have hcreated : c.request.createdAt = DateTime.min :=
    congrArg (fun rows => rows.1.createdAt) hcomputes.rows
  have htime : ∃ s, utcIsoformat c.request.createdAt = .ok s := by
    refine ⟨"0001-01-01T00:00:00Z", ?_⟩
    rw [hcreated]
    decide +kernel
  have hrun := System.steps_solo lengthStd htime hcomputes.record
  obtain ⟨record, -, -, hreturned⟩ := System.solo_sessions lengthStd htime hcomputes.record
  exact ⟨c, _, _, hc, hreturned, persisted_request_verifies hrun .refl hc hreturned
    transcriptBackend_verifiesAscii⟩

end Sample

end Vrl

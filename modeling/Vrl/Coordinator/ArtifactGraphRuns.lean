import Vrl.Coordinator.ArtifactGraph
import Vrl.Lib.Runs

/-!
# Vrl.Coordinator.ArtifactGraphRuns

What holds of an artifact graph after any calls of `add_artifact`
(`coordinator/artifact_graph.py`).

The edges join stored artifacts and the indexes list each of them once, whatever is called. An
edge leads from an artifact to one that was stored later, unless an artifact names itself: that is
the only way to a cycle (**`graph_wellFormed_iff`**). A call that raises leaves the graph as it was
unless one of its parents is unknown (**`addArtifact_atomic_iff`**).
-/

open Vrl.Zk

namespace Vrl.Coordinator

variable {std : PyStd}

/-! ### Indexes -/

section Indexes

variable {κ : Type} [DecidableEq κ] {index : List (κ × List String)} {key : κ} {id : String}

/-- The ids that an index lists. -/
def listed (index : List (κ × List String)) : List String := index.flatMap (·.2)

theorem listed_appendTo : (listed (appendTo key id index)).Perm (listed index ++ [id]) := by
  induction index with
  | nil => exact .refl _
  | cons entry index ih =>
      obtain ⟨k, ids⟩ := entry
      rw [appendTo]
      by_cases hk : k = key
      · rw [if_pos hk, listed, listed, List.flatMap_cons, List.flatMap_cons, List.append_assoc,
          List.append_assoc]
        exact (List.perm_append_comm).append_left ids
      · rw [if_neg hk, listed, listed, List.flatMap_cons, List.flatMap_cons, List.append_assoc]
        exact ih.append_left ids

/-- An id is listed under the key that it is appended to. -/
theorem lookup_appendTo_self : ∃ ids, (appendTo key id index).lookup key = some ids ∧ id ∈ ids := by
  induction index with
  | nil => exact ⟨[id], by simp [appendTo], List.mem_singleton.mpr rfl⟩
  | cons entry index ih =>
      obtain ⟨k, ids⟩ := entry
      rw [appendTo]
      by_cases hk : k = key
      · exact ⟨ids ++ [id], by simp [hk], by simp⟩
      · obtain ⟨ids', hlookup, hmem⟩ := ih
        exact ⟨ids', by simpa [hk, List.lookup_cons, beq_eq_false_iff_ne.mpr (Ne.symm hk)], hmem⟩

/-- What was listed under a key still is. -/
theorem lookup_appendTo_of_mem {k : κ} {ids : List String} {id' : String}
    (h : index.lookup k = some ids) (hmem : id' ∈ ids) :
    ∃ ids', (appendTo key id index).lookup k = some ids' ∧ id' ∈ ids' := by
  induction index with
  | nil => cases h
  | cons entry index ih =>
      obtain ⟨k', ids'⟩ := entry
      rw [appendTo]
      rw [List.lookup_cons] at h
      by_cases hk : k' = key
      · rw [if_pos hk, List.lookup_cons]
        cases hkk : k == k' with
        | true =>
            rw [hkk] at h
            cases h
            exact ⟨ids ++ [id], rfl, List.mem_append_left _ hmem⟩
        | false =>
            rw [hkk] at h
            exact ⟨ids, h, hmem⟩
      · rw [if_neg hk, List.lookup_cons]
        cases hkk : k == k' with
        | true =>
            rw [hkk] at h
            cases h
            exact ⟨ids, rfl, hmem⟩
        | false =>
            rw [hkk] at h
            exact ih h

/-- The index lists every artifact once, under its key. -/
structure Indexes (keyOf : DeterministicArtifact std → κ)
    (artifacts : List (DeterministicArtifact std)) (index : List (κ × List String)) : Prop where
  once : (listed index).Perm (artifacts.map DeterministicArtifact.artifactId)
  underKey : ∀ a ∈ artifacts, ∃ ids, index.lookup (keyOf a) = some ids ∧ a.artifactId ∈ ids

theorem Indexes.append {keyOf : DeterministicArtifact std → κ}
    {artifacts : List (DeterministicArtifact std)} (h : Indexes keyOf artifacts index)
    (a : DeterministicArtifact std) :
    Indexes keyOf (artifacts ++ [a]) (appendTo (keyOf a) a.artifactId index) := by
  constructor
  · rw [List.map_append]
    exact listed_appendTo.trans (h.once.append_right _)
  · rw [List.forall_mem_append, List.forall_mem_singleton]
    refine ⟨fun b hb => ?_, lookup_appendTo_self⟩
    obtain ⟨ids, hids, hmem⟩ := h.underKey b hb
    exact lookup_appendTo_of_mem hids hmem

end Indexes

/-! ### Well-formed graphs -/

/-- There is an edge between two ids. -/
def IsEdge (g : ArtifactGraph std) (parent child : String) : Prop :=
  ∃ e ∈ g.edges, e.parentArtifactId = parent ∧ e.childArtifactId = child

/-- The edges form no cycle. -/
def Acyclic (g : ArtifactGraph std) : Prop := ∀ id, ¬ Relation.TransGen (IsEdge g) id id

/-- The edges join stored artifacts, and the indexes list every stored artifact once. -/
structure Consistent (g : ArtifactGraph std) : Prop where
  distinct : g.ids.Nodup
  endpoints : ∀ e ∈ g.edges, e.parentArtifactId ∈ g.ids ∧ e.childArtifactId ∈ g.ids
  byType : Indexes DeterministicArtifact.artifactType g.artifacts g.byType
  byProducer : Indexes DeterministicArtifact.producedBy g.artifacts g.byProducer

/-- The edges lead from earlier to later artifacts. -/
def Ordered (g : ArtifactGraph std) : Prop :=
  ∀ e ∈ g.edges, g.ids.idxOf e.parentArtifactId < g.ids.idxOf e.childArtifactId

/-- Then they form no cycle. -/
theorem Ordered.acyclic {g : ArtifactGraph std} (h : Ordered g) : Acyclic g := by
  have hlt : ∀ {p c}, Relation.TransGen (IsEdge g) p c → g.ids.idxOf p < g.ids.idxOf c := by
    intro p c hpath
    induction hpath with
    | single hedge =>
        obtain ⟨e, he, rfl, rfl⟩ := hedge
        exact h e he
    | tail _ hedge ih =>
        obtain ⟨e, he, rfl, rfl⟩ := hedge
        exact ih.trans (h e he)
  intro id hpath
  exact Nat.lt_irrefl _ (hlt hpath)

theorem consistent_empty : Consistent (ArtifactGraph.empty : ArtifactGraph std) where
  distinct := List.nodup_nil
  endpoints := fun _ he => absurd he List.not_mem_nil
  byType := ⟨.refl _, fun _ ha => absurd ha List.not_mem_nil⟩
  byProducer := ⟨.refl _, fun _ ha => absurd ha List.not_mem_nil⟩

theorem ordered_empty : Ordered (ArtifactGraph.empty : ArtifactGraph std) :=
  fun _ he => absurd he List.not_mem_nil

/-! ### Calls -/

/-- The arguments of a call of `add_artifact`. -/
structure AddCall (std : PyStd) where
  artifact : DeterministicArtifact std
  dependsOn : List String

/-- The graph after a call. -/
def AddCall.Step (g : ArtifactGraph std) (call : AddCall std) (g' : ArtifactGraph std) : Prop :=
  g' = (g.addArtifact call.artifact call.dependsOn).1

/-- The call is about a new artifact that names itself, and the loop over the parents gets as far
as that. -/
def AddCall.LinksItself (g : ArtifactGraph std) (call : AddCall std) : Prop :=
  call.artifact.artifactId ∉ g.ids ∧
    Linked (g.store call.artifact).ids call.dependsOn call.artifact.artifactId

section Steps

variable {g g' : ArtifactGraph std} {call : AddCall std}

theorem ids_store (g : ArtifactGraph std) (a : DeterministicArtifact std) :
    (g.store a).ids = g.ids ++ [a.artifactId] := List.map_append

/-- A call with a new artifact, as an equation. -/
theorem step_of_not_mem (hstep : call.Step g g') (hnew : call.artifact.artifactId ∉ g.ids) :
    ∃ edges, g' = { g.store call.artifact with edges } ∧
      ∀ e, e ∈ edges ↔ e ∈ g.edges ∨ ∃ parent,
        Linked (g.store call.artifact).ids call.dependsOn parent ∧
          e = { parentArtifactId := parent, childArtifactId := call.artifact.artifactId } := by
  obtain ⟨edges, result, hcall, hedges, -⟩ := @addArtifact_of_not_mem _ _ _ call.dependsOn hnew
  refine ⟨edges, ?_, hedges⟩
  rw [hstep, hcall]

theorem Linked.mem_ids {known dependsOn : List String} {parent : String}
    (h : Linked known dependsOn parent) : parent ∈ known :=
  h.2 parent h.1 (Std.IsPreorder.le_refl parent)

/-- **Every call keeps the graph consistent**, one that raises too. -/
theorem Consistent.step (h : Consistent g) (hstep : call.Step g g') : Consistent g' := by
  by_cases hmem : call.artifact.artifactId ∈ g.ids
  · rw [hstep, addArtifact_of_mem hmem]
    exact h
  · obtain ⟨edges, rfl, hedges⟩ := step_of_not_mem hstep hmem
    have hids := ids_store g call.artifact
    constructor
    · show (g.store call.artifact).ids.Nodup
      rw [hids, List.nodup_append_comm, List.singleton_append, List.nodup_cons]
      exact ⟨hmem, h.distinct⟩
    · intro e he
      show e.parentArtifactId ∈ (g.store call.artifact).ids ∧
        e.childArtifactId ∈ (g.store call.artifact).ids
      rcases (hedges e).mp he with hold | ⟨parent, hlinked, rfl⟩
      · rw [hids]
        exact ⟨List.mem_append_left _ (h.endpoints e hold).1,
          List.mem_append_left _ (h.endpoints e hold).2⟩
      · exact ⟨hlinked.mem_ids, by simp [hids]⟩
    · exact h.byType.append call.artifact
    · exact h.byProducer.append call.artifact

/-- A call that does not link its artifact to itself keeps the order. -/
theorem Ordered.step (hconsistent : Consistent g) (h : Ordered g) (hstep : call.Step g g')
    (hcond : ¬ call.LinksItself g) : Ordered g' := by
  by_cases hmem : call.artifact.artifactId ∈ g.ids
  · rw [hstep, addArtifact_of_mem hmem]
    exact h
  · obtain ⟨edges, rfl, hedges⟩ := step_of_not_mem hstep hmem
    have hids := ids_store g call.artifact
    intro e he
    show (g.store call.artifact).ids.idxOf e.parentArtifactId <
      (g.store call.artifact).ids.idxOf e.childArtifactId
    rw [hids]
    rcases (hedges e).mp he with hold | ⟨parent, hlinked, rfl⟩
    · rw [List.idxOf_append_of_mem (hconsistent.endpoints e hold).1,
        List.idxOf_append_of_mem (hconsistent.endpoints e hold).2]
      exact h e hold
    · have hparent := hlinked.mem_ids
      rw [hids, List.mem_append, List.mem_singleton] at hparent
      rcases hparent with hparent | rfl
      · rw [List.idxOf_append_of_mem hparent, List.idxOf_append_of_notMem hmem]
        exact Nat.lt_add_right _ (List.idxOf_lt_length_of_mem hparent)
      · exact absurd ⟨hmem, hlinked⟩ hcond

/-- A call that links its artifact to itself makes a cycle. -/
theorem not_acyclic_of_linksItself (hstep : call.Step g g') (h : call.LinksItself g) :
    ¬ Acyclic g' := by
  obtain ⟨edges, rfl, hedges⟩ := step_of_not_mem hstep h.1
  intro hacyclic
  have hedge := (hedges _).mpr (.inr ⟨call.artifact.artifactId, h.2, rfl⟩)
  exact hacyclic call.artifact.artifactId (.single ⟨_, hedge, rfl, rfl⟩)

end Steps

/-- The graph is a directed acyclic graph of stored artifacts, and indexed. -/
structure WellFormed (g : ArtifactGraph std) : Prop where
  acyclic : Acyclic g
  consistent : Consistent g

/-- The indexes and the ends of the edges are right after any calls. -/
theorem consistent_of_run {g : ArtifactGraph std} {calls : List (ArtifactGraph std × AddCall std)}
    (hrun : Runs.Trace (fun g call g' => AddCall.Step g call g') ArtifactGraph.empty calls g) :
    (∀ p ∈ calls, Consistent p.1) ∧ Consistent g := by
  have hkeep : ∀ (t : ArtifactGraph std) (call : AddCall std) u, Consistent t → call.Step t u →
      True → Consistent u := fun t call u ht hstep _ => ht.step hstep
  exact hrun.invariant hkeep consistent_empty fun _ _ => trivial

/-- **A run of calls keeps the graph well-formed exactly if no call links an artifact to
itself.** -/
theorem graph_wellFormed_iff {g : ArtifactGraph std} {calls : List (ArtifactGraph std × AddCall std)}
    (hrun : Runs.Trace (fun g call g' => AddCall.Step g call g') ArtifactGraph.empty calls g) :
    ((∀ p ∈ calls, WellFormed p.1) ∧ WellFormed g) ↔ ∀ p ∈ calls, ¬ p.2.LinksItself p.1 := by
  have hgood : ∀ t : ArtifactGraph std, Consistent t ∧ Ordered t → WellFormed t :=
    fun t ht => ⟨ht.2.acyclic, ht.1⟩
  have hkeep : ∀ (t : ArtifactGraph std) (call : AddCall std) u, Consistent t ∧ Ordered t →
      call.Step t u → ¬ call.LinksItself t → Consistent u ∧ Ordered u :=
    fun t call u ht hstep hcond => ⟨ht.1.step hstep, ht.2.step ht.1 hstep hcond⟩
  have hbreak : ∀ (t : ArtifactGraph std) (call : AddCall std) u, Consistent t ∧ Ordered t →
      call.Step t u → ¬ ¬ call.LinksItself t → ¬ WellFormed u :=
    fun t call u _ hstep hcond hu =>
      not_acyclic_of_linksItself hstep (not_not.mp hcond) hu.acyclic
  exact Runs.Trace.good_iff hgood hkeep hbreak ⟨consistent_empty, ordered_empty⟩ hrun

/-! ### Calls that raise -/

/-- An artifact that was not in the graph before a call can be added after it with all of its
parents, where these are stored. -/
def RetryRecords (before after : ArtifactGraph std) : Prop :=
  ∀ artifact dependsOn, artifact.artifactId ∉ before.ids → (∀ p ∈ dependsOn, p ∈ after.ids) →
    (∃ stored, (after.addArtifact artifact dependsOn).2 = .ok stored) ∧
      ∀ p ∈ dependsOn, IsEdge (after.addArtifact artifact dependsOn).1 p artifact.artifactId

/-- If the call raises, the graph is as before, and a retry records every edge. -/
def AddCall.Atomic (g : ArtifactGraph std) (call : AddCall std) : Prop :=
  ∀ e, (g.addArtifact call.artifact call.dependsOn).2 = .error e →
    (g.addArtifact call.artifact call.dependsOn).1 = g ∧
      RetryRecords g (g.addArtifact call.artifact call.dependsOn).1

/-- A new artifact is recorded with all of its parents, where these are stored. -/
theorem retryRecords_self (g : ArtifactGraph std) : RetryRecords g g := by
  intro artifact dependsOn hnew hparents
  obtain ⟨edges, result, hcall, hedges, hraises⟩ := @addArtifact_of_not_mem _ _ _ dependsOn hnew
  have hknown : ∀ p ∈ dependsOn, p ∈ (g.store artifact).ids := by
    intro p hp
    rw [ids_store]
    exact List.mem_append_left _ (hparents p hp)
  rw [hcall]
  constructor
  · cases result with
    | ok stored => exact ⟨stored, rfl⟩
    | error e =>
        obtain ⟨p, hp, hnot⟩ := hraises.mp ⟨e, rfl⟩
        exact absurd (hknown p hp) hnot
  · intro p hp
    have hlinked : Linked (g.store artifact).ids dependsOn p := ⟨hp, fun q hq _ => hknown q hq⟩
    exact ⟨_, (hedges _).mpr (.inr ⟨p, hlinked, rfl⟩), rfl, rfl⟩

/-- **A call is atomic exactly if its artifact is stored already, or all of its parents are**, where
the artifact itself counts as one that is. -/
theorem addArtifact_atomic_iff (g : ArtifactGraph std) (call : AddCall std) :
    call.Atomic g ↔ call.artifact.artifactId ∈ g.ids ∨
      ∀ p ∈ call.dependsOn, p ∈ g.ids ∨ p = call.artifact.artifactId := by
  by_cases hmem : call.artifact.artifactId ∈ g.ids
  · refine iff_of_true ?_ (.inl hmem)
    intro e _
    rw [addArtifact_of_mem hmem]
    exact ⟨rfl, retryRecords_self g⟩
  · obtain ⟨edges, result, hcall, -, hraises⟩ :=
      @addArtifact_of_not_mem _ _ _ call.dependsOn hmem
    rw [or_iff_right hmem, AddCall.Atomic, hcall]
    have hids := ids_store g call.artifact
    constructor
    · intro hatomic p hp
      by_contra hunknown
      have hnot : p ∉ (g.store call.artifact).ids := by
        rw [hids, List.mem_append, List.mem_singleton]
        exact hunknown
      obtain ⟨e, rfl⟩ := hraises.mpr ⟨p, hp, hnot⟩
      -- the artifact that was stored is still there
      have hsame := congrArg ArtifactGraph.ids (hatomic e rfl).1
      have hlonger : g.ids ++ [call.artifact.artifactId] = g.ids := hids.symm.trans hsame
      simp at hlonger
    · intro hknown e he
      obtain ⟨p, hp, hnot⟩ := hraises.mp ⟨e, he⟩
      rw [hids, List.mem_append, List.mem_singleton] at hnot
      exact absurd (hknown p hp) hnot

section Sample

/-- A result with the given id. -/
def sampleArtifact (artifactId : String) : DeterministicArtifact lengthStd :=
  .verificationResult {
    artifactId
    producedBy := "verifier_agent"
    cycle := 1
    subjectArtifactId := "proof_0"
    verifierBackend := "unit-test"
    status := .valid
    reason := "ok"
    checks := ["demo"]
    metadata := []
    verificationHash := "00" }

/-- The call that adds it with the given parents. -/
def sampleCall (artifactId : String) (dependsOn : List String) : AddCall lengthStd :=
  ⟨sampleArtifact artifactId, dependsOn⟩

/-- A graph without artifacts. -/
def emptyGraph : ArtifactGraph lengthStd := ArtifactGraph.empty

/-- A run of one call. -/
theorem graph_wellFormed_iff_sample :
    ((∀ p ∈ [(emptyGraph, sampleCall "a" [])], WellFormed p.1) ∧
      WellFormed (emptyGraph.addArtifact (sampleArtifact "a") []).1) ↔
        ∀ p ∈ [(emptyGraph, sampleCall "a" [])], ¬ p.2.LinksItself p.1 :=
  graph_wellFormed_iff (.snoc .nil rfl)

/-- **An artifact that names itself becomes its own parent.** -/
theorem self_parent_makes_cycle :
    (∃ stored, (emptyGraph.addArtifact (sampleArtifact "a") ["a"]).2 = .ok stored) ∧
      (emptyGraph.addArtifact (sampleArtifact "a") ["a"]).1.edges =
        [{ parentArtifactId := "a", childArtifactId := "a" }] ∧
      ¬ WellFormed (emptyGraph.addArtifact (sampleArtifact "a") ["a"]).1 := by
  have hedges : (emptyGraph.addArtifact (sampleArtifact "a") ["a"]).1.edges =
      [{ parentArtifactId := "a", childArtifactId := "a" }] := by decide
  refine ⟨⟨_, rfl⟩, hedges, fun h => ?_⟩
  refine h.acyclic "a" (.single ⟨{ parentArtifactId := "a", childArtifactId := "a" }, ?_, rfl, rfl⟩)
  rw [hedges]
  exact List.mem_singleton.mpr rfl

/-- The graph after a call with a known parent and an unknown one, and after the call that adds
what was missing. -/
def repairedGraph : ArtifactGraph lengthStd :=
  let first := (emptyGraph.addArtifact (sampleArtifact "a") []).1
  let failed := (first.addArtifact (sampleArtifact "c") ["a", "b"]).1
  (failed.addArtifact (sampleArtifact "b") []).1

/-- **A call that raises leaves its artifact and an edge behind, and the retry records nothing.** -/
theorem failed_call_is_not_atomic :
    ((emptyGraph.addArtifact (sampleArtifact "a") []).1.addArtifact (sampleArtifact "c")
        ["a", "b"]).2 = .error ⟨.keyError, "Unknown parent artifact b"⟩ ∧
      (repairedGraph.addArtifact (sampleArtifact "c") ["a", "b"]).1.edges =
        [{ parentArtifactId := "a", childArtifactId := "c" }] ∧
      ¬ (sampleCall "c" ["a", "b"]).Atomic (emptyGraph.addArtifact (sampleArtifact "a") []).1 := by
  refine ⟨rfl, by decide, fun hatomic => ?_⟩
  have hsame := congrArg ArtifactGraph.ids (hatomic _ rfl).1
  exact absurd hsame (by decide)

end Sample

end Vrl.Coordinator

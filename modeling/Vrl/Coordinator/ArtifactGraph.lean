import Vrl.Zk.StubProver

/-!
# Vrl.Coordinator.ArtifactGraph

The artifacts of a cycle and what they depend on (`coordinator/artifact_graph.py`).

An artifact is stored and indexed before its parents are looked up, so that an artifact that names
itself finds itself, and a parent that is not there is noticed when the artifact and some of its
edges are in the graph already (**`addArtifact_of_not_mem`**).
-/

open Vrl.Zk Pydantic

namespace Vrl.Coordinator

variable (std : PyStd)

/-! ### Artifacts -/

/-- `ArtifactType`. -/
inductive ArtifactType where
  | circuit
  | trace
  | witness
  | proof
  | verificationResult
  deriving DecidableEq, Repr

/-- `DeterministicArtifact`: one of the five kinds of artifacts. -/
inductive DeterministicArtifact where
  | circuit (circuit : Circuit)
  | trace (trace : Trace std)
  | witness (witness : Witness std)
  | proof (proof : Proof std)
  | verificationResult (result : Zk.VerificationResult)

/-- `model_dump` of a proof, which has its computed fields. -/
def proofDump (p : Proof std) : List (String × PyVal) :=
  p.dump std ++ [("proof_bytes", .str p.proofBlobHex), ("proving_system", .str p.proofSystem),
    ("circuit_hash", .str (p.circuitHash std))]

/-- `model_dump` of a result. -/
def resultDump (r : Zk.VerificationResult) : List (String × PyVal) :=
  [("artifact_type", .str "verification_result"), ("artifact_id", .str r.artifactId),
    ("produced_by", .str r.producedBy), ("cycle", .int r.cycle),
    ("subject_artifact_id", .str r.subjectArtifactId), ("verifier_backend", .str r.verifierBackend),
    ("status", .str r.status.text), ("reason", .str r.reason), ("checks", ofStrings r.checks),
    ("metadata", ofStringDict r.metadata), ("verification_hash", .str r.verificationHash)]

namespace DeterministicArtifact

variable {std}

/-- `artifact_type`. -/
def artifactType : DeterministicArtifact std → ArtifactType
  | .circuit _ => .circuit
  | .trace _ => .trace
  | .witness _ => .witness
  | .proof _ => .proof
  | .verificationResult _ => .verificationResult

/-- `artifact_id`. -/
def artifactId : DeterministicArtifact std → String
  | .circuit c => c.artifactId
  | .trace t => t.artifactId
  | .witness w => w.artifactId
  | .proof p => p.artifactId
  | .verificationResult r => r.artifactId

/-- `produced_by`. -/
def producedBy : DeterministicArtifact std → String
  | .circuit c => c.producedBy
  | .trace t => t.producedBy
  | .witness w => w.producedBy
  | .proof p => p.producedBy
  | .verificationResult r => r.producedBy

/-- `content_hash`, which raises at an integer that is too long. -/
def contentHash : DeterministicArtifact std → Except PyError String
  | .circuit c => Zk.contentHash std c.dump
  | .trace t => Zk.contentHash std (t.dump std)
  | .witness w => Zk.contentHash std (w.dump std)
  | .proof p => Zk.contentHash std (proofDump std p)
  | .verificationResult r => Zk.contentHash std (resultDump r)

end DeterministicArtifact

/-! ### The graph -/

/-- `ArtifactEdge`. -/
structure ArtifactEdge where
  parentArtifactId : String
  childArtifactId : String
  relationship : String := "depends_on"
  deriving DecidableEq, Repr

/-- The order of the edges. -/
def ArtifactEdge.Le (e f : ArtifactEdge) : Prop :=
  e.parentArtifactId < f.parentArtifactId ∨ e.parentArtifactId = f.parentArtifactId ∧
    (e.childArtifactId < f.childArtifactId ∨ e.childArtifactId = f.childArtifactId ∧
      e.relationship ≤ f.relationship)

instance : DecidableRel ArtifactEdge.Le := fun _ _ => inferInstanceAs (Decidable (_ ∨ _))

/-- `index.setdefault(key, []).append(artifact_id)`. -/
def appendTo {κ : Type} [DecidableEq κ] (key : κ) (artifactId : String) :
    List (κ × List String) → List (κ × List String)
  | [] => [(key, [artifactId])]
  | (k, ids) :: index =>
      if k = key then (k, ids ++ [artifactId]) :: index
      else (k, ids) :: appendTo key artifactId index

/-- `ArtifactGraph`. The artifacts are the values of a dictionary that is keyed by their ids. -/
structure ArtifactGraph where
  artifacts : List (DeterministicArtifact std)
  edges : List ArtifactEdge
  byType : List (ArtifactType × List String)
  byProducer : List (String × List String)

variable {std}

namespace ArtifactGraph

/-- `ArtifactGraph.__init__`. -/
def empty : ArtifactGraph std where
  artifacts := []
  edges := []
  byType := [(.circuit, []), (.trace, []), (.witness, []), (.proof, []), (.verificationResult, [])]
  byProducer := []

/-- The ids of the artifacts. -/
def ids (g : ArtifactGraph std) : List String := g.artifacts.map DeterministicArtifact.artifactId

/-- Stores an artifact and lists it in both indexes. -/
def store (g : ArtifactGraph std) (artifact : DeterministicArtifact std) : ArtifactGraph std where
  artifacts := g.artifacts ++ [artifact]
  edges := g.edges
  byType := appendTo artifact.artifactType artifact.artifactId g.byType
  byProducer := appendTo artifact.producedBy artifact.artifactId g.byProducer

end ArtifactGraph

/-- What is returned for an artifact whose id is taken. -/
def checkExisting (existing artifact : DeterministicArtifact std) :
    Except PyError (DeterministicArtifact std) := do
  let existingHash ← existing.contentHash
  let hash ← artifact.contentHash
  if existingHash ≠ hash then
    .error ⟨.valueError, "Artifact collision detected for " ++ artifact.artifactId⟩
  else return existing

/-- `sorted(set(depends_on))`. -/
def sortedParents (dependsOn : List String) : List String := dependsOn.dedup.insertionSort (· ≤ ·)

/-- The loop over the parents: the edges with those that are added, and the parent that it
stops at. -/
def addEdges (known : List String) (child : String) :
    List String → List ArtifactEdge → List ArtifactEdge × Option String
  | [], edges => (edges, none)
  | parent :: parents, edges =>
      if parent ∈ known then
        addEdges known child parents
          (edges ++ [{ parentArtifactId := parent, childArtifactId := child }])
      else (edges, some parent)

/-- `add_artifact`: the graph that is left, and what is returned or raised. -/
def ArtifactGraph.addArtifact (g : ArtifactGraph std) (artifact : DeterministicArtifact std)
    (dependsOn : List String) : ArtifactGraph std × Except PyError (DeterministicArtifact std) :=
  match g.artifacts.find? fun a => a.artifactId = artifact.artifactId with
  | some existing => (g, checkExisting existing artifact)
  | none =>
      let stored := g.store artifact
      match addEdges stored.ids artifact.artifactId (sortedParents dependsOn) stored.edges with
      | (edges, some parent) =>
          ({ stored with edges }, .error ⟨.keyError, "Unknown parent artifact " ++ parent⟩)
      | (edges, none) =>
          ({ stored with edges := edges.insertionSort ArtifactEdge.Le }, .ok artifact)

/-! ### What a call does -/

/-- What is taken from a sorted list while a condition holds, are the elements up to which all
meet it. -/
theorem mem_takeWhile_iff {α : Type} [LE α] [Std.IsPartialOrder α] {p : α → Bool} {l : List α}
    {a : α} (hl : l.Pairwise (· ≤ ·)) :
    a ∈ l.takeWhile p ↔ a ∈ l ∧ ∀ b ∈ l, b ≤ a → p b = true := by
  induction l with
  | nil => simp
  | cons b l ih =>
      rw [List.pairwise_cons] at hl
      rw [List.takeWhile_cons]
      by_cases hb : p b = true
      · rw [if_pos hb, List.mem_cons, ih hl.2, List.mem_cons, List.forall_mem_cons]
        constructor
        · rintro (rfl | ⟨ha, hall⟩)
          · refine ⟨.inl rfl, fun _ => hb, fun c hc hle => ?_⟩
            rwa [Std.IsPartialOrder.le_antisymm c a hle (hl.1 c hc)]
          · exact ⟨.inr ha, fun _ => hb, hall⟩
        · rintro ⟨rfl | ha, -, hall⟩
          · exact .inl rfl
          · exact .inr ⟨ha, hall⟩
      · rw [if_neg hb]
        refine iff_of_false List.not_mem_nil ?_
        rintro ⟨ha, hall⟩
        refine hb (hall b (List.mem_cons_self ..) ?_)
        rcases List.mem_cons.mp ha with rfl | ha
        · exact Std.IsPreorder.le_refl a
        · exact hl.1 a ha

theorem mem_sortedParents {dependsOn : List String} {parent : String} :
    parent ∈ sortedParents dependsOn ↔ parent ∈ dependsOn := by
  rw [sortedParents, List.mem_insertionSort, List.mem_dedup]

theorem pairwise_sortedParents (dependsOn : List String) :
    (sortedParents dependsOn).Pairwise (· ≤ ·) :=
  List.pairwise_insertionSort _ _

/-- The edges that are added are those of the parents in front of the first unknown one. -/
theorem addEdges_eq (known : List String) (child : String) (parents : List String)
    (edges : List ArtifactEdge) :
    addEdges known child parents edges =
      (edges ++ (parents.takeWhile (· ∈ known)).map fun parent =>
          { parentArtifactId := parent, childArtifactId := child },
        parents.find? (· ∉ known)) := by
  induction parents generalizing edges with
  | nil => simp [addEdges]
  | cons parent parents ih =>
      rw [addEdges]
      by_cases hparent : parent ∈ known
      · simp [hparent, ih]
      · simp [hparent]

/-- The parents of an artifact that get an edge: those that are known, and all smaller ones
too. -/
def Linked (known dependsOn : List String) (parent : String) : Prop :=
  parent ∈ dependsOn ∧ ∀ p ∈ dependsOn, p ≤ parent → p ∈ known

section Calls

variable {g : ArtifactGraph std} {artifact : DeterministicArtifact std} {dependsOn : List String}

/-- An artifact whose id is taken leaves the graph as it is. -/
theorem addArtifact_of_mem (h : artifact.artifactId ∈ g.ids) :
    (g.addArtifact artifact dependsOn).1 = g := by
  unfold ArtifactGraph.addArtifact
  split
  · rfl
  · next hfind =>
      obtain ⟨a, ha, hid⟩ := List.mem_map.mp h
      have hne := List.find?_eq_none.mp hfind a ha
      simp [hid] at hne

/-- **What a call with a new artifact does**: it is stored, the edges of its linked parents are
added, and there is an error unless all parents are known by then. -/
theorem addArtifact_of_not_mem (h : artifact.artifactId ∉ g.ids) :
    ∃ edges result, g.addArtifact artifact dependsOn = ({ g.store artifact with edges }, result) ∧
      (∀ e, e ∈ edges ↔ e ∈ g.edges ∨ ∃ parent, Linked (g.store artifact).ids dependsOn parent ∧
        e = { parentArtifactId := parent, childArtifactId := artifact.artifactId }) ∧
      ((∃ e, result = .error e) ↔ ∃ parent ∈ dependsOn, parent ∉ (g.store artifact).ids) := by
  have hfind : g.artifacts.find? (fun a => a.artifactId = artifact.artifactId) = none := by
    rw [List.find?_eq_none]
    intro a ha hid
    exact h (List.mem_map.mpr ⟨a, ha, by simpa using hid⟩)
  have hlinked : ∀ parent, parent ∈ (sortedParents dependsOn).takeWhile
      (· ∈ (g.store artifact).ids) ↔ Linked (g.store artifact).ids dependsOn parent := by
    intro parent
    rw [mem_takeWhile_iff (pairwise_sortedParents dependsOn), Linked]
    simp only [mem_sortedParents, decide_eq_true_eq]
  have hedges : ∀ e, e ∈ g.edges ++ ((sortedParents dependsOn).takeWhile
      (· ∈ (g.store artifact).ids)).map (fun parent =>
        ({ parentArtifactId := parent, childArtifactId := artifact.artifactId } : ArtifactEdge)) ↔
      e ∈ g.edges ∨ ∃ parent, Linked (g.store artifact).ids dependsOn parent ∧
        e = { parentArtifactId := parent, childArtifactId := artifact.artifactId } := by
    intro e
    rw [List.mem_append, List.mem_map]
    simp only [hlinked, eq_comm]
  unfold ArtifactGraph.addArtifact
  rw [hfind]
  simp only [addEdges_eq]
  cases hunknown : (sortedParents dependsOn).find? (· ∉ (g.store artifact).ids) with
  | some parent =>
      refine ⟨_, _, rfl, hedges, iff_of_true ⟨_, rfl⟩ ⟨parent, ?_, ?_⟩⟩
      · exact mem_sortedParents.mp (List.mem_of_find?_eq_some hunknown)
      · simpa using List.find?_some hunknown
  | none =>
      refine ⟨_, _, rfl, ?_, iff_of_false nofun ?_⟩
      · intro e
        rw [List.mem_insertionSort]
        exact hedges e
      · rintro ⟨parent, hparent, hnot⟩
        have hall := List.find?_eq_none.mp hunknown parent (mem_sortedParents.mpr hparent)
        simp [hnot] at hall

end Calls

end Vrl.Coordinator

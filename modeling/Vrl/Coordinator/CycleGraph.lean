import Vrl.Coordinator.CycleRefinement

/-!
# Vrl.Coordinator.CycleGraph

What the artifact graph of a cycle holds (`coordinator/system.py`,
`coordinator/artifact_graph.py`).

Agents that report as consumed only what they were given cannot make the graph raise for a parent
that is unknown, nor link an artifact to itself. So the graph of a cycle is acyclic and all of its
artifacts come from results that the coordinator accepted (**`cycle_graph_sound`**).
-/

open Vrl.Zk

namespace Vrl.Coordinator

variable {std : PyStd}

/-! ### Looking up in a consistent graph -/

/-- The ids that are listed under a type are those of artifacts of that type. -/
def ListsTypes (artifacts : List (DeterministicArtifact std))
    (index : List (ArtifactType × List String)) : Prop :=
  ∀ entry ∈ index, ∀ id ∈ entry.2, ∃ a ∈ artifacts, a.artifactId = id ∧ a.artifactType = entry.1

/-- The results of a loop that succeeds are those of its items. -/
theorem mem_mapM_iff {ε α β : Type} {f : α → Except ε β} {items : List α} {results : List β}
    (h : items.mapM f = .ok results) {b : β} : b ∈ results ↔ ∃ a ∈ items, f a = .ok b := by
  have hall := Except.forall₂_of_mapM h
  clear h
  induction hall with
  | nil => simp
  | @cons item result items results hitem _ ih =>
      simp only [List.mem_cons, exists_eq_or_imp, ih, hitem, Except.ok.injEq]
      rw [eq_comm]

section Lookup

variable {g : ArtifactGraph std}

theorem mem_appendTo {κ : Type} [DecidableEq κ] {key : κ} {id : String}
    {index : List (κ × List String)} {entry : κ × List String}
    (h : entry ∈ appendTo key id index) {id' : String} (hid : id' ∈ entry.2) :
    (∃ old ∈ index, old.1 = entry.1 ∧ id' ∈ old.2) ∨ entry.1 = key ∧ id' = id := by
  induction index with
  | nil =>
      rw [appendTo, List.mem_singleton] at h
      rw [h] at hid ⊢
      exact .inr ⟨rfl, List.mem_singleton.mp hid⟩
  | cons old index ih =>
      obtain ⟨k, ids⟩ := old
      rw [appendTo] at h
      split_ifs at h with hk
      · rcases List.mem_cons.mp h with rfl | hrest
        · rcases List.mem_append.mp hid with hid | hid
          · exact .inl ⟨(k, ids), List.mem_cons_self .., rfl, hid⟩
          · exact .inr ⟨hk, List.mem_singleton.mp hid⟩
        · exact .inl ⟨entry, List.mem_cons_of_mem _ hrest, rfl, hid⟩
      · rcases List.mem_cons.mp h with rfl | hrest
        · exact .inl ⟨(k, ids), List.mem_cons_self .., rfl, hid⟩
        · rcases ih hrest with ⟨old, hold, heq, hmem⟩ | hnew
          · exact .inl ⟨old, List.mem_cons_of_mem _ hold, heq, hmem⟩
          · exact .inr hnew

theorem ListsTypes.append {artifacts : List (DeterministicArtifact std)}
    {index : List (ArtifactType × List String)} (h : ListsTypes artifacts index)
    (artifact : DeterministicArtifact std) :
    ListsTypes (artifacts ++ [artifact])
      (appendTo artifact.artifactType artifact.artifactId index) := by
  intro entry hentry id hid
  rcases mem_appendTo hentry hid with ⟨old, hold, htype, hmem⟩ | ⟨htype, rfl⟩
  · obtain ⟨a, ha, hid', htype'⟩ := h old hold id hmem
    exact ⟨a, List.mem_append_left _ ha, hid', htype'.trans htype⟩
  · exact ⟨artifact, List.mem_append_right _ (List.mem_singleton.mpr rfl), rfl, htype.symm⟩

/-- An artifact is found by its id. -/
theorem find_of_mem (hdistinct : g.ids.Nodup) {a : DeterministicArtifact std}
    (ha : a ∈ g.artifacts) : g.artifacts.find? (fun b => b.artifactId = a.artifactId) = some a := by
  cases hfind : g.artifacts.find? fun b => b.artifactId = a.artifactId with
  | none => exact absurd (List.find?_eq_none.mp hfind a ha) (by simp)
  | some b =>
      have hid : b.artifactId = a.artifactId := by simpa using List.find?_some hfind
      rw [List.inj_on_of_nodup_map hdistinct (List.mem_of_find?_eq_some hfind) ha hid]

theorem stored_of_mem (hdistinct : g.ids.Nodup) {a : DeterministicArtifact std}
    (ha : a ∈ g.artifacts) : g.stored a.artifactId = .ok a := by
  rw [ArtifactGraph.stored, find_of_mem hdistinct ha]

theorem mem_of_stored {id : String} {a : DeterministicArtifact std} (h : g.stored id = .ok a) :
    a ∈ g.artifacts ∧ a.artifactId = id := by
  rw [ArtifactGraph.stored] at h
  cases hfind : g.artifacts.find? fun b => b.artifactId = id with
  | none =>
      rw [hfind] at h
      cases h
  | some b =>
      rw [hfind] at h
      cases h
      exact ⟨List.mem_of_find?_eq_some hfind, by simpa using List.find?_some hfind⟩

/-- **The artifacts of a type**, as far as the indexes are right. -/
theorem artifactsByType_ok (hconsistent : Consistent g) (htypes : ListsTypes g.artifacts g.byType)
    (artifactType : ArtifactType) :
    ∃ artifacts, g.artifactsByType artifactType = .ok artifacts ∧
      ∀ a, a ∈ artifacts ↔ a ∈ g.artifacts ∧ a.artifactType = artifactType := by
  have hentry : ∀ ids, g.byType.lookup artifactType = some ids →
      (artifactType, ids) ∈ g.byType := by
    intro ids hids
    obtain ⟨l₁, l₂, heq, -⟩ := List.lookup_eq_some_iff.mp hids
    rw [heq]
    exact List.mem_append_right _ (List.mem_cons_self ..)
  have hlisted : ∀ id ∈ (g.byType.lookup artifactType).getD [],
      ∃ a ∈ g.artifacts, a.artifactId = id ∧ a.artifactType = artifactType := by
    intro id hid
    cases hlookup : g.byType.lookup artifactType with
    | none =>
        rw [hlookup] at hid
        cases hid
    | some ids =>
        rw [hlookup] at hid
        exact htypes _ (hentry ids hlookup) id hid
  obtain ⟨artifacts, hartifacts⟩ := Except.mapM_ok_iff.mpr fun id hid => by
    obtain ⟨a, ha, rfl, -⟩ := hlisted id hid
    exact ⟨a, stored_of_mem hconsistent.distinct ha⟩
  refine ⟨artifacts, hartifacts, fun a => ?_⟩
  rw [mem_mapM_iff hartifacts]
  constructor
  · rintro ⟨id, hid, hstored⟩
    obtain ⟨b, hb, hidB, htype⟩ := hlisted id hid
    obtain ⟨hmem, hidA⟩ := mem_of_stored hstored
    rw [List.inj_on_of_nodup_map hconsistent.distinct hmem hb (hidA.trans hidB.symm)]
    exact ⟨hb, htype⟩
  · rintro ⟨ha, rfl⟩
    obtain ⟨ids, hlookup, hid⟩ := hconsistent.byType.underKey a ha
    refine ⟨a.artifactId, ?_, stored_of_mem hconsistent.distinct ha⟩
    rw [hlookup]
    exact hid

/-- What `latest` returns is an artifact that it was asked for. -/
theorem latest_eq_ok (hconsistent : Consistent g) (htypes : ListsTypes g.artifacts g.byType)
    {artifactType : ArtifactType} {producedBy : Option String} {cycle : Option Int}
    {a : DeterministicArtifact std} (h : g.latest artifactType producedBy cycle = .ok a) :
    a ∈ g.artifacts ∧ a.artifactType = artifactType := by
  obtain ⟨artifacts, hartifacts, hmem⟩ := artifactsByType_ok hconsistent htypes artifactType
  rw [ArtifactGraph.latest, hartifacts, Except.ok_bind] at h
  dsimp only at h
  split at h
  · next b hlast =>
      cases h
      have hsorted := List.mem_of_getLast? hlast
      rw [List.mem_insertionSort, List.mem_filter, List.mem_filter] at hsorted
      exact (hmem a).mp hsorted.1.1
  · cases h

/-- **There is an artifact to return exactly if one of the type has the producer and the cycle.** -/
theorem latest_ok_iff (hconsistent : Consistent g) (htypes : ListsTypes g.artifacts g.byType)
    {artifactType : ArtifactType} {producedBy : Option String} {cycle : Option Int} :
    (∃ a, g.latest artifactType producedBy cycle = .ok a) ↔
      ∃ a ∈ g.artifacts, a.artifactType = artifactType ∧
        producedBy.all (a.producedBy = ·) = true ∧ cycle.all (a.cycle = ·) = true := by
  obtain ⟨artifacts, hartifacts, hmem⟩ := artifactsByType_ok hconsistent htypes artifactType
  rw [ArtifactGraph.latest, hartifacts, Except.ok_bind]
  dsimp only
  constructor
  · rintro ⟨a, h⟩
    split at h
    · next b hlast =>
        have hsorted := List.mem_of_getLast? hlast
        rw [List.mem_insertionSort, List.mem_filter, List.mem_filter] at hsorted
        obtain ⟨hb, htype⟩ := (hmem b).mp hsorted.1.1
        exact ⟨b, hb, htype, hsorted.1.2, hsorted.2⟩
    · cases h
  · rintro ⟨a, ha, htype, hproducer, hcycle⟩
    split
    · next b hlast => exact ⟨b, rfl⟩
    · next hnone =>
        rw [List.getLast?_eq_none_iff, ← List.length_eq_zero_iff, List.length_insertionSort,
          List.length_eq_zero_iff] at hnone
        have hfound : a ∈ (artifacts.filter fun a => producedBy.all (a.producedBy = ·)).filter
            fun a => cycle.all (a.cycle = ·) :=
          List.mem_filter.mpr ⟨List.mem_filter.mpr ⟨(hmem a).mpr ⟨ha, htype⟩, hproducer⟩, hcycle⟩
        rw [hnone] at hfound
        cases hfound

/-- What a task is given is in the graph and has the type that was required. -/
theorem require_eq_ok (hconsistent : Consistent g) (htypes : ListsTypes g.artifacts g.byType)
    {artifactType : ArtifactType} {producedBy artifactId : Option String} {cycle : Option Int}
    {a : DeterministicArtifact std}
    (h : g.require artifactType producedBy cycle artifactId = .ok a) :
    a ∈ g.artifacts ∧ a.artifactType = artifactType := by
  cases artifactId with
  | none => exact latest_eq_ok hconsistent htypes h
  | some id =>
      obtain ⟨b, hget, h⟩ := Except.bind_eq_ok_iff.mp h
      split_ifs at h with htype
      cases h
      rw [ArtifactGraph.get] at hget
      split at hget
      · next b hfind =>
          cases hget
          exact ⟨List.mem_of_find?_eq_some hfind, htype⟩
      · cases hget

end Lookup

/-! ### Accepted results -/

/-- The limits of a task hold. -/
structure WithinLimits (task : CycleTask) (artifacts : List (DeterministicArtifact std))
    (durationMs : Rat) : Prop where
  types : (artifacts.map DeterministicArtifact.artifactType).Perm task.produces
  time : ∀ limit, task.maxExecutionMs = some limit → durationMs ≤ limit
  sizes : ∀ limit, task.maxArtifactBytes = some limit → ∀ a ∈ artifacts,
    ∃ size : Nat, a.sizeBytes = .ok size ∧ (size : Int) ≤ limit
  constraints : ∀ limit, task.maxCircuitConstraints = some limit → ∀ a ∈ artifacts,
    a.artifactType = .circuit → a.constraintCount ≤ limit

section Limits

variable {team : Team std} {task : CycleTask} {artifacts : List (DeterministicArtifact std)}

theorem typeViolations_eq_nil {types : List ArtifactType} :
    typeViolations task types = [] ↔ types.Perm task.produces := by
  rw [typeViolations]
  split_ifs with h <;> simp [h]

theorem timeViolations_eq_nil {durationMs : Rat} :
    timeViolations team task durationMs = [] ↔
      ∀ limit, task.maxExecutionMs = some limit → durationMs ≤ limit := by
  rw [timeViolations]
  cases task.maxExecutionMs with
  | none => simp
  | some limit => by_cases h : limit < durationMs <;> simp [h, not_lt.mp]

theorem sizeViolations_eq_nil (h : sizeViolations task artifacts = .ok []) :
    ∀ limit, task.maxArtifactBytes = some limit → ∀ a ∈ artifacts,
      ∃ size : Nat, a.sizeBytes = .ok size ∧ (size : Int) ≤ limit := by
  intro limit hlimit a ha
  rw [sizeViolations, hlimit] at h
  obtain ⟨violations, hviolations, h⟩ := Except.bind_eq_ok_iff.mp h
  have hnil : violations.flatten = [] := Except.ok.inj h
  obtain ⟨violation, hviolation⟩ := Except.mapM_ok_iff.mp ⟨violations, hviolations⟩ a ha
  have hempty : violation = [] :=
    List.flatten_eq_nil_iff.mp hnil violation ((mem_mapM_iff hviolations).mpr ⟨a, ha, hviolation⟩)
  obtain ⟨size, hsize, hviolation⟩ := Except.bind_eq_ok_iff.mp hviolation
  refine ⟨size, hsize, ?_⟩
  by_contra hlt
  rw [if_pos (not_le.mp hlt)] at hviolation
  cases hviolation
  cases hempty

theorem complexityViolations_eq_nil (h : complexityViolations task artifacts = []) :
    ∀ limit, task.maxCircuitConstraints = some limit → ∀ a ∈ artifacts,
      a.artifactType = .circuit → a.constraintCount ≤ limit := by
  intro limit hlimit a ha htype
  rw [complexityViolations, hlimit] at h
  have hempty := List.flatMap_eq_nil_iff.mp h a ha
  by_contra hlt
  rw [if_pos ⟨htype, not_le.mp hlt⟩] at hempty
  cases hempty

/-- **What is behind a success**: a report of the agent that is one, within the limits of the
task. -/
theorem execute_success {assignment : Agent × PreparedTask std} {result : CycleResult std}
    (h : execute team assignment = .ok result) (hstatus : result.status = .success) :
    ∃ report, team.run assignment.1 assignment.2 = .ok report ∧ report.status = .success ∧
      result.producedArtifacts = report.producedArtifacts ∧
      WithinLimits assignment.2.toCycleTask report.producedArtifacts report.durationMs ∧
      result.consumedArtifactIds = if report.consumedArtifactIds = [] then
        assignment.2.consumedArtifactIds else report.consumedArtifactIds := by
  rw [execute] at h
  cases hrun : team.run assignment.1 assignment.2 with
  | error text =>
      rw [hrun] at h
      cases h
      cases hstatus
  | ok report =>
      rw [hrun] at h
      obtain ⟨sizes, hsizes, h⟩ := Except.bind_eq_ok_iff.mp h
      dsimp only at h
      split at h
      · next hviolations =>
          cases h
          simp only [List.append_eq_nil_iff] at hviolations
          obtain ⟨⟨⟨⟨-, htypes⟩, htime⟩, rfl⟩, hcomplexity⟩ := hviolations
          refine ⟨report, rfl, hstatus, rfl, ?_, rfl⟩
          exact ⟨typeViolations_eq_nil.mp htypes, timeViolations_eq_nil.mp htime,
            sizeViolations_eq_nil hsizes, complexityViolations_eq_nil hcomplexity⟩
      · cases h
        cases hstatus

end Limits

/-! ### Prepared tasks -/

section Prepared

variable {g g' : ArtifactGraph std}

theorem mem_addInput {artifact a : DeterministicArtifact std}
    {bucket : List (ArtifactType × List (DeterministicArtifact std))}
    {entry : ArtifactType × List (DeterministicArtifact std)}
    (h : entry ∈ addInput artifact bucket) (ha : a ∈ entry.2) :
    (∃ old ∈ bucket, old.1 = entry.1 ∧ a ∈ old.2) ∨ a = artifact ∧ entry.1 = a.artifactType := by
  induction bucket with
  | nil =>
      rw [addInput, List.mem_singleton] at h
      rw [h] at ha ⊢
      cases List.mem_singleton.mp ha
      exact .inr ⟨rfl, rfl⟩
  | cons old bucket ih =>
      obtain ⟨artifactType, artifacts⟩ := old
      rw [addInput] at h
      split_ifs at h with htype
      · rcases List.mem_cons.mp h with rfl | hrest
        · rcases List.mem_append.mp ha with ha | ha
          · exact .inl ⟨(artifactType, artifacts), List.mem_cons_self .., rfl, ha⟩
          · cases List.mem_singleton.mp ha
            exact .inr ⟨rfl, htype⟩
        · exact .inl ⟨entry, List.mem_cons_of_mem _ hrest, rfl, ha⟩
      · rcases List.mem_cons.mp h with rfl | hrest
        · exact .inl ⟨(artifactType, artifacts), List.mem_cons_self .., rfl, ha⟩
        · rcases ih hrest with ⟨old, hold, heq, hmem⟩ | hnew
          · exact .inl ⟨old, List.mem_cons_of_mem _ hold, heq, hmem⟩
          · exact .inr hnew

theorem mem_foldl_addInput {artifacts : List (DeterministicArtifact std)}
    {bucket : List (ArtifactType × List (DeterministicArtifact std))}
    {entry : ArtifactType × List (DeterministicArtifact std)}
    (h : entry ∈ artifacts.foldl (fun bucket artifact => addInput artifact bucket) bucket)
    {a : DeterministicArtifact std} (ha : a ∈ entry.2) :
    (∃ old ∈ bucket, old.1 = entry.1 ∧ a ∈ old.2) ∨
      a ∈ artifacts ∧ entry.1 = a.artifactType := by
  induction artifacts generalizing bucket with
  | nil => exact .inl ⟨entry, h, rfl, ha⟩
  | cons artifact artifacts ih =>
      rcases ih h with ⟨old, hold, heq, hmem⟩ | ⟨hmem, htype⟩
      · rcases mem_addInput hold hmem with ⟨older, holder, heq', hmem'⟩ | ⟨rfl, htype⟩
        · exact .inl ⟨older, holder, heq'.trans heq, hmem'⟩
        · exact .inr ⟨List.mem_cons_self .., heq.symm.trans htype⟩
      · exact .inr ⟨List.mem_cons_of_mem _ hmem, htype⟩

/-- What a task is given is in the graph, under its type. -/
structure GivenFrom (g : ArtifactGraph std) (task : PreparedTask std) : Prop where
  inputs : ∀ entry ∈ task.artifactInputs, ∀ a ∈ entry.2,
    a ∈ g.artifacts ∧ a.artifactType = entry.1
  consumed : ∀ id ∈ task.consumedArtifactIds, id ∈ g.ids

theorem GivenFrom.mono {task : PreparedTask std} (h : GivenFrom g task)
    (hsub : g.artifacts ⊆ g'.artifacts) : GivenFrom g' task where
  inputs entry hentry a ha := ⟨hsub (h.inputs entry hentry a ha).1, (h.inputs entry hentry a ha).2⟩
  consumed id hid := List.map_subset _ hsub (h.consumed id hid)

/-- **A prepared task is given artifacts of the graph.** -/
theorem prepareTask_given (hconsistent : Consistent g) (htypes : ListsTypes g.artifacts g.byType)
    {task : CycleTask} {prepared : PreparedTask std} (h : prepareTask task g = .ok prepared) :
    GivenFrom g prepared := by
  obtain ⟨artifacts, hartifacts, h⟩ := Except.bind_eq_ok_iff.mp h
  have hmem : ∀ a ∈ artifacts, a ∈ g.artifacts := by
    intro a ha
    obtain ⟨requirement, -, hrequire⟩ := (mem_mapM_iff hartifacts).mp ha
    exact (require_eq_ok hconsistent htypes hrequire).1
  cases h
  constructor
  · intro entry hentry a ha
    rcases mem_foldl_addInput hentry ha with ⟨old, hold, -⟩ | ⟨hmem', htype⟩
    · cases hold
    · exact ⟨hmem a hmem', htype.symm⟩
  · intro id hid
    obtain ⟨a, ha, rfl⟩ := List.mem_map.mp (mem_sortedParents.mp hid)
    exact List.mem_map_of_mem (hmem a ha)

end Prepared

/-! ### What the graph holds -/

/-- Agents report as consumed only what their tasks were given. -/
def Team.ReportsGiven (team : Team std) : Prop :=
  ∀ agent task report, team.run agent task = .ok report →
    ∀ id ∈ report.consumedArtifactIds, id ∈ task.consumedArtifactIds

/-- A result of one of the tasks that the coordinator accepts. -/
structure Accepted (team : Team std) (tasks : List CycleTask) (g : ArtifactGraph std)
    (assignment : Agent × PreparedTask std) (result : CycleResult std) : Prop where
  task : assignment.2.toCycleTask ∈ tasks
  given : GivenFrom g assignment.2
  assigned : assign team assignment.2 = .ok assignment.1
  executed : execute team assignment = .ok result
  success : result.status = .success

/-- The graph is consistent and its edges lead from earlier to later artifacts. Each artifact is
one of an accepted result, and an edge leads to it from an artifact that its task was given. -/
structure Sound (team : Team std) (tasks : List CycleTask) (g : ArtifactGraph std) : Prop where
  consistent : Consistent g
  ordered : Ordered g
  types : ListsTypes g.artifacts g.byType
  provenance : ∀ a ∈ g.artifacts, ∃ assignment result, Accepted team tasks g assignment result ∧
    a ∈ result.producedArtifacts
  edges : ∀ e ∈ g.edges, ∃ assignment result, Accepted team tasks g assignment result ∧
    (∃ a ∈ result.producedArtifacts, a.artifactId = e.childArtifactId) ∧
    e.parentArtifactId ∈ assignment.2.consumedArtifactIds

section Sound

variable {team : Team std} {tasks : List CycleTask} {g g' : ArtifactGraph std}
  {assignment : Agent × PreparedTask std} {result : CycleResult std}

theorem Accepted.mono (h : Accepted team tasks g assignment result)
    (hsub : g.artifacts ⊆ g'.artifacts) : Accepted team tasks g' assignment result :=
  { h with given := h.given.mono hsub }

/-- What an accepted result consumed was given to its task. -/
theorem Accepted.consumed (h : Accepted team tasks g assignment result)
    (hreports : team.ReportsGiven) :
    ∀ id ∈ result.consumedArtifactIds, id ∈ assignment.2.consumedArtifactIds := by
  obtain ⟨report, hrun, -, -, -, hconsumed⟩ := execute_success h.executed h.success
  intro id hid
  rw [hconsumed] at hid
  split_ifs at hid
  · exact hid
  · exact hreports _ _ _ hrun id hid

theorem sound_empty : Sound team tasks (ArtifactGraph.empty : ArtifactGraph std) where
  consistent := consistent_empty
  ordered := ordered_empty
  types := by
    intro entry hentry id hid
    simp only [ArtifactGraph.empty, List.mem_cons, List.not_mem_nil, or_false] at hentry
    rcases hentry with rfl | rfl | rfl | rfl | rfl <;> cases hid
  provenance _ ha := absurd ha List.not_mem_nil
  edges _ he := absurd he List.not_mem_nil

/-- **An artifact of an accepted result keeps the graph sound**, and is refused only where its id
is taken. -/
theorem Sound.addArtifact (h : Sound team tasks g) (hreports : team.ReportsGiven)
    (haccepted : Accepted team tasks g assignment result) {a : DeterministicArtifact std}
    (ha : a ∈ result.producedArtifacts) :
    Sound team tasks (g.addArtifact a result.consumedArtifactIds).1 ∧
      g.artifacts ⊆ (g.addArtifact a result.consumedArtifactIds).1.artifacts ∧
      a.artifactId ∈ (g.addArtifact a result.consumedArtifactIds).1.ids ∧
      ∀ e, (g.addArtifact a result.consumedArtifactIds).2 = .error e →
        ∃ b ∈ g.artifacts, b.artifactId = a.artifactId ∧ checkExisting b a = .error e := by
  have hgiven : ∀ id ∈ result.consumedArtifactIds, id ∈ g.ids := fun id hid =>
    haccepted.given.consumed id (haccepted.consumed hreports id hid)
  by_cases hmem : a.artifactId ∈ g.ids
  · rw [addArtifact_of_mem hmem]
    refine ⟨h, fun _ hb => hb, hmem, fun e he => ?_⟩
    obtain ⟨b, hb, hid⟩ := List.mem_map.mp hmem
    rw [ArtifactGraph.addArtifact, ← hid, find_of_mem h.consistent.distinct hb] at he
    exact ⟨b, hb, hid, he⟩
  · obtain ⟨edges, outcome, hcall, hedges, hraises⟩ :=
      @addArtifact_of_not_mem _ _ _ result.consumedArtifactIds hmem
    have hstep : AddCall.Step g ⟨a, result.consumedArtifactIds⟩
        (g.addArtifact a result.consumedArtifactIds).1 := rfl
    have hlinks : ¬ AddCall.LinksItself g ⟨a, result.consumedArtifactIds⟩ :=
      fun hlink => hmem (hgiven _ hlink.2.1)
    have hconsistent := h.consistent.step hstep
    have hordered := h.ordered.step h.consistent hstep hlinks
    have hsub : g.artifacts ⊆ (g.store a).artifacts := List.subset_append_left _ _
    have hself : a ∈ (g.store a).artifacts :=
      List.mem_append_right _ (List.mem_singleton.mpr rfl)
    have haccepted' : Accepted team tasks { g.store a with edges } assignment result :=
      haccepted.mono hsub
    rw [hcall] at hconsistent hordered ⊢
    refine ⟨⟨hconsistent, hordered, h.types.append a, ?_, ?_⟩, hsub, ?_, ?_⟩
    · intro b hb
      rcases List.mem_append.mp hb with hb | hb
      · obtain ⟨assignment', result', hold, hmem'⟩ := h.provenance b hb
        exact ⟨assignment', result', hold.mono hsub, hmem'⟩
      · cases List.mem_singleton.mp hb
        exact ⟨assignment, result, haccepted', ha⟩
    · intro e he
      rcases (hedges e).mp he with hold | ⟨parent, hlinked, rfl⟩
      · obtain ⟨assignment', result', hold, hrest⟩ := h.edges e hold
        exact ⟨assignment', result', hold.mono hsub, hrest⟩
      · exact ⟨assignment, result, haccepted', ⟨a, ha, rfl⟩,
          haccepted.consumed hreports parent hlinked.1⟩
    · exact List.mem_map_of_mem hself
    · intro e he
      obtain ⟨parent, hparent, hnot⟩ := hraises.mp ⟨e, he⟩
      exact absurd (List.map_subset _ hsub (hgiven parent hparent)) hnot

/-- An artifact of an accepted result cannot be told apart from a stored one, or has its id
without being the same. -/
def Collides (team : Team std) (tasks : List CycleTask) (g : ArtifactGraph std) (e : PyError) :
    Prop :=
  ∃ assignment result a b, Accepted team tasks g assignment result ∧
    a ∈ result.producedArtifacts ∧ b ∈ g.artifacts ∧ b.artifactId = a.artifactId ∧
    checkExisting b a = .error e

theorem Sound.addArtifacts (h : Sound team tasks g) (hreports : team.ReportsGiven)
    (haccepted : Accepted team tasks g assignment result)
    {artifacts : List (DeterministicArtifact std)} (hsub : artifacts ⊆ result.producedArtifacts)
    {stop : Except PyError Unit}
    (hadd : addArtifacts result.consumedArtifactIds artifacts g = (g', stop)) :
    Sound team tasks g' ∧ g.artifacts ⊆ g'.artifacts ∧
      (stop = .ok () → ∀ a ∈ artifacts, a.artifactId ∈ g'.ids) ∧
      ∀ e, stop = .error e → Collides team tasks g' e := by
  induction artifacts generalizing g with
  | nil =>
      cases hadd
      exact ⟨h, fun _ ha => ha, fun _ _ ha => absurd ha List.not_mem_nil,
        (fun _ he => by cases he)⟩
  | cons a artifacts ih =>
      have ha := hsub (List.mem_cons_self ..)
      obtain ⟨hsound, hgrow, hstored, hcollides⟩ := h.addArtifact hreports haccepted ha
      rw [Coordinator.addArtifacts] at hadd
      rcases hcall : g.addArtifact a result.consumedArtifactIds with ⟨g₁, outcome⟩
      rw [hcall] at hadd hsound hgrow hstored hcollides
      cases outcome with
      | error e =>
          cases hadd
          refine ⟨hsound, hgrow, (fun hok => by cases hok), fun e' he' => ?_⟩
          cases he'
          obtain ⟨b, hb, hid, hcheck⟩ := hcollides e rfl
          exact ⟨assignment, result, a, b, haccepted.mono hgrow, ha, hgrow hb, hid, hcheck⟩
      | ok stored =>
          obtain ⟨hsound', hgrow', hstored', hcollides'⟩ := ih hsound (haccepted.mono hgrow)
            (fun b hb => hsub (List.mem_cons_of_mem _ hb)) hadd
          refine ⟨hsound', fun b hb => hgrow' (hgrow hb), fun hok => ?_, hcollides'⟩
          exact List.forall_mem_cons.mpr ⟨List.map_subset _ hgrow' hstored, hstored' hok⟩

/-- **Recording accepted results keeps the graph sound.** -/
theorem Sound.recordResults {st st' : CycleState std} (h : Sound team tasks st.graph)
    (hreports : team.ReportsGiven) {results : List (CycleResult std)}
    (haccepted : ∀ result ∈ results, result.status = .success →
      ∃ assignment, Accepted team tasks st.graph assignment result)
    {stop : Except PyError Unit} (hrecord : recordResults results st = (st', stop)) :
    Sound team tasks st'.graph ∧ st.graph.artifacts ⊆ st'.graph.artifacts ∧
      (stop = .ok () → ∀ result ∈ results, result.status = .success →
        ∀ a ∈ result.producedArtifacts, a.artifactId ∈ st'.graph.ids) ∧
      ∀ e, stop = .error e → Collides team tasks st'.graph e := by
  induction results generalizing st with
  | nil =>
      cases hrecord
      exact ⟨h, fun _ ha => ha, fun _ _ hr => absurd hr List.not_mem_nil,
        (fun _ he => by cases he)⟩
  | cons result results ih =>
      obtain ⟨hfirst, hrest⟩ := List.forall_mem_cons.mp haccepted
      rw [Coordinator.recordResults] at hrecord
      cases hstatus : result.status with
      | failure =>
          rw [hstatus] at hrecord
          obtain ⟨hsound, hgrow, hstored, hcollides⟩ := @ih { st with
            terminalFailures := st.terminalFailures ++ [result.taskId]
            results := st.results ++ [result] } h hrest hrecord
          refine ⟨hsound, hgrow, fun hok => List.forall_mem_cons.mpr ⟨fun hs => ?_, hstored hok⟩,
            hcollides⟩
          rw [hstatus] at hs
          cases hs
      | success =>
          obtain ⟨assignment, hassignment⟩ := hfirst hstatus
          rw [hstatus] at hrecord
          dsimp only at hrecord
          rcases hadd : Coordinator.addArtifacts result.consumedArtifactIds
            result.producedArtifacts st.graph with ⟨graph, outcome⟩
          rw [hadd] at hrecord
          obtain ⟨hsound, hgrow, hstored, hcollides⟩ :=
            h.addArtifacts hreports hassignment (fun _ ha => ha) hadd
          cases outcome with
          | error e =>
              cases hrecord
              exact ⟨hsound, hgrow, (fun hok => by cases hok), hcollides⟩
          | ok _ =>
              obtain ⟨hsound', hgrow', hstored', hcollides'⟩ := @ih { st with
                completed := st.completed ++ [result.taskId]
                results := st.results ++ [result]
                graph } hsound (fun r hr hs => by
                  obtain ⟨assignment', hassignment'⟩ := hrest r hr hs
                  exact ⟨assignment', hassignment'.mono hgrow⟩) hrecord
              refine ⟨hsound', fun b hb => hgrow' (hgrow hb), fun hok => ?_, hcollides'⟩
              exact List.forall_mem_cons.mpr
                ⟨fun _ a ha => List.map_subset _ hgrow' (hstored rfl a ha), hstored' hok⟩

/-- The results of a pass are accepted where they are successes. -/
theorem accepted_of_pass {st : CycleState std} (hsound : Sound team tasks st.graph)
    (hpending : st.pending ⊆ tasks) {scan : CycleScan std}
    (hscan : scanTasks team st = .ok scan) {results : List (CycleResult std)}
    (hexecute : executeAssignments team scan.readyAssignments = .ok results) :
    ∀ result ∈ results, result.status = .success →
      ∃ assignment ∈ scan.readyAssignments, Accepted team tasks st.graph assignment result := by
  intro result hresult hstatus
  obtain ⟨assignment, hmem, hrun⟩ := (mem_mapM_iff hexecute).mp hresult
  have hready := (team.asCompleted_perm _).mem_iff.mp hmem
  have henv : team.environment.controlDecision = team.controlDecision := rfl
  obtain ⟨task, htask, hassignment⟩ := (scanTasks_ok henv hscan).2 assignment hready
  refine ⟨assignment, hready, ?_, ?_, hassignment.assigned, hrun, hstatus⟩
  · rw [prepareTask_toCycleTask hassignment.prepared]
    exact hpending htask
  · exact prepareTask_given hsound.consistent hsound.types hassignment.prepared

/-! ### Whole runs -/

/-- What the passes keep, a run keeps. -/
theorem cycleLoop_induction {P : CycleState std → Prop}
    {Q : CycleState std → Except (Place × PyError) Unit → Prop}
    (hempty : ∀ st, P st → st.pending = [] → Q st (.ok ()))
    (hended : ∀ st st' stop, P st → cyclePass team st = .ended st' stop → Q st' stop)
    (hnext : ∀ st st', P st → cyclePass team st = .next st' → P st') (st : CycleState std) :
    P st → Q (cycleLoop team st).1 (cycleLoop team st).2 := by
  induction st using cycleLoop.induct team with
  | case1 st hpending =>
      intro hst
      rw [cycleLoop, if_pos hpending]
      exact hempty st hst hpending
  | case2 st hpending st' stop hpass =>
      intro hst
      rw [cycleLoop, if_neg hpending]
      split
      · next st₁ stop₁ hpass₁ => exact hended st st₁ stop₁ hst hpass₁
      · next st₁ hpass₁ =>
          rw [hpass] at hpass₁
          cases hpass₁
  | case3 st hpending st' hpass ih =>
      intro hst
      rw [cycleLoop, if_neg hpending]
      split
      · next st₁ stop₁ hpass₁ =>
          rw [hpass] at hpass₁
          cases hpass₁
      · next st₁ hpass₁ =>
          rw [hpass] at hpass₁
          cases hpass₁
          exact ih (hnext st st' hst hpass)

/-- Between two passes: the pending tasks are some of those given, and the graph is sound. -/
structure SoundState (team : Team std) (tasks : List CycleTask) (st : CycleState std) : Prop where
  pending : st.pending ⊆ tasks
  graph : Sound team tasks st.graph

theorem SoundState.scanned {st : CycleState std} (h : SoundState team tasks st)
    (scan : CycleScan std) : SoundState team tasks (st.scanned scan) where
  pending _ ht := h.pending (List.mem_of_mem_filter ht)
  graph := h.graph

theorem SoundState.next {st st' : CycleState std} (hreports : team.ReportsGiven)
    (h : SoundState team tasks st) (hpass : cyclePass team st = .next st') :
    SoundState team tasks st' := by
  obtain ⟨scan, results, hscan, -, hexecute, hrecord⟩ := cyclePass_next hpass
  have haccepted : ∀ result ∈ results, result.status = .success →
      ∃ assignment, Accepted team tasks (st.scanned scan).graph assignment result := by
    intro result hresult hstatus
    obtain ⟨assignment, -, hassignment⟩ :=
      accepted_of_pass h.graph h.pending hscan hexecute result hresult hstatus
    exact ⟨assignment, hassignment⟩
  refine ⟨?_, ((h.scanned scan).graph.recordResults hreports haccepted hrecord).1⟩
  rw [(recordResults_ok hrecord).1]
  exact (h.scanned scan).pending

theorem SoundState.ended {st st' : CycleState std} {stop : Except (Place × PyError) Unit}
    (hreports : team.ReportsGiven) (h : SoundState team tasks st)
    (hpass : cyclePass team st = .ended st' stop) :
    Sound team tasks st'.graph ∧
      ∀ e, stop = .error (.recording, e) → Collides team tasks st'.graph e := by
  obtain ⟨⟨place, e⟩, hscan, rfl, rfl⟩ | ⟨scan, e, -, rfl, -, rfl⟩ |
    ⟨scan, results, e, hscan, hexecute, hrecord, rfl⟩ | ⟨scan, -, -, rfl, rfl⟩ :=
      cyclePass_ended hpass
  · refine ⟨h.graph, fun e' he' => ?_⟩
    cases he'
    obtain ⟨-, -, -, ⟨hplace, -⟩ | ⟨hplace, -⟩⟩ := scanTasks_error hscan <;> cases hplace
  · exact ⟨h.graph, fun e' he' => by cases he'⟩
  · have haccepted : ∀ result ∈ results, result.status = .success →
        ∃ assignment, Accepted team tasks (st.scanned scan).graph assignment result := by
      intro result hresult hstatus
      obtain ⟨assignment, -, hassignment⟩ :=
        accepted_of_pass h.graph h.pending hscan hexecute result hresult hstatus
      exact ⟨assignment, hassignment⟩
    obtain ⟨hsound, -, -, hcollides⟩ :=
      (h.scanned scan).graph.recordResults hreports haccepted hrecord
    refine ⟨hsound, fun e' he' => ?_⟩
    cases he'
    exact hcollides e rfl
  · refine ⟨h.graph, fun e' he' => ?_⟩
    split at he' <;> cases he'

theorem mem_of_mem_foldl_putCycleTask {tasks pending : List CycleTask} {task : CycleTask}
    (h : task ∈ tasks.foldl putCycleTask pending) : task ∈ pending ∨ task ∈ tasks := by
  induction tasks generalizing pending with
  | nil => exact .inl h
  | cons t tasks ih =>
      rcases ih h with hmem | hmem
      · rw [putCycleTask] at hmem
        split_ifs at hmem
        · obtain ⟨s, hs, heq⟩ := List.mem_map.mp hmem
          split_ifs at heq
          · exact .inr (heq ▸ List.mem_cons_self ..)
          · exact .inl (heq ▸ hs)
        · rcases List.mem_append.mp hmem with hmem | hmem
          · exact .inl hmem
          · exact .inr (List.mem_singleton.mp hmem ▸ List.mem_cons_self ..)
      · exact .inr (List.mem_cons_of_mem _ hmem)

theorem soundState_start : SoundState team tasks (startCycle std tasks) where
  pending _ ht := (mem_of_mem_foldl_putCycleTask ht).resolve_left List.not_mem_nil
  graph := sound_empty

/-- **The graph of a cycle is acyclic and consistent, holds only what accepted results produced
within the limits of their tasks, and is left so by an exception**; recording raises only where
two artifacts share an id. -/
theorem cycle_graph_sound (hreports : team.ReportsGiven) {tasks : List CycleTask}
    {final : CycleState std} {stop : Except (Place × PyError) Unit}
    (hrun : executeCycle team tasks = (final, stop)) :
    WellFormed final.graph ∧ Sound team tasks final.graph ∧
      ∀ e, stop = .error (.recording, e) → Collides team tasks final.graph e := by
  obtain ⟨hsound, hcollides⟩ := @cycleLoop_induction std team (SoundState team tasks)
    (fun final stop => Sound team tasks final.graph ∧
      ∀ e, stop = .error (.recording, e) → Collides team tasks final.graph e)
    (fun st hst _ => ⟨hst.graph, fun e he => by cases he⟩)
    (fun st st' stop hst hpass => hst.ended hreports hpass)
    (fun st st' hst hpass => hst.next hreports hpass) _ soundState_start
  rw [← executeCycle, hrun] at hsound hcollides
  exact ⟨⟨hsound.ordered.acyclic, hsound.consistent⟩, hsound, hcollides⟩

end Sound

section Sample

theorem length_noConstraints : (0 : Int) = ([] : List Zk.CircuitConstraint).length := rfl

/-- A circuit without constraints. -/
def sampleCircuit (producedBy : String) : DeterministicArtifact lengthStd :=
  .circuit {
    artifactId := "circuit_" ++ producedBy
    producedBy
    cycle := 1
    name := "import_landed_cost"
    description := ""
    framework := "plonk"
    publicInputs := []
    privateInputs := []
    constraints := []
    constraintCount := 0
    complexityBudget := 64
    counted := length_noConstraints }

theorem perm_assigned (assignments : List (Agent × PreparedTask lengthStd)) :
    assignments.Perm assignments := .refl _

/-- A team in which only the architect and the circuit engineer work, and only in the first
cycle. -/
def circuitTeam (agents : List Agent) : Team lengthStd where
  agents
  run agent task :=
    if task.cycle = 1 ∧ (agent.agentId = "zk_architect" ∨ agent.agentId = "circuit_engineer") then
      .ok {
        status := .success
        producedArtifacts := [sampleCircuit agent.agentId]
        consumedArtifactIds := task.consumedArtifactIds }
    else .error "not available"
  controlDecision _ := ⟨false, .none⟩
  asCompleted assignments := assignments
  asCompleted_perm := perm_assigned
  roundedText _ := ""
  limitText _ := ""

theorem circuitTeam_run {agents : List Agent} {agent : Agent} {task : PreparedTask lengthStd}
    {report : AgentReport lengthStd} (h : (circuitTeam agents).run agent task = .ok report) :
    task.cycle = 1 ∧ (agent.agentId = "zk_architect" ∨ agent.agentId = "circuit_engineer") ∧
      report.producedArtifacts = [sampleCircuit agent.agentId] ∧
      report.consumedArtifactIds = task.consumedArtifactIds := by
  simp only [circuitTeam] at h
  split_ifs at h with hruns
  cases h
  exact ⟨hruns.1, hruns.2, rfl, rfl⟩

theorem circuitTeam_reportsGiven (agents : List Agent) : (circuitTeam agents).ReportsGiven := by
  intro agent task report h id hid
  rwa [(circuitTeam_run h).2.2.2] at hid

/-- Two tasks, the second of which refines the circuit of the first. -/
def circuitTasks : List CycleTask :=
  [{ taskId := "design", domain := .architecture, cycle := 1, produces := [.circuit] },
    { taskId := "refine", domain := .circuit, dependsOn := ["design"], cycle := 1,
      produces := [.circuit],
      artifactRequirements := [{ artifactType := .circuit, producedBy := some "zk_architect" }] }]

theorem cycle_graph_sound_circuits : ∃ final stop,
    executeCycle (circuitTeam [⟨"zk_architect", .architecture⟩, ⟨"circuit_engineer", .circuit⟩])
      circuitTasks = (final, stop) ∧ WellFormed final.graph := by
  rcases hrun : executeCycle (circuitTeam [⟨"zk_architect", .architecture⟩,
    ⟨"circuit_engineer", .circuit⟩]) circuitTasks with ⟨final, stop⟩
  exact ⟨final, stop, rfl, (cycle_graph_sound (circuitTeam_reportsGiven _) hrun).1⟩

end Sample

end Vrl.Coordinator

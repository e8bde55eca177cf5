import Vrl.Coordinator.Cycle
import Vrl.Coordinator.Schedule

/-!
# Vrl.Coordinator.CycleRefinement

A cycle is a run of the scheduler (`coordinator/system.py`).

Which tasks succeed and in which order they complete depends on the artifacts, the scheduler of
`Vrl.Coordinator.System` only asks an environment. The environment of a cycle is read off the
results that it ends with: every task is executed once at most, so these say all that the scheduler
will ask (**`cycle_refines_scheduler`**).
-/

namespace Vrl.Coordinator

variable {std : PyStd}

/-! ### The environment of a run -/

/-- The ids of the results. -/
def resultIds (results : List (CycleResult std)) : List String := results.map (·.taskId)

/-- The environment in which the results come about: a task succeeds if it has a result that
does, and tasks complete in the order of their results. -/
def Team.environmentOf (team : Team std) (results : List (CycleResult std)) : Environment where
  controlDecision := team.controlDecision
  succeeds task := results.any fun result =>
    decide (result.taskId = task.taskId) && decide (result.status = .success)
  asCompleted tasks := tasks.insertionSort fun s t =>
    (resultIds results).idxOf s.taskId ≤ (resultIds results).idxOf t.taskId
  asCompleted_perm _ := List.perm_insertionSort _ _

/-- The tasks that have a result or are pending have distinct ids. -/
def Distinct (st : CycleState std) : Prop :=
  (resultIds st.results ++ st.pending.map (·.taskId)).Nodup

section Execution

variable {team : Team std}

theorem enforceTaskConstraints_taskId {task : PreparedTask std} {result result' : CycleResult std}
    (h : enforceTaskConstraints team task result = .ok result') :
    result'.taskId = result.taskId := by
  obtain ⟨sizes, -, h⟩ := Except.bind_eq_ok_iff.mp h
  dsimp only at h
  split_ifs at h <;> cases h <;> rfl

/-- A result is one of the task that was assigned. -/
theorem execute_taskId {assignment : Agent × PreparedTask std} {result : CycleResult std}
    (h : execute team assignment = .ok result) : result.taskId = assignment.2.taskId := by
  rw [execute] at h
  cases hrun : team.run assignment.1 assignment.2 with
  | error text =>
      rw [hrun] at h
      cases h
      rfl
  | ok report =>
      rw [hrun] at h
      exact enforceTaskConstraints_taskId h

theorem executeAssignments_forall₂ {assignments : List (Agent × PreparedTask std)}
    {results : List (CycleResult std)} (h : executeAssignments team assignments = .ok results) :
    List.Forall₂ (fun assignment result => execute team assignment = .ok result)
      (team.asCompleted assignments) results :=
  Except.forall₂_of_mapM h

/-- The results of a pass are those of its tasks, as they completed. -/
theorem executeAssignments_ids {assignments : List (Agent × PreparedTask std)}
    {results : List (CycleResult std)} (h : executeAssignments team assignments = .ok results) :
    resultIds results =
      (team.asCompleted assignments).map fun assignment => assignment.2.taskId := by
  have hall := executeAssignments_forall₂ h
  rw [resultIds]
  clear h
  generalize team.asCompleted assignments = order at hall ⊢
  induction hall with
  | nil => rfl
  | cons hexecute _ ih => rw [List.map_cons, List.map_cons, execute_taskId hexecute, ih]

theorem executeAssignments_perm {assignments : List (Agent × PreparedTask std)}
    {results : List (CycleResult std)} (h : executeAssignments team assignments = .ok results) :
    (resultIds results).Perm (assignments.map fun assignment => assignment.2.taskId) := by
  rw [executeAssignments_ids h]
  exact (team.asCompleted_perm assignments).map _

end Execution

/-! ### One pass -/

section Pass

variable {team : Team std} {st st' : CycleState std}

/-- The ready tasks of a scan have distinct ids among those that are pending, and are removed. -/
theorem scan_ready_ids {scan : CycleScan std} (hscan : scanTasks team st = .ok scan) :
    (scan.readyAssignments.map fun assignment => assignment.2.taskId).Subperm
        (st.pending.map (·.taskId)) ∧
      ∀ assignment ∈ scan.readyAssignments, assignment.2.taskId ∈ scan.toRemove := by
  have henv : team.environment.controlDecision = team.controlDecision := rfl
  have hschedule := (scanTasks_ok henv hscan).1
  obtain ⟨ready, blocked, removed, hext⟩ := scanPending_extends team.environment st.schedule
  have hready : scan.readyAssignments.map (fun assignment => assignment.2.toTask) = ready := by
    have heq := hext.ready_eq
    rwa [← hschedule, List.nil_append] at heq
  have hids : scan.readyAssignments.map (fun assignment => assignment.2.taskId) =
      ready.map (·.taskId) := by
    rw [← hready, List.map_map]
    rfl
  have hpending : (st.schedule.pending.map (·.taskId)) = st.pending.map (·.taskId) := by
    rw [CycleState.schedule, List.map_map]
    rfl
  refine ⟨?_, fun assignment hmem => ?_⟩
  · rw [hids, ← hpending]
    exact (hext.ready_sublist.map _).subperm.trans ((sortTasks_perm _).map _).subperm
  · have hmem' : assignment.2.toTask ∈ (scanPending team.environment st.schedule).ready := by
      rw [← hschedule]
      exact List.mem_map_of_mem hmem
    have hremove := (mem_ready team.environment hmem').2
    rwa [← hschedule] at hremove

/-- **A pass keeps the ids distinct.** -/
theorem Distinct.next (hdistinct : Distinct st) (h : cyclePass team st = .next st') :
    Distinct st' := by
  obtain ⟨scan, results, hscan, -, hexecute, hrecord⟩ := cyclePass_next h
  obtain ⟨hpending, hresults, -⟩ := recordResults_ok hrecord
  obtain ⟨hsub, hremove⟩ := scan_ready_ids hscan
  have hperm := executeAssignments_perm hexecute
  have hresultIds : resultIds st'.results = resultIds st.results ++ resultIds results := by
    rw [hresults, resultIds, List.map_append]
    rfl
  have hrest : st'.pending = st.pending.filter fun task => task.taskId ∉ scan.toRemove := hpending
  rw [Distinct, List.nodup_append] at hdistinct
  obtain ⟨hold, hnodup, hapart⟩ := hdistinct
  have hmem : ∀ id ∈ resultIds results, id ∈ st.pending.map (·.taskId) ∧ id ∈ scan.toRemove := by
    intro id hid
    have hid' := hperm.mem_iff.mp hid
    obtain ⟨assignment, hassignment, rfl⟩ := List.mem_map.mp hid'
    exact ⟨hsub.subset hid', hremove assignment hassignment⟩
  have hleft : ∀ id ∈ st'.pending.map (·.taskId),
      id ∈ st.pending.map (·.taskId) ∧ id ∉ scan.toRemove := by
    intro id hid
    rw [hrest] at hid
    obtain ⟨task, htask, rfl⟩ := List.mem_map.mp hid
    obtain ⟨htask, hnot⟩ := List.mem_filter.mp htask
    exact ⟨List.mem_map_of_mem htask, of_decide_eq_true hnot⟩
  have hleftNodup : (st'.pending.map (·.taskId)).Nodup := by
    rw [hrest]
    exact hnodup.sublist (List.filter_sublist.map _)
  rw [Distinct, hresultIds, List.append_assoc, List.nodup_append]
  refine ⟨hold, List.nodup_append.mpr ⟨?_, hleftNodup, ?_⟩, ?_⟩
  · obtain ⟨ids, hperm', hsublist⟩ := hsub
    exact hperm.nodup_iff.mpr (hperm'.nodup_iff.mp (hnodup.sublist hsublist))
  · rintro id hid _ hid' rfl
    exact (hleft id hid').2 (hmem id hid).2
  · rintro id hid _ hid' rfl
    rcases List.mem_append.mp hid' with hnew | hpend
    · exact hapart id hid id (hmem id hnew).1 rfl
    · exact hapart id hid id (hleft id hpend).1 rfl

/-! ### The environment agrees with a pass -/

/-- In a list without repetitions, what comes later has the greater index. -/
theorem pairwise_idxOf {α : Type} [DecidableEq α] {before l after : List α}
    (h : (before ++ l ++ after).Nodup) :
    l.Pairwise fun a b => (before ++ l ++ after).idxOf a ≤ (before ++ l ++ after).idxOf b := by
  have hl : l.Nodup := (h.sublist (List.sublist_append_left _ _)).sublist
    (List.sublist_append_right _ _)
  have hidx : ∀ a ∈ l, (before ++ l ++ after).idxOf a = before.length + l.idxOf a := by
    intro a ha
    have hnot : a ∉ before := fun hmem => (List.nodup_append.mp
      (h.sublist (List.sublist_append_left _ _))).2.2 a hmem a ha rfl
    rw [List.idxOf_append_of_mem (List.mem_append_right _ ha), List.idxOf_append_of_notMem hnot]
  rw [List.pairwise_iff_getElem]
  intro i j hi hj hij
  rw [hidx _ (List.getElem_mem hi), hidx _ (List.getElem_mem hj), hl.idxOf_getElem,
    hl.idxOf_getElem]
  omega

/-- The results of a pass, among those that the run ends with. -/
structure PassResults (team : Team std) (assignments : List (Agent × PreparedTask std))
    (results final : List (CycleResult std)) : Prop where
  executed : executeAssignments team assignments = .ok results
  among : ∃ before after, final = before ++ results ++ after
  distinct : (resultIds final).Nodup

section Agreement

variable {assignments : List (Agent × PreparedTask std)} {results final : List (CycleResult std)}

/-- A result is found again by its id. -/
theorem eq_of_mem_final (hdistinct : (resultIds final).Nodup) {r r' : CycleResult std}
    (hr : r ∈ final) (hr' : r' ∈ final) (hid : r.taskId = r'.taskId) : r = r' :=
  List.inj_on_of_nodup_map hdistinct hr hr' hid

theorem environmentOf_succeeds (hdistinct : (resultIds final).Nodup) {r : CycleResult std}
    (hr : r ∈ final) {task : Task} (hid : r.taskId = task.taskId) :
    (team.environmentOf final).succeeds task = decide (r.status = .success) := by
  rw [Bool.eq_iff_iff, decide_eq_true_eq]
  show (final.any _ = true) ↔ _
  rw [List.any_eq_true]
  constructor
  · rintro ⟨r', hr', h⟩
    rw [Bool.and_eq_true, decide_eq_true_eq, decide_eq_true_eq] at h
    rw [eq_of_mem_final hdistinct hr hr' (hid.trans h.1.symm)]
    exact h.2
  · intro hstatus
    refine ⟨r, hr, ?_⟩
    rw [Bool.and_eq_true, decide_eq_true_eq, decide_eq_true_eq]
    exact ⟨hid, hstatus⟩

theorem outcomes_of_executed {order : List (Agent × PreparedTask std)}
    (hdistinct : (resultIds final).Nodup)
    (hall : List.Forall₂ (fun assignment result => execute team assignment = .ok result) order
      results)
    (hmem : ∀ r ∈ results, r ∈ final) :
    order.map ((fun task => ⟨task.taskId, if (team.environmentOf final).succeeds task then
        .success else .failure⟩) ∘ fun assignment => assignment.2.toTask) =
      results.map CycleResult.outcome := by
  induction hall with
  | nil => rfl
  | @cons assignment result order results hexecute _ ih =>
      have hid := execute_taskId hexecute
      have hsucceeds : (team.environmentOf final).succeeds assignment.2.toTask = _ :=
        environmentOf_succeeds hdistinct (hmem result (List.mem_cons_self ..)) hid
      rw [List.map_cons, List.map_cons, ih fun r hr => hmem r (List.mem_cons_of_mem _ hr)]
      congr 1
      rw [Function.comp_apply, hsucceeds, CycleResult.outcome, hid]
      cases result.status <;> rfl

/-- **The scheduler executes the ready tasks of a pass as the team does.** -/
theorem PassResults.executeReadySet (h : PassResults team assignments results final) :
    executeReadySet (team.environmentOf final)
      (assignments.map fun assignment => assignment.2.toTask) =
        results.map CycleResult.outcome := by
  obtain ⟨before, after, hfinal⟩ := h.among
  have hdistinct := h.distinct
  have hids := executeAssignments_ids h.executed
  have hresultIds : resultIds final = resultIds before ++ resultIds results ++ resultIds after := by
    rw [hfinal, resultIds, List.map_append, List.map_append]
    rfl
  -- the tasks in the order in which the team completes them are sorted for the environment
  have horder : (team.environmentOf final).asCompleted
      (assignments.map fun assignment => assignment.2.toTask) =
        (team.asCompleted assignments).map fun assignment => assignment.2.toTask := by
    have hperm := (team.asCompleted_perm assignments).map fun assignment => assignment.2.toTask
    have hnodup : (resultIds results).Nodup := by
      rw [hresultIds] at hdistinct
      exact (hdistinct.sublist (List.sublist_append_left _ _)).sublist
        (List.sublist_append_right _ _)
    have hmap : ((team.asCompleted assignments).map fun assignment => assignment.2.toTask).map
        (·.taskId) = resultIds results := by
      rw [hids, List.map_map]
      rfl
    refine List.Perm.eq_of_pairwise ?_ (List.pairwise_insertionSort _ _) ?_
      ((List.perm_insertionSort _ _).trans hperm.symm)
    · intro s t hs ht hst hts
      have hs' := hperm.symm.mem_iff.mp ((List.perm_insertionSort _ _).mem_iff.mp hs)
      have hidS : s.taskId ∈ resultIds final := by
        rw [hresultIds, ← hmap]
        exact List.mem_append_left _ (List.mem_append_right _ (List.mem_map_of_mem hs'))
      have hid : s.taskId = t.taskId :=
        (List.idxOf_inj hidS).mp (Nat.le_antisymm hst hts)
      exact List.inj_on_of_nodup_map (hmap ▸ hnodup) hs' ht hid
    · have hpairwise := pairwise_idxOf (hresultIds ▸ hdistinct)
      rw [← hresultIds, ← hmap, List.pairwise_map] at hpairwise
      exact hpairwise
  have hmem : ∀ r ∈ results, r ∈ final := by
    intro r hr
    rw [hfinal]
    exact List.mem_append_left _ (List.mem_append_right _ hr)
  rw [Coordinator.executeReadySet, horder, List.map_map]
  exact outcomes_of_executed hdistinct (executeAssignments_forall₂ h.executed) hmem

/-- **A pass that leads to another one is a pass of the scheduler** in the environment that is
read off any later results. -/
theorem cyclePass_next_refines (hdistinct : (resultIds final).Nodup)
    (h : cyclePass team st = .next st') (hpre : st'.results <+: final) :
    pass (team.environmentOf final) st.schedule = .next st'.schedule := by
  obtain ⟨scan, results, hscan, hready, hexecute, hrecord⟩ := cyclePass_next h
  obtain ⟨-, hresults, hschedule⟩ := recordResults_ok hrecord
  have henv : (team.environmentOf final).controlDecision = team.controlDecision := rfl
  have hbase := (scanTasks_ok henv hscan).1
  obtain ⟨after, hafter⟩ := hpre
  have hpass : PassResults team scan.readyAssignments results final :=
    ⟨hexecute, ⟨st.results, after, by rw [← hafter, hresults]; rfl⟩, hdistinct⟩
  have hne : (scanPending (team.environmentOf final) st.schedule).ready ≠ [] := by
    rw [← hbase, CycleScan.schedule, Ne, List.map_eq_nil_iff]
    exact hready
  have hexecuted : executeReadySet (team.environmentOf final)
      (scanPending (team.environmentOf final) st.schedule).ready =
        results.map CycleResult.outcome := by
    rw [← hbase]
    exact hpass.executeReadySet
  have hstate : (st.scanned scan).schedule =
      { st.schedule with
        pending := remaining st.schedule (scanPending (team.environmentOf final) st.schedule)
        terminalFailures :=
          (scanPending (team.environmentOf final) st.schedule).terminalFailures
        blockedTasks := (scanPending (team.environmentOf final) st.schedule).blockedTasks } := by
    rw [← scanned_pending henv hscan, ← hbase]
    rfl
  rw [pass, if_neg hne, hexecuted, hschedule, hstate]

end Agreement

theorem raisedAt_eq_error {α : Type} {place place' : Place} {x : Except PyError α} {e : PyError}
    (h : raisedAt place x = .error (place', e)) : place' = place ∧ x = .error e := by
  cases x with
  | ok a => cases h
  | error e' =>
      cases h
      exact ⟨rfl, rfl⟩

/-- A visit raises where its task cannot be prepared or assigned. -/
theorem visitTask_error {completed : List String} {g : ArtifactGraph std} {scan : CycleScan std}
    {task : CycleTask} {place : Place} {e : PyError}
    (h : visitTask team completed g scan task = .error (place, e)) :
    (∀ dependency ∈ task.dependsOn, dependency ∈ completed) ∧
      (place = .resolution ∧ prepareTask task g = .error e ∨
        place = .assignment ∧ ∃ prepared, prepareTask task g = .ok prepared ∧
          assign team prepared = .error e) := by
  rw [visitTask] at h
  dsimp only at h
  split_ifs at h with hfailed hdone hblocked
  refine ⟨hdone, ?_⟩
  rcases Except.bind_eq_error_iff.mp h with h | ⟨prepared, hprepared, h⟩
  · obtain ⟨rfl, herror⟩ := raisedAt_eq_error h
    exact .inl ⟨rfl, herror⟩
  · rcases Except.bind_eq_error_iff.mp h with h | ⟨agent, -, h⟩
    · obtain ⟨rfl, herror⟩ := raisedAt_eq_error h
      exact .inr ⟨rfl, prepared, raisedAt_eq_ok.mp hprepared, herror⟩
    · cases h

/-- A scan raises at one of the pending tasks. -/
theorem scanTasks_error {place : Place} {e : PyError}
    (h : scanTasks team st = .error (place, e)) :
    ∃ task ∈ st.pending, (∀ dependency ∈ task.dependsOn, dependency ∈ st.completed) ∧
      (place = .resolution ∧ prepareTask task st.graph = .error e ∨
        place = .assignment ∧ ∃ prepared, prepareTask task st.graph = .ok prepared ∧
          assign team prepared = .error e) := by
  have hfold : ∀ (tasks : List CycleTask) (scan : CycleScan std),
      tasks.foldlM (visitTask team st.completed st.graph) scan = .error (place, e) →
        ∃ task ∈ tasks, ∃ scan, visitTask team st.completed st.graph scan task =
          .error (place, e) := by
    intro tasks
    induction tasks with
    | nil =>
        intro scan hnil
        cases hnil
    | cons task tasks ih =>
        intro scan hcons
        rw [List.foldlM_cons] at hcons
        rcases Except.bind_eq_error_iff.mp hcons with hvisit | ⟨scan', -, hrest⟩
        · exact ⟨task, List.mem_cons_self .., scan, hvisit⟩
        · obtain ⟨t, ht, hvisit⟩ := ih scan' hrest
          exact ⟨t, List.mem_cons_of_mem _ ht, hvisit⟩
  obtain ⟨task, htask, scan, hvisit⟩ := hfold _ _ h
  exact ⟨task, (List.perm_insertionSort _ _).mem_iff.mp htask, visitTask_error hvisit⟩

/-- **What a pass that ends the run does**: it raises in one of three places, or it finds nothing
ready. -/
theorem cyclePass_ended {stop : Except (Place × PyError) Unit}
    (h : cyclePass team st = .ended st' stop) :
    (∃ raised, scanTasks team st = .error raised ∧ st' = st ∧ stop = .error raised) ∨
    (∃ scan e, scanTasks team st = .ok scan ∧ st' = st.scanned scan ∧
      executeAssignments team scan.readyAssignments = .error e ∧
      stop = .error (.enforcement, e)) ∨
    (∃ scan results e, scanTasks team st = .ok scan ∧
      executeAssignments team scan.readyAssignments = .ok results ∧
      recordResults results (st.scanned scan) = (st', .error e) ∧
      stop = .error (.recording, e)) ∨
    ∃ scan, scanTasks team st = .ok scan ∧ scan.readyAssignments = [] ∧ st' = st.scanned scan ∧
      stop = if st'.pending = [] then .ok () else .error (.stall, ⟨.runtimeError,
        "Artifact DAG stalled with unresolved tasks: " ++
          idsText ((sortCycleTasks st'.pending).map (·.taskId))⟩) := by
  unfold cyclePass at h
  cases hscan : scanTasks team st with
  | error raised =>
      rw [hscan] at h
      cases h
      exact .inl ⟨raised, rfl, rfl, rfl⟩
  | ok scan =>
      rw [hscan] at h
      dsimp only at h
      split_ifs at h with hready hpending
      · cases h
        exact .inr (.inr (.inr ⟨scan, rfl, hready, rfl, (if_pos hpending).symm⟩))
      · cases h
        exact .inr (.inr (.inr ⟨scan, rfl, hready, rfl, (if_neg hpending).symm⟩))
      · cases hexecute : executeAssignments team scan.readyAssignments with
        | error e =>
            rw [hexecute] at h
            cases h
            exact .inr (.inl ⟨scan, e, rfl, rfl, hexecute, rfl⟩)
        | ok results =>
            rw [hexecute] at h
            dsimp only at h
            rcases hrecord : recordResults results (st.scanned scan) with ⟨st₁, raised⟩
            rw [hrecord] at h
            cases raised with
            | ok _ => cases h
            | error e =>
                cases h
                exact .inr (.inr (.inl ⟨scan, results, e, rfl, hexecute, hrecord, rfl⟩))

end Pass

/-! ### Whole runs -/

/-- What `_execute_dag` returns or raises, as far as the scheduler has it. -/
def answerOf (final : CycleState std) :
    Except (Place × PyError) Unit → Except PyError (List TaskResult × List BlockedTask)
  | .ok _ => .ok (final.results.map CycleResult.outcome, final.blockedTasks)
  | .error (_, e) => .error e

/-- The run returns or stalls: nothing is raised about artifacts. -/
def Undisturbed (stop : Except (Place × PyError) Unit) : Prop :=
  ∀ place e, stop = .error (place, e) → place = .stall

section Runs

variable {team : Team std}

/-- A pass that ends the run without raising about artifacts is one of the scheduler, with the
same answer. -/
theorem cyclePass_ended_refines {st final : CycleState std}
    {stop : Except (Place × PyError) Unit} {results : List (CycleResult std)}
    (hpending : st.pending ≠ []) (h : cyclePass team st = .ended final stop)
    (hstop : Undisturbed stop) :
    final.results = st.results ∧
      loop (team.environmentOf results) st.schedule = answerOf final stop := by
  obtain ⟨⟨place, e⟩, hscan, -, rfl⟩ | ⟨scan, e, -, -, -, rfl⟩ | ⟨scan, rs, e, -, -, -, rfl⟩ |
    ⟨scan, hscan, hready, rfl, rfl⟩ := cyclePass_ended h
  · obtain ⟨-, -, -, ⟨hplace, -⟩ | ⟨hplace, -⟩⟩ := scanTasks_error hscan <;>
      exact absurd ((hstop place e rfl).symm.trans hplace) (by decide)
  · exact absurd (hstop .enforcement e rfl) (by decide)
  · exact absurd (hstop .recording e rfl) (by decide)
  have henv : (team.environmentOf results).controlDecision = team.controlDecision := rfl
  have hbase := (scanTasks_ok henv hscan).1
  have hnone : (scanPending (team.environmentOf results) st.schedule).ready = [] := by
    rw [← hbase, CycleScan.schedule, hready, List.map_nil]
  have hrest := scanned_pending henv hscan
  have hblocked : (st.scanned scan).blockedTasks =
      (scanPending (team.environmentOf results) st.schedule).blockedTasks := by
    rw [← hbase]
    rfl
  have hne : st.schedule.pending ≠ [] := by
    rw [CycleState.schedule, Ne, List.map_eq_nil_iff]
    exact hpending
  refine ⟨rfl, ?_⟩
  by_cases hleft : (st.scanned scan).pending = []
  · have hpass : pass (team.environmentOf results) st.schedule =
        .finished st.schedule.results (st.scanned scan).blockedTasks := by
      rw [pass, if_pos hnone, if_pos (by rw [← hrest, hleft, List.map_nil]), hblocked]
    rw [loop_finished hne hpass, if_pos hleft]
    rfl
  · have hpass : pass (team.environmentOf results) st.schedule =
        .stalled ((st.scanned scan).pending.map CycleTask.toTask) := by
      rw [pass, if_pos hnone, if_neg (by rwa [← hrest, List.map_eq_nil_iff]), hrest]
    rw [loop_stalled hne hpass, if_neg hleft, ← sortCycleTasks_map, List.map_map]
    rfl

/-- From any state between two passes, a run that is not disturbed is the scheduler's. -/
theorem cycleLoop_refines (st : CycleState std) :
    ∀ {final stop}, cycleLoop team st = (final, stop) → Distinct st → Undisturbed stop →
      st.results <+: final.results ∧ (resultIds final.results).Nodup ∧
        loop (team.environmentOf final.results) st.schedule = answerOf final stop := by
  induction st using cycleLoop.induct team with
  | case1 st hempty =>
      intro final stop h hdistinct _
      rw [cycleLoop, if_pos hempty] at h
      cases h
      refine ⟨List.prefix_rfl, (List.nodup_append.mp hdistinct).1, ?_⟩
      rw [loop, if_pos (by rw [CycleState.schedule, hempty, List.map_nil])]
      rfl
  | case2 st hpending st' stop' hpass =>
      intro final stop h hdistinct hstop
      rw [cycleLoop, if_neg hpending] at h
      split at h
      · next st₁ stop₁ hpass₁ =>
          cases h
          obtain ⟨hresults, hloop⟩ :=
            @cyclePass_ended_refines _ _ _ _ _ final.results hpending hpass₁ hstop
          refine ⟨by rw [hresults], ?_, hloop⟩
          rw [hresults]
          exact (List.nodup_append.mp hdistinct).1
      · next st₁ hpass₁ =>
          rw [hpass] at hpass₁
          cases hpass₁
  | case3 st hpending st' hpass ih =>
      intro final stop h hdistinct hstop
      rw [cycleLoop, if_neg hpending] at h
      split at h
      · next st₁ stop₁ hpass₁ =>
          rw [hpass] at hpass₁
          cases hpass₁
      · next st₁ hpass₁ =>
          rw [hpass] at hpass₁
          cases hpass₁
          obtain ⟨hpre, hnodup, hloop⟩ := ih h (hdistinct.next hpass) hstop
          obtain ⟨scan, results, -, -, -, hrecord⟩ := cyclePass_next hpass
          have hne : st.schedule.pending ≠ [] := by
            rw [CycleState.schedule, Ne, List.map_eq_nil_iff]
            exact hpending
          refine ⟨?_, hnodup, ?_⟩
          · have hresults := (recordResults_ok hrecord).2.1
            exact (show st.results <+: st'.results from ⟨results, hresults.symm⟩).trans hpre
          · rw [loop_next hne (cyclePass_next_refines hnodup hpass hpre), hloop]

/-! ### The start -/

theorem putCycleTask_map (pending : List CycleTask) (task : CycleTask) :
    (putCycleTask pending task).map CycleTask.toTask =
      putTask (pending.map CycleTask.toTask) task.toTask := by
  have hany : (pending.map CycleTask.toTask).any (·.taskId = task.taskId) =
      pending.any (·.taskId = task.taskId) := List.any_map
  rw [putCycleTask, putTask, hany]
  split_ifs
  · rw [List.map_map, List.map_map]
    refine List.map_congr_left fun t _ => ?_
    simp only [Function.comp_apply]
    split_ifs <;> rfl
  · rw [List.map_append]
    rfl

theorem foldl_putCycleTask_map (tasks : List CycleTask) : ∀ pending : List CycleTask,
    (tasks.foldl putCycleTask pending).map CycleTask.toTask =
      (tasks.map CycleTask.toTask).foldl putTask (pending.map CycleTask.toTask) := by
  induction tasks with
  | nil => exact fun _ => rfl
  | cons task tasks ih =>
      intro pending
      rw [List.foldl_cons, ih, putCycleTask_map]
      rfl

/-- A task that takes the id of another one takes its place. -/
theorem nodup_putCycleTask {pending : List CycleTask} (h : (pending.map (·.taskId)).Nodup)
    (task : CycleTask) : ((putCycleTask pending task).map (·.taskId)).Nodup := by
  rw [putCycleTask]
  split_ifs with hany
  · have hids : (pending.map fun t => if t.taskId = task.taskId then task else t).map (·.taskId) =
        pending.map (·.taskId) := by
      rw [List.map_map]
      refine List.map_congr_left fun t _ => ?_
      rw [Function.comp_apply]
      split_ifs with hid
      · exact hid.symm
      · rfl
    rwa [hids]
  · rw [List.map_append, List.nodup_append]
    refine ⟨h, List.nodup_singleton _, ?_⟩
    rintro id hid _ hid' rfl
    obtain ⟨t, ht, rfl⟩ := List.mem_map.mp hid
    refine hany (List.any_eq_true.mpr ⟨t, ht, decide_eq_true ?_⟩)
    exact List.mem_singleton.mp hid'

theorem distinct_start (tasks : List CycleTask) : Distinct (startCycle std tasks) := by
  have hfold : ∀ (tasks pending : List CycleTask), (pending.map (·.taskId)).Nodup →
      ((tasks.foldl putCycleTask pending).map (·.taskId)).Nodup := by
    intro tasks
    induction tasks with
    | nil => exact fun _ h => h
    | cons task tasks ih => exact fun pending h => ih _ (nodup_putCycleTask h task)
  exact hfold tasks [] List.nodup_nil

/-- A cycle in which nothing is raised about artifacts has the answer of the scheduler, in the
environment of its results. -/
theorem executeCycle_schedule (tasks : List CycleTask) {final : CycleState std}
    {stop : Except (Place × PyError) Unit} (h : executeCycle team tasks = (final, stop))
    (hstop : Undisturbed stop) :
    executeDag (team.environmentOf final.results) (tasks.map CycleTask.toTask) =
      answerOf final stop := by
  obtain ⟨-, -, hloop⟩ := cycleLoop_refines _ h (distinct_start tasks) hstop
  have hstart : (startCycle std tasks).schedule.pending =
      (tasks.map CycleTask.toTask).foldl putTask [] := foldl_putCycleTask_map tasks []
  rw [executeDag, ← hstart]
  exact hloop

/-- The scheduler returns only where every task is accounted for. -/
theorem loop_ok_completes {env : Environment} {tasks : List Task}
    (hids : (tasks.map (·.taskId)).Nodup) (st : DagState) :
    ∀ {out}, Booked tasks st → loop env st = .ok out → Completes tasks (loop env st) := by
  induction st using loop.induct env with
  | case1 st hempty =>
      intro out hbooked _
      have hsplit := hbooked.split
      rw [hempty, List.map_nil, List.append_nil] at hsplit
      rw [loop, if_pos hempty]
      exact ⟨_, _, rfl, hsplit, hbooked.ordered⟩
  | case2 st hpending results blockedTasks hpass =>
      intro out hbooked _
      obtain ⟨rfl, hsplit⟩ := hbooked.finished hids hpass
      rw [loop_finished hpending hpass]
      exact ⟨_, _, rfl, hsplit, hbooked.ordered⟩
  | case3 st hpending pending hpass =>
      intro out _ h
      rw [loop_stalled hpending hpass] at h
      cases h
  | case4 st hpending st' hpass ih =>
      intro out hbooked h
      rw [loop_next hpending hpass] at h ⊢
      exact ih (hbooked.next hids hpass) h

end Runs

section Sample

end Sample

end Vrl.Coordinator

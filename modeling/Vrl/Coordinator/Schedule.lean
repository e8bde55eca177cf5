import Vrl.Coordinator.System

/-!
# Vrl.Coordinator.Schedule

Which lists of tasks the scheduler gets through.

Success is a matter of the tasks and their outcomes alone: `SucceedsBy n` says which ids have
succeeded before pass `n`, and a task is taken in the first pass in which its dependencies
have. Failure is not passed on that way. A task that the scheduler drops because a dependency
failed is not a failure to the tasks that depend on it, so these wait for ever unless they
depend on a failure that the loop still sees: one that was executed, or one that the memory
blocked early enough.
-/

namespace Vrl.Coordinator

variable (env : Environment) (tasks : List Task)

/-! ### The passes, told from the tasks -/

/-- The ids that have succeeded before pass `n`. -/
def SucceedsBy : Nat → String → Prop
  | 0, _ => False
  | n + 1, id => ∃ t ∈ tasks, t.taskId = id ∧ (env.controlDecision t).blocked = false ∧
      env.succeeds t = true ∧ ∀ dependency ∈ t.dependsOn, SucceedsBy n dependency

/-- The dependencies of the task have succeeded before pass `n`. -/
def ReadyBy (n : Nat) (t : Task) : Prop :=
  ∀ dependency ∈ t.dependsOn, SucceedsBy env tasks n dependency

/-- The dependencies of the task succeed. -/
def DependenciesSucceed (t : Task) : Prop := ∃ n, ReadyBy env tasks n t

/-- The task is executed: its dependencies succeed and the memory lets it pass. -/
def Runs (t : Task) : Prop :=
  t ∈ tasks ∧ DependenciesSucceed env tasks t ∧ (env.controlDecision t).blocked = false

/-- The failure of `d` is one that the scheduler sees before it gives up on `t`: `d` was
executed and failed, or the memory blocked it, and then either `t` comes after `d` in the
order of ids, or some task that is executed becomes ready no earlier than `d`, so that
another pass follows. -/
def FailureSeen (d t : Task) : Prop :=
  DependenciesSucceed env tasks d ∧
    ((env.controlDecision d).blocked = false ∧ env.succeeds d = false ∨
      (env.controlDecision d).blocked = true ∧ (d.taskId < t.taskId ∨
        ∃ x, Runs env tasks x ∧ ∀ n, ReadyBy env tasks n x → ReadyBy env tasks n d))

/-- The scheduler gets to the end of the task: its dependencies succeed, or it depends on a
failure that is seen. -/
def Settles (t : Task) : Prop :=
  DependenciesSucceed env tasks t ∨
    ∃ dependency ∈ t.dependsOn, ∃ d ∈ tasks, d.taskId = dependency ∧ FailureSeen env tasks d t

section Passes

variable {env tasks} {m n : Nat} {t d : Task} {id : String}

theorem not_succeedsBy_zero : ¬ SucceedsBy env tasks 0 id := fun h => h

theorem SucceedsBy.succ (h : SucceedsBy env tasks n id) : SucceedsBy env tasks (n + 1) id := by
  induction n generalizing id with
  | zero => exact absurd h not_succeedsBy_zero
  | succ n ih =>
      obtain ⟨t, ht, hid, hblocked, hsucceeds, hdeps⟩ := h
      exact ⟨t, ht, hid, hblocked, hsucceeds, fun dep hdep => ih (hdeps dep hdep)⟩

theorem SucceedsBy.mono (h : SucceedsBy env tasks m id) (hmn : m ≤ n) :
    SucceedsBy env tasks n id := by
  induction hmn with
  | refl => exact h
  | step _ ih => exact ih.succ

theorem ReadyBy.mono (h : ReadyBy env tasks m t) (hmn : m ≤ n) : ReadyBy env tasks n t :=
  fun dep hdep => (h dep hdep).mono hmn

/-- A pass before `n` took the task. -/
def HandledBefore (env : Environment) (tasks : List Task) (n : Nat) (t : Task) : Prop :=
  ∃ k < n, ReadyBy env tasks k t

/-- The task was not executed, or not with success. -/
def Fails (env : Environment) (d : Task) : Prop :=
  (env.controlDecision d).blocked = true ∨ env.succeeds d = false

theorem not_fails (hblocked : (env.controlDecision d).blocked = false)
    (hsucceeds : env.succeeds d = true) : ¬ Fails env d := by
  simp [Fails, hblocked, hsucceeds]

/-- What is let through fails only by itself. -/
theorem Fails.of_not_blocked (h : Fails env d)
    (hblocked : (env.controlDecision d).blocked = false) : env.succeeds d = false := by
  rcases h with h | h
  · rw [hblocked] at h
    cases h
  · exact h

/-- Pass `k` sees the failure of `d` when it comes to `t`. -/
def SeenAt (env : Environment) (tasks : List Task) (k : Nat) (d t : Task) : Prop :=
  HandledBefore env tasks k d ∧ Fails env d ∨
    ReadyBy env tasks k d ∧ (env.controlDecision d).blocked = true ∧ d.taskId < t.taskId

/-- Pass `k` drops the task for a failed dependency. -/
def DroppedAt (env : Environment) (tasks : List Task) (k : Nat) (t : Task) : Prop :=
  ∃ dependency ∈ t.dependsOn, ∃ d ∈ tasks, d.taskId = dependency ∧ SeenAt env tasks k d t

theorem HandledBefore.mono (h : HandledBefore env tasks m t) (hmn : m ≤ n) :
    HandledBefore env tasks n t := by
  obtain ⟨k, hk, hready⟩ := h
  exact ⟨k, Nat.lt_of_lt_of_le hk hmn, hready⟩

theorem handledBefore_succ : HandledBefore env tasks (n + 1) t ↔ ReadyBy env tasks n t := by
  constructor
  · rintro ⟨k, hk, hready⟩
    exact hready.mono (Nat.le_of_lt_succ hk)
  · intro h
    exact ⟨n, Nat.lt_succ_self n, h⟩

theorem HandledBefore.readyBy (h : HandledBefore env tasks n t) : ReadyBy env tasks n t := by
  obtain ⟨k, hk, hready⟩ := h
  exact hready.mono (Nat.le_of_lt hk)

/-- An id has succeeded when its task was taken, let through and successful. -/
theorem succeedsBy_iff : SucceedsBy env tasks n id ↔
    ∃ t ∈ tasks, t.taskId = id ∧ HandledBefore env tasks n t ∧ ¬ Fails env t := by
  cases n with
  | zero =>
      constructor
      · intro h
        exact absurd h not_succeedsBy_zero
      · rintro ⟨t, -, -, ⟨k, hk, -⟩, -⟩
        exact absurd hk (Nat.not_lt_zero k)
  | succ n =>
      simp only [handledBefore_succ, Fails, not_or, Bool.not_eq_true, Bool.not_eq_false]
      constructor
      · rintro ⟨t, ht, hid, hblocked, hsucceeds, hdeps⟩
        exact ⟨t, ht, hid, hdeps, hblocked, hsucceeds⟩
      · rintro ⟨t, ht, hid, hdeps, hblocked, hsucceeds⟩
        exact ⟨t, ht, hid, hblocked, hsucceeds, hdeps⟩

/-- Tasks with distinct ids are told apart by them. -/
theorem eq_of_taskId_eq (hids : (tasks.map (·.taskId)).Nodup) (ht : t ∈ tasks) (hd : d ∈ tasks)
    (h : t.taskId = d.taskId) : t = d :=
  List.inj_on_of_nodup_map hids ht hd h

/-- A task whose dependencies succeed is never dropped. -/
theorem not_droppedAt (hids : (tasks.map (·.taskId)).Nodup) {k : Nat}
    (h : ReadyBy env tasks n t) : ¬ DroppedAt env tasks k t := by
  rintro ⟨dep, hdep, d, hd, rfl, hseen⟩
  obtain ⟨d', hd', hid, -, hfails⟩ := succeedsBy_iff.mp (h d.taskId hdep)
  obtain rfl := eq_of_taskId_eq hids hd' hd hid
  rcases hseen with ⟨-, hfailed⟩ | ⟨-, hblocked, -⟩
  · exact hfails hfailed
  · exact hfails (.inl hblocked)

end Passes

/-! ### A scan, told from what has completed -/

section Scan

variable {env} {completed : List String} {ts : List Task}

/-- What has completed is neither a failure nor still to be visited. -/
structure Apart (completed : List String) (scan : Scan) (ts : List Task) : Prop where
  failures : ∀ id ∈ completed, id ∉ scan.terminalFailures
  pending : ∀ id ∈ completed, id ∉ ts.map (·.taskId)

theorem Apart.not_hasFailed {scan : Scan} (h : Apart completed scan ts) {t : Task}
    (hdone : Done completed t) : ¬ HasFailed scan.terminalFailures t := by
  rintro ⟨dep, hdep, hfailed⟩
  exact h.failures dep (hdone dep hdep) hfailed

/-- A visit adds the task to the failures when its dependencies have completed and the
memory blocks it. -/
theorem mem_terminalFailures_visit {scan : Scan} (h : Apart completed scan ts) {t : Task}
    {id : String} : id ∈ (visit env completed scan t).terminalFailures ↔
      id ∈ scan.terminalFailures ∨
        id = t.taskId ∧ Done completed t ∧ (env.controlDecision t).blocked = true := by
  rcases visit_cases env completed scan t with
    ⟨hfailed, entry, hid, hvisit⟩ | ⟨-, hdone, hblocked, entry, hid, hvisit⟩ |
      ⟨-, hdone, hblocked, hvisit⟩ | ⟨-, hdone, hvisit⟩
  · have hdone : ¬ Done completed t := fun hdone => h.not_hasFailed hdone hfailed
    simp [hvisit, hdone]
  · simp [hvisit, hdone, hblocked]
  · simp [hvisit, hblocked]
  · simp [hvisit, hdone]

theorem mem_toRemove_visit {scan : Scan} {t : Task} {id : String} :
    id ∈ (visit env completed scan t).toRemove ↔
      id ∈ scan.toRemove ∨
        id = t.taskId ∧ (HasFailed scan.terminalFailures t ∨ Done completed t) := by
  rcases visit_cases env completed scan t with
    ⟨hfailed, entry, hid, hvisit⟩ | ⟨-, hdone, hblocked, entry, hid, hvisit⟩ |
      ⟨-, hdone, hblocked, hvisit⟩ | ⟨hfailed, hdone, hvisit⟩
  · simp [hvisit, hfailed]
  · simp [hvisit, hdone]
  · simp [hvisit, hdone]
  · simp [hvisit, hdone, hfailed]

theorem mem_ready_visit {scan : Scan} (h : Apart completed scan ts) {t u : Task} :
    u ∈ (visit env completed scan t).ready ↔
      u ∈ scan.ready ∨ u = t ∧ Done completed t ∧ (env.controlDecision t).blocked = false := by
  rcases visit_cases env completed scan t with
    ⟨hfailed, entry, hid, hvisit⟩ | ⟨-, hdone, hblocked, entry, hid, hvisit⟩ |
      ⟨-, hdone, hblocked, hvisit⟩ | ⟨-, hdone, hvisit⟩
  · have hdone : ¬ Done completed t := fun hdone => h.not_hasFailed hdone hfailed
    simp [hvisit, hdone]
  · simp [hvisit, hblocked]
  · simp [hvisit, hdone, hblocked]
  · simp [hvisit, hdone]

theorem Apart.visit {scan : Scan} {t : Task} (h : Apart completed scan (t :: ts)) :
    Apart completed (visit env completed scan t) ts := by
  constructor
  · intro id hid hmem
    rcases (mem_terminalFailures_visit h).mp hmem with hmem | ⟨rfl, -, -⟩
    · exact h.failures id hid hmem
    · exact h.pending _ hid (List.mem_cons_self ..)
  · intro id hid hmem
    exact h.pending id hid (List.mem_cons_of_mem _ hmem)

/-- The failures after the visits. -/
theorem mem_terminalFailures_foldl {id : String} : ∀ {ts : List Task} {scan : Scan},
    Apart completed scan ts →
    (id ∈ (ts.foldl (visit env completed) scan).terminalFailures ↔
      id ∈ scan.terminalFailures ∨ ∃ d ∈ ts, d.taskId = id ∧ Done completed d ∧
        (env.controlDecision d).blocked = true)
  | [], scan, _ => by simp
  | t :: ts, scan, h => by
      rw [List.foldl_cons, mem_terminalFailures_foldl h.visit, mem_terminalFailures_visit h]
      simp only [List.exists_mem_cons_iff, or_assoc, eq_comm (a := id)]

/-- The tasks that are ready after the visits. -/
theorem mem_ready_foldl {u : Task} : ∀ {ts : List Task} {scan : Scan},
    Apart completed scan ts →
    (u ∈ (ts.foldl (visit env completed) scan).ready ↔
      u ∈ scan.ready ∨ u ∈ ts ∧ Done completed u ∧ (env.controlDecision u).blocked = false)
  | [], scan, _ => by simp
  | t :: ts, scan, h => by
      rw [List.foldl_cons, mem_ready_foldl h.visit, mem_ready_visit h, List.mem_cons]
      constructor
      · rintro ((hready | ⟨rfl, hdone⟩) | ⟨hmem, hdone⟩)
        · exact .inl hready
        · exact .inr ⟨.inl rfl, hdone⟩
        · exact .inr ⟨.inr hmem, hdone⟩
      · rintro (hready | ⟨rfl | hmem, hdone⟩)
        · exact .inl (.inl hready)
        · exact .inl (.inr ⟨rfl, hdone⟩)
        · exact .inr ⟨hmem, hdone⟩

theorem mem_toRemove_foldl_of_not_mem {id : String} : ∀ {ts : List Task} {scan : Scan},
    id ∉ ts.map (·.taskId) →
    (id ∈ (ts.foldl (visit env completed) scan).toRemove ↔ id ∈ scan.toRemove)
  | [], scan, _ => by simp
  | t :: ts, scan, h => by
      rw [List.map_cons, List.mem_cons, not_or] at h
      rw [List.foldl_cons, mem_toRemove_foldl_of_not_mem h.2, mem_toRemove_visit]
      simp [h.1]

/-- A visit adds a failed dependency where it meets one that is blocked. -/
theorem hasFailed_visit {s t : Task} {ts : List Task} {scan : Scan}
    (h : Apart completed scan (s :: ts)) :
    HasFailed (Coordinator.visit env completed scan s).terminalFailures t ↔
      HasFailed scan.terminalFailures t ∨ s.taskId ∈ t.dependsOn ∧ Done completed s ∧
        (env.controlDecision s).blocked = true := by
  simp only [HasFailed, mem_terminalFailures_visit h]
  constructor
  · rintro ⟨dep, hdep, hmem | ⟨rfl, hdone⟩⟩
    · exact .inl ⟨dep, hdep, hmem⟩
    · exact .inr ⟨hdep, hdone⟩
  · rintro (⟨dep, hdep, hmem⟩ | ⟨hdep, hdone⟩)
    · exact ⟨dep, hdep, .inl hmem⟩
    · exact ⟨_, hdep, .inr ⟨rfl, hdone⟩⟩

/-- **The tasks that the visits remove**, in the order of ids: those whose dependencies have
completed, and those that depend on a failure known by then. -/
theorem mem_toRemove_foldl {t : Task} : ∀ {ts : List Task} {scan : Scan},
    Apart completed scan ts → ts.Pairwise (fun s u => s.taskId < u.taskId) → t ∈ ts →
    (t.taskId ∈ (ts.foldl (visit env completed) scan).toRemove ↔
      t.taskId ∈ scan.toRemove ∨ Done completed t ∨ HasFailed scan.terminalFailures t ∨
        ∃ dep ∈ t.dependsOn, ∃ d ∈ ts, d.taskId = dep ∧ Done completed d ∧
          (env.controlDecision d).blocked = true ∧ d.taskId < t.taskId)
  | [], _, _, _, ht => by cases ht
  | s :: ts, scan, h, hsorted, ht => by
      rw [List.pairwise_cons] at hsorted
      have hnot : ∀ u ∈ ts, u.taskId ≠ s.taskId := by
        intro u hu heq
        have hlt := hsorted.1 u hu
        rw [heq] at hlt
        exact absurd hlt (String.lt_irrefl _)
      rcases List.mem_cons.mp ht with rfl | ht
      · -- no task before it in the order is left to be visited
        have hfirst : t.taskId ∉ ts.map (·.taskId) := by
          intro hmem
          obtain ⟨u, hu, heq⟩ := List.mem_map.mp hmem
          exact hnot u hu heq
        have hnone : ¬ ∃ dep ∈ t.dependsOn, ∃ d ∈ t :: ts, d.taskId = dep ∧ Done completed d ∧
            (env.controlDecision d).blocked = true ∧ d.taskId < t.taskId := by
          rintro ⟨dep, -, d, hd, -, -, -, hlt⟩
          rcases List.mem_cons.mp hd with rfl | hd
          · exact absurd hlt (String.lt_irrefl _)
          · exact absurd (String.lt_trans hlt (hsorted.1 d hd)) (String.lt_irrefl _)
        rw [List.foldl_cons, mem_toRemove_foldl_of_not_mem hfirst, mem_toRemove_visit]
        simp only [hnone, or_false, true_and]
        tauto
      · -- `s` is visited before `t`, which is removed if it depends on it and it is blocked
        rw [List.foldl_cons, mem_toRemove_foldl h.visit hsorted.2 ht, mem_toRemove_visit,
          hasFailed_visit h]
        have hne := hnot t ht
        have hlt := hsorted.1 t ht
        simp only [hne, false_and, or_false, List.exists_mem_cons_iff, hlt, and_true]
        constructor
        · rintro (hmem | hdone | (hmem | ⟨hdep, hdone, hblocked⟩) | ⟨dep, hdep, hrest⟩)
          · exact .inl hmem
          · exact .inr (.inl hdone)
          · exact .inr (.inr (.inl hmem))
          · exact .inr (.inr (.inr ⟨_, hdep, .inl ⟨rfl, hdone, hblocked⟩⟩))
          · exact .inr (.inr (.inr ⟨dep, hdep, .inr hrest⟩))
        · rintro (hmem | hdone | hmem | ⟨dep, hdep, ⟨rfl, hdone, hblocked⟩ | hrest⟩)
          · exact .inl hmem
          · exact .inr (.inl hdone)
          · exact .inr (.inr (.inl (.inl hmem)))
          · exact .inr (.inr (.inl (.inr ⟨hdep, hdone, hblocked⟩)))
          · exact .inr (.inr (.inr ⟨dep, hdep, hrest⟩))

end Scan

/-! ### The results of a pass -/

section Record

variable {env}

theorem mem_executeReadySet {ready : List Task} {result : TaskResult} :
    result ∈ executeReadySet env ready ↔
      ∃ t ∈ ready, (⟨t.taskId, if env.succeeds t then .success else .failure⟩ : TaskResult) =
        result := by
  rw [executeReadySet, List.mem_map]
  simp only [(env.asCompleted_perm ready).mem_iff]

theorem executeReadySet_ids (ready : List Task) :
    ((executeReadySet env ready).map (·.taskId)).Perm (ready.map (·.taskId)) := by
  rw [executeReadySet, List.map_map]
  exact (env.asCompleted_perm ready).map _

theorem foldl_record_results (results : List TaskResult) : ∀ st : DagState,
    (results.foldl record st).results = st.results ++ results ∧
      (results.foldl record st).blockedTasks = st.blockedTasks := by
  induction results with
  | nil => simp
  | cons result results ih =>
      intro st
      obtain ⟨hresults, hblocked⟩ := ih (record st result)
      rw [List.foldl_cons, hresults, hblocked]
      unfold record
      cases result.status <;> simp

theorem mem_completed_foldl_record {id : String} (results : List TaskResult) : ∀ st : DagState,
    id ∈ (results.foldl record st).completed ↔
      id ∈ st.completed ∨ (⟨id, .success⟩ : TaskResult) ∈ results := by
  induction results with
  | nil => simp
  | cons result results ih =>
      intro st
      obtain ⟨taskId, status⟩ := result
      rw [List.foldl_cons, ih]
      unfold record
      cases status <;> simp [or_assoc]

theorem mem_terminalFailures_foldl_record {id : String} (results : List TaskResult) :
    ∀ st : DagState, id ∈ (results.foldl record st).terminalFailures ↔
      id ∈ st.terminalFailures ∨ (⟨id, .failure⟩ : TaskResult) ∈ results := by
  induction results with
  | nil => simp
  | cons result results ih =>
      intro st
      obtain ⟨taskId, status⟩ := result
      rw [List.foldl_cons, ih]
      unfold record
      cases status <;> simp [or_assoc]

theorem success_mem_executeReadySet {ready : List Task} {id : String} :
    (⟨id, .success⟩ : TaskResult) ∈ executeReadySet env ready ↔
      ∃ t ∈ ready, t.taskId = id ∧ env.succeeds t = true := by
  rw [mem_executeReadySet]
  constructor
  · rintro ⟨t, ht, heq⟩
    rw [TaskResult.mk.injEq] at heq
    refine ⟨t, ht, heq.1, ?_⟩
    by_contra hfails
    rw [if_neg hfails] at heq
    exact absurd heq.2 (by decide)
  · rintro ⟨t, ht, rfl, hsucceeds⟩
    exact ⟨t, ht, by rw [if_pos hsucceeds]⟩

theorem failure_mem_executeReadySet {ready : List Task} {id : String} :
    (⟨id, .failure⟩ : TaskResult) ∈ executeReadySet env ready ↔
      ∃ t ∈ ready, t.taskId = id ∧ env.succeeds t = false := by
  rw [mem_executeReadySet]
  constructor
  · rintro ⟨t, ht, heq⟩
    rw [TaskResult.mk.injEq] at heq
    refine ⟨t, ht, heq.1, ?_⟩
    by_contra hsucceeds
    rw [if_pos (by simpa using hsucceeds)] at heq
    exact absurd heq.2 (by decide)
  · rintro ⟨t, ht, rfl, hfails⟩
    exact ⟨t, ht, by rw [if_neg (by simp [hfails])]⟩

end Record

/-! ### The state before a pass -/

/-- The state before pass `n`, told from the tasks. -/
structure Timed (n : Nat) (st : DagState) : Prop where
  nodup : (st.pending.map (·.taskId)).Nodup
  mem_pending : ∀ t, t ∈ st.pending ↔
    t ∈ tasks ∧ ¬ HandledBefore env tasks n t ∧ ¬ ∃ k < n, DroppedAt env tasks k t
  mem_completed : ∀ id, id ∈ st.completed ↔ SucceedsBy env tasks n id
  mem_failures : ∀ id, id ∈ st.terminalFailures ↔
    ∃ d ∈ tasks, d.taskId = id ∧ HandledBefore env tasks n d ∧ Fails env d
  productive : ∀ k < n, ∃ x ∈ tasks, (env.controlDecision x).blocked = false ∧
    ReadyBy env tasks k x ∧ ¬ HandledBefore env tasks k x

variable {tasks}

section Pass

variable {env} {n : Nat} {st st' : DagState} {t : Task}

theorem sortTasks_sorted {pending : List Task} (h : (pending.map (·.taskId)).Nodup) :
    (sortTasks pending).Pairwise fun s u => s.taskId < u.taskId := by
  have hle : (sortTasks pending).Pairwise fun s u => s.taskId ≤ u.taskId :=
    List.pairwise_insertionSort (fun s u : Task => s.taskId ≤ u.taskId) pending
  have hnodup : ((sortTasks pending).map (·.taskId)).Nodup :=
    ((sortTasks_perm pending).map _).nodup_iff.mpr h
  have hne : (sortTasks pending).Pairwise fun s u => s.taskId ≠ u.taskId :=
    List.pairwise_map.mp hnodup
  refine (hle.and hne).imp ?_
  rintro s u ⟨hsu, hneq⟩
  by_contra hlt
  exact hneq (String.le_antisymm hsu (String.not_lt.mp hlt))

variable (hids : (tasks.map (·.taskId)).Nodup) (h : Timed env tasks n st)

include h in
theorem Timed.done_iff : Done st.completed t ↔ ReadyBy env tasks n t := by
  unfold Done ReadyBy
  simp only [h.mem_completed]

include hids h

/-- A task that is ready and was not taken is pending. -/
theorem Timed.pending_of_readyBy (ht : t ∈ tasks) (hready : ReadyBy env tasks n t)
    (hnot : ¬ HandledBefore env tasks n t) : t ∈ st.pending := by
  refine (h.mem_pending t).mpr ⟨ht, hnot, ?_⟩
  rintro ⟨k, -, hdropped⟩
  exact not_droppedAt hids hready hdropped

theorem Timed.apart : Apart st.completed
    { terminalFailures := st.terminalFailures, blockedTasks := st.blockedTasks,
      ready := [], toRemove := [] } (sortTasks st.pending) := by
  constructor
  · intro id hid hfailed
    obtain ⟨s, hs, hsid, -, hsucceeds⟩ := succeedsBy_iff.mp ((h.mem_completed id).mp hid)
    obtain ⟨d, hd, hdid, -, hfails⟩ := (h.mem_failures id).mp hfailed
    obtain rfl := eq_of_taskId_eq hids hs hd (hsid.trans hdid.symm)
    exact hsucceeds hfails
  · intro id hid hpending
    obtain ⟨s, hs, hsid, hhandled, -⟩ := succeedsBy_iff.mp ((h.mem_completed id).mp hid)
    obtain ⟨u, hu, huid⟩ := List.mem_map.mp hpending
    obtain ⟨hutasks, hnot, -⟩ := (h.mem_pending u).mp ((sortTasks_perm st.pending).mem_iff.mp hu)
    obtain rfl := eq_of_taskId_eq hids hs hutasks (hsid.trans huid.symm)
    exact hnot hhandled

/-- What the scan finds ready. -/
theorem Timed.mem_ready_iff : t ∈ (scanPending env st).ready ↔
    t ∈ st.pending ∧ ReadyBy env tasks n t ∧ (env.controlDecision t).blocked = false := by
  rw [scanPending, mem_ready_foldl (h.apart hids), (sortTasks_perm st.pending).mem_iff, h.done_iff]
  simp

/-- What the scan adds to the failures. -/
theorem Timed.mem_scan_failures {id : String} :
    id ∈ (scanPending env st).terminalFailures ↔ id ∈ st.terminalFailures ∨
      ∃ d ∈ st.pending, d.taskId = id ∧ ReadyBy env tasks n d ∧
        (env.controlDecision d).blocked = true := by
  rw [scanPending, mem_terminalFailures_foldl (h.apart hids)]
  simp only [(sortTasks_perm st.pending).mem_iff, h.done_iff]

/-- What the scan removes. -/
theorem Timed.mem_toRemove_iff (ht : t ∈ st.pending) :
    t.taskId ∈ (scanPending env st).toRemove ↔
      ReadyBy env tasks n t ∨ DroppedAt env tasks n t := by
  have hsorted := sortTasks_sorted h.nodup
  rw [scanPending, mem_toRemove_foldl (h.apart hids) hsorted ((sortTasks_perm _).mem_iff.mpr ht),
    h.done_iff]
  simp only [List.not_mem_nil, false_or, (sortTasks_perm st.pending).mem_iff, h.done_iff]
  refine or_congr_right ?_
  constructor
  · rintro (⟨dep, hdep, hfailed⟩ | ⟨dep, hdep, d, hd, hid, hready, hblocked, hlt⟩)
    · obtain ⟨d, hd, hid, hhandled, hfails⟩ := (h.mem_failures dep).mp hfailed
      exact ⟨dep, hdep, d, hd, hid, .inl ⟨hhandled, hfails⟩⟩
    · exact ⟨dep, hdep, d, ((h.mem_pending d).mp hd).1, hid, .inr ⟨hready, hblocked, hlt⟩⟩
  · rintro ⟨dep, hdep, d, hd, hid, ⟨hhandled, hfails⟩ | ⟨hready, hblocked, hlt⟩⟩
    · exact .inl ⟨dep, hdep, (h.mem_failures dep).mpr ⟨d, hd, hid, hhandled, hfails⟩⟩
    · by_cases hhandled : HandledBefore env tasks n d
      · exact .inl ⟨dep, hdep, (h.mem_failures dep).mpr ⟨d, hd, hid, hhandled, .inl hblocked⟩⟩
      · exact .inr ⟨dep, hdep, d, h.pending_of_readyBy hids hd hready hhandled, hid, hready,
          hblocked, hlt⟩

/-- What stays pending after the scan. -/
theorem Timed.mem_remaining_iff : t ∈ remaining st (scanPending env st) ↔
    t ∈ tasks ∧ ¬ ReadyBy env tasks n t ∧ ¬ ∃ k ≤ n, DroppedAt env tasks k t := by
  rw [remaining, List.mem_filter, decide_eq_true_eq]
  constructor
  · rintro ⟨hpending, hkept⟩
    rw [h.mem_toRemove_iff hids hpending, not_or] at hkept
    obtain ⟨ht, -, hnot⟩ := (h.mem_pending t).mp hpending
    refine ⟨ht, hkept.1, ?_⟩
    rintro ⟨k, hk, hdropped⟩
    rcases Nat.lt_or_eq_of_le hk with hk | rfl
    · exact hnot ⟨k, hk, hdropped⟩
    · exact hkept.2 hdropped
  · rintro ⟨ht, hready, hdropped⟩
    have hpending : t ∈ st.pending := by
      refine (h.mem_pending t).mpr ⟨ht, fun hhandled => hready hhandled.readyBy, ?_⟩
      rintro ⟨k, hk, hdrop⟩
      exact hdropped ⟨k, Nat.le_of_lt hk, hdrop⟩
    rw [h.mem_toRemove_iff hids hpending, not_or]
    exact ⟨hpending, hready, fun hdrop => hdropped ⟨n, Nat.le_refl n, hdrop⟩⟩

/-- **A pass that executes tasks leads to the state before the next pass.** -/
theorem Timed.next (hpass : pass env st = .next st') : Timed env tasks (n + 1) st' := by
  unfold pass at hpass
  dsimp only at hpass
  split_ifs at hpass with hready hpending
  cases hpass
  constructor
  · rw [foldl_record_pending]
    exact h.nodup.sublist (List.Sublist.map _ List.filter_sublist)
  · intro t
    rw [foldl_record_pending, h.mem_remaining_iff hids, handledBefore_succ]
    simp only [Nat.lt_succ_iff]
  · intro id
    rw [mem_completed_foldl_record, success_mem_executeReadySet]
    simp only [h.mem_ready_iff hids, h.mem_completed]
    constructor
    · rintro (hsucceeded | ⟨s, ⟨hs, hready, hblocked⟩, hid, hsucceeds⟩)
      · exact hsucceeded.succ
      · exact ⟨s, ((h.mem_pending s).mp hs).1, hid, hblocked, hsucceeds, hready⟩
    · rintro ⟨s, hs, hid, hblocked, hsucceeds, hready⟩
      by_cases hhandled : HandledBefore env tasks n s
      · exact .inl (succeedsBy_iff.mpr ⟨s, hs, hid, hhandled, not_fails hblocked hsucceeds⟩)
      · exact .inr ⟨s, ⟨h.pending_of_readyBy hids hs hready hhandled, hready, hblocked⟩, hid,
          hsucceeds⟩
  · intro id
    rw [mem_terminalFailures_foldl_record, failure_mem_executeReadySet, h.mem_scan_failures hids]
    simp only [h.mem_ready_iff hids, handledBefore_succ]
    rw [h.mem_failures]
    constructor
    · rintro ((⟨d, hd, hid, hhandled, hfails⟩ | ⟨d, hd, hid, hready, hblocked⟩) |
        ⟨d, ⟨hd, hready, -⟩, hid, hfails⟩)
      · exact ⟨d, hd, hid, hhandled.readyBy, hfails⟩
      · exact ⟨d, ((h.mem_pending d).mp hd).1, hid, hready, .inl hblocked⟩
      · exact ⟨d, ((h.mem_pending d).mp hd).1, hid, hready, .inr hfails⟩
    · rintro ⟨d, hd, hid, hready, hfails⟩
      by_cases hhandled : HandledBefore env tasks n d
      · exact .inl (.inl ⟨d, hd, hid, hhandled, hfails⟩)
      · have hmem := h.pending_of_readyBy hids hd hready hhandled
        cases hblocked : (env.controlDecision d).blocked with
        | true => exact .inl (.inr ⟨d, hmem, hid, hready, hblocked⟩)
        | false => exact .inr ⟨d, ⟨hmem, hready, hblocked⟩, hid, hfails.of_not_blocked hblocked⟩
  · intro k hk
    rcases Nat.lt_or_eq_of_le (Nat.le_of_lt_succ hk) with hk | rfl
    · exact h.productive k hk
    · obtain ⟨x, hx⟩ := List.exists_mem_of_ne_nil _ hready
      obtain ⟨hpend, hxready, hblocked⟩ := (h.mem_ready_iff hids).mp hx
      obtain ⟨hxtasks, hnot, -⟩ := (h.mem_pending x).mp hpend
      exact ⟨x, hxtasks, hblocked, hxready, hnot⟩

omit hids in
/-- A task that was taken or dropped by pass `n` settles. The passes before `n` each executed
some task. -/
theorem Timed.settles (ht : ReadyBy env tasks n t ∨ ∃ k ≤ n, DroppedAt env tasks k t) :
    Settles env tasks t := by
  rcases ht with hready | ⟨k, hk, dep, hdep, d, hd, hid, hseen⟩
  · exact .inl ⟨n, hready⟩
  · refine .inr ⟨dep, hdep, d, hd, hid, ?_⟩
    rcases hseen with ⟨⟨j, hj, hdready⟩, hfails⟩ | ⟨hdready, hblocked, hlt⟩
    · refine ⟨⟨j, hdready⟩, ?_⟩
      cases hblocked : (env.controlDecision d).blocked with
      | false => exact .inl ⟨rfl, hfails.of_not_blocked hblocked⟩
      | true =>
          -- pass `j` executed a task that was not ready before
          obtain ⟨x, hx, hpassed, hxready, hnot⟩ := h.productive j (Nat.lt_of_lt_of_le hj hk)
          refine .inr ⟨rfl, .inr ⟨x, ⟨hx, ⟨j, hxready⟩, hpassed⟩, fun m hm => ?_⟩⟩
          by_contra hdm
          have hmj : m < j := by
            by_contra hle
            exact hdm (hdready.mono (Nat.le_of_not_lt hle))
          exact hnot ⟨m, hmj, hm⟩
    · exact ⟨⟨k, hdready⟩, .inr ⟨hblocked, .inl hlt⟩⟩

/-- Where a pass finds nothing ready, nothing succeeds any more. -/
theorem Timed.succeedsBy_of_stuck (hstuck : (scanPending env st).ready = []) :
    ∀ {m : Nat} {id : String}, SucceedsBy env tasks m id → SucceedsBy env tasks n id
  | 0, _, hm => absurd hm not_succeedsBy_zero
  | m + 1, id, ⟨s, hs, hid, hblocked, hsucceeds, hdeps⟩ => by
      have hready : ReadyBy env tasks n s := fun dep hdep =>
        Timed.succeedsBy_of_stuck hstuck (hdeps dep hdep)
      have hhandled : HandledBefore env tasks n s := by
        by_contra hnot
        have hmem := (h.mem_ready_iff hids).mpr
          ⟨h.pending_of_readyBy hids hs hready hnot, hready, hblocked⟩
        rw [hstuck] at hmem
        cases hmem
      exact succeedsBy_iff.mpr ⟨s, hs, hid, hhandled, not_fails hblocked hsucceeds⟩

/-- A task that settles is taken or dropped before the scheduler gives up. -/
theorem Timed.removed_of_settles (hstuck : (scanPending env st).ready = [])
    (ht : Settles env tasks t) : ReadyBy env tasks n t ∨ ∃ k ≤ n, DroppedAt env tasks k t := by
  have hreadyBy : ∀ {u : Task}, DependenciesSucceed env tasks u → ReadyBy env tasks n u := by
    rintro u ⟨m, hm⟩ dep hdep
    exact h.succeedsBy_of_stuck hids hstuck (hm dep hdep)
  -- whatever is executed has been executed before
  have hhandled : ∀ {u : Task}, Runs env tasks u → HandledBefore env tasks n u := by
    rintro u ⟨hu, hdeps, hpassed⟩
    by_contra hnot
    have hready := hreadyBy hdeps
    have hmem := (h.mem_ready_iff hids).mpr
      ⟨h.pending_of_readyBy hids hu hready hnot, hready, hpassed⟩
    rw [hstuck] at hmem
    cases hmem
  rcases ht with hdeps | ⟨dep, hdep, d, hd, hid, hdeps, hfailed | ⟨hblocked, hlt | hlate⟩⟩
  · exact .inl (hreadyBy hdeps)
  · have hbefore := hhandled ⟨hd, hdeps, hfailed.1⟩
    exact .inr ⟨n, Nat.le_refl n, dep, hdep, d, hd, hid, .inl ⟨hbefore, .inr hfailed.2⟩⟩
  · exact .inr ⟨n, Nat.le_refl n, dep, hdep, d, hd, hid,
      .inr ⟨hreadyBy hdeps, hblocked, hlt⟩⟩
  · obtain ⟨x, hruns, hnoEarlier⟩ := hlate
    obtain ⟨k, hk, hxready⟩ := hhandled hruns
    exact .inr ⟨n, Nat.le_refl n, dep, hdep, d, hd, hid,
      .inl ⟨⟨k, hk, hnoEarlier k hxready⟩, .inl hblocked⟩⟩

end Pass

/-! ### Results and blocked tasks -/

/-- Every task is pending, blocked or executed, and was executed after its dependencies
had succeeded. -/
structure Booked (tasks : List Task) (st : DagState) : Prop where
  split : (st.results.map (·.taskId) ++ st.blockedTasks.map (·.taskId) ++
    st.pending.map (·.taskId)).Perm (tasks.map (·.taskId))
  pending : ∀ t ∈ st.pending, t ∈ tasks
  completed : ∀ id ∈ st.completed, (⟨id, .success⟩ : TaskResult) ∈ st.results
  ordered : ∀ before result after, st.results = before ++ result :: after →
    ∀ t ∈ tasks, t.taskId = result.taskId → ∀ dependency ∈ t.dependsOn,
      (⟨dependency, .success⟩ : TaskResult) ∈ before

section Booking

variable {env} {st st' : DagState}

/-- What a scan removes and what it leaves are the pending tasks. -/
theorem removed_append_remaining {pending : List Task} {removed : List String}
    (hnodup : (pending.map (·.taskId)).Nodup)
    (hremoved : removed.Sublist ((sortTasks pending).map (·.taskId))) :
    (removed ++ (pending.filter fun t => t.taskId ∉ removed).map (·.taskId)).Perm
      (pending.map (·.taskId)) := by
  have hperm : ((sortTasks pending).map (·.taskId)).Perm (pending.map (·.taskId)) :=
    (sortTasks_perm pending).map _
  have hsub : ∀ id ∈ removed, id ∈ pending.map (·.taskId) := fun id hid =>
    hperm.mem_iff.mp (hremoved.subset hid)
  have hkept : ((pending.filter fun t => t.taskId ∉ removed).map (·.taskId)).Nodup :=
    hnodup.sublist (List.Sublist.map _ List.filter_sublist)
  have hapart : removed.Disjoint ((pending.filter fun t => t.taskId ∉ removed).map (·.taskId)) := by
    intro id hid hmem
    obtain ⟨t, ht, rfl⟩ := List.mem_map.mp hmem
    exact absurd hid (of_decide_eq_true (List.mem_filter.mp ht).2)
  refine (List.perm_ext_iff_of_nodup ?_ hnodup).mpr fun id => ?_
  · exact ((hperm.nodup_iff.mpr hnodup).sublist hremoved).append hkept hapart
  · rw [List.mem_append]
    constructor
    · rintro (hid | hid)
      · exact hsub id hid
      · obtain ⟨t, ht, rfl⟩ := List.mem_map.mp hid
        exact List.mem_map_of_mem (List.mem_filter.mp ht).1
    · intro hid
      by_cases hmem : id ∈ removed
      · exact .inl hmem
      · obtain ⟨t, ht, rfl⟩ := List.mem_map.mp hid
        exact .inr (List.mem_map_of_mem (List.mem_filter.mpr ⟨ht, decide_eq_true hmem⟩))

/-- What a scan finds ready, what it blocks and what it leaves are the pending tasks. -/
theorem scanPending_split (hnodup : (st.pending.map (·.taskId)).Nodup) :
    ∃ blocked, (scanPending env st).blockedTasks = st.blockedTasks ++ blocked ∧
      ((scanPending env st).ready.map (·.taskId) ++ blocked.map (·.taskId) ++
        (remaining st (scanPending env st)).map (·.taskId)).Perm (st.pending.map (·.taskId)) := by
  obtain ⟨ready, blocked, removed, hscan⟩ := scanPending_extends env st
  refine ⟨blocked, hscan.blocked_eq, ?_⟩
  rw [hscan.ready_eq, List.nil_append, remaining, hscan.removed_eq, List.nil_append]
  exact (List.Perm.append_right _ hscan.split).trans
    (removed_append_remaining hnodup hscan.removed_sublist)

theorem Booked.nodup (h : Booked tasks st) (hids : (tasks.map (·.taskId)).Nodup) :
    (st.pending.map (·.taskId)).Nodup :=
  (List.nodup_append.mp (h.split.nodup_iff.mpr hids)).2.1

variable (hids : (tasks.map (·.taskId)).Nodup) (h : Booked tasks st)

include hids h

/-- The results of a pass have their dependencies among the earlier results. -/
theorem Booked.executeReadySet_ordered {before after : List TaskResult} {result : TaskResult}
    (hresults : executeReadySet env (scanPending env st).ready = before ++ result :: after)
    {t : Task} (ht : t ∈ tasks) (hid : t.taskId = result.taskId) :
    ∀ dependency ∈ t.dependsOn, (⟨dependency, .success⟩ : TaskResult) ∈ st.results := by
  have hmem : result ∈ executeReadySet env (scanPending env st).ready := by
    rw [hresults]
    simp
  obtain ⟨s, hs, rfl⟩ := mem_executeReadySet.mp hmem
  have hst := eq_of_taskId_eq hids (h.pending s (mem_ready env hs).1) ht hid.symm
  subst hst
  obtain ⟨ready, blocked, removed, hscan⟩ := scanPending_extends env st
  rw [hscan.ready_eq, List.nil_append] at hs
  exact fun dependency hdep => h.completed _ (hscan.ready_done s hs dependency hdep)

theorem Booked.next (hpass : pass env st = .next st') : Booked tasks st' := by
  unfold pass at hpass
  dsimp only at hpass
  split_ifs at hpass with hready hpending
  cases hpass
  obtain ⟨hresults, hblockedTasks⟩ := foldl_record_results
    (executeReadySet env (scanPending env st).ready) { st with
      pending := remaining st (scanPending env st)
      terminalFailures := (scanPending env st).terminalFailures
      blockedTasks := (scanPending env st).blockedTasks }
  constructor
  · -- what was pending is ready, blocked or remains, and what was ready has a result
    obtain ⟨blocked, hblocked, hsplit⟩ := scanPending_split (h.nodup hids)
    rw [hresults, hblockedTasks, foldl_record_pending]
    dsimp only
    rw [hblocked, List.map_append, List.map_append]
    refine List.Perm.trans ?_ h.split
    refine List.Perm.trans ?_ (List.Perm.append_left _ hsplit)
    have hnew : ((executeReadySet env (scanPending env st).ready).map (·.taskId)).Perm _ :=
      executeReadySet_ids _
    simp only [List.append_assoc]
    refine List.Perm.append_left _ ?_
    refine (List.Perm.append_right _ hnew).trans ?_
    simp only [← List.append_assoc]
    refine List.Perm.append_right _ (List.Perm.append_right _ ?_)
    exact List.perm_append_comm
  · intro t ht
    rw [foldl_record_pending] at ht
    exact h.pending t (List.mem_filter.mp ht).1
  · intro id hid
    rw [hresults]
    rcases (mem_completed_foldl_record _ _).mp hid with hid | hid
    · exact List.mem_append_left _ (h.completed id hid)
    · exact List.mem_append_right _ hid
  · intro before result after heq t ht hid dependency hdep
    rw [hresults] at heq
    rcases List.append_eq_append_iff.mp heq with ⟨l, hbefore, hnew⟩ | ⟨l, hold, hrest⟩
    · -- the result is one of this pass
      rw [hbefore]
      exact List.mem_append_left _
        (h.executeReadySet_ordered hids hnew ht hid dependency hdep)
    · cases l with
      | nil =>
          -- the first result of this pass, after all those before
          rw [List.append_nil] at hold
          rw [List.nil_append] at hrest
          rw [← hold]
          have hnew : executeReadySet env (scanPending env st).ready = [] ++ result :: after :=
            hrest.symm
          exact h.executeReadySet_ordered hids hnew ht hid dependency hdep
      | cons head l =>
          rw [List.cons_append, List.cons.injEq] at hrest
          obtain ⟨rfl, -⟩ := hrest
          exact h.ordered before _ l hold t ht hid dependency hdep

omit hids h in
theorem pass_finished {results : List TaskResult} {blockedTasks : List BlockedTask}
    (hpass : pass env st = .finished results blockedTasks) :
    (scanPending env st).ready = [] ∧ remaining st (scanPending env st) = [] := by
  unfold pass at hpass
  dsimp only at hpass
  split_ifs at hpass with hready hpending
  exact ⟨hready, hpending⟩

omit hids h in
theorem pass_stalled {pending : List Task} (hpass : pass env st = .stalled pending) :
    (scanPending env st).ready = [] ∧ remaining st (scanPending env st) ≠ [] := by
  unfold pass at hpass
  dsimp only at hpass
  split_ifs at hpass with hready hpending
  exact ⟨hready, hpending⟩

/-- A pass that finishes leaves no task unaccounted for. -/
theorem Booked.finished {results : List TaskResult} {blockedTasks : List BlockedTask}
    (hpass : pass env st = .finished results blockedTasks) :
    results = st.results ∧
      (results.map (·.taskId) ++ blockedTasks.map (·.taskId)).Perm (tasks.map (·.taskId)) := by
  unfold pass at hpass
  dsimp only at hpass
  split_ifs at hpass with hready hpending
  cases hpass
  obtain ⟨blocked, hblocked, hsplit⟩ := @scanPending_split env _ (h.nodup hids)
  refine ⟨rfl, ?_⟩
  rw [hready, hpending] at hsplit
  rw [hblocked, List.map_append, ← List.append_assoc]
  refine List.Perm.trans ?_ h.split
  exact List.Perm.append_left _ (by simpa using hsplit)

end Booking

/-! ### Whole runs -/

variable {env}

/-- The scheduler returns, every task is in exactly one of the two lists, and a task was
executed only after its dependencies had succeeded. -/
def Completes (tasks : List Task) (outcome : Except PyError (List TaskResult × List BlockedTask)) :
    Prop :=
  ∃ results blockedTasks, outcome = .ok (results, blockedTasks) ∧
    (results.map (·.taskId) ++ blockedTasks.map (·.taskId)).Perm (tasks.map (·.taskId)) ∧
    ∀ before result after, results = before ++ result :: after →
      ∀ t ∈ tasks, t.taskId = result.taskId → ∀ dependency ∈ t.dependsOn,
        (⟨dependency, .success⟩ : TaskResult) ∈ before

section Unfold

variable {st : DagState} (hpending : st.pending ≠ [])

include hpending

theorem loop_finished {results : List TaskResult} {blockedTasks : List BlockedTask}
    (hpass : pass env st = .finished results blockedTasks) :
    loop env st = .ok (results, blockedTasks) := by
  rw [loop, if_neg hpending]
  split <;> simp_all

theorem loop_stalled {pending : List Task} (hpass : pass env st = .stalled pending) :
    loop env st = .error ⟨.runtimeError, "Artifact DAG stalled with unresolved tasks: " ++
      idsText ((sortTasks pending).map (·.taskId))⟩ := by
  rw [loop, if_neg hpending]
  split <;> simp_all

theorem loop_next {st' : DagState} (hpass : pass env st = .next st') :
    loop env st = loop env st' := by
  rw [loop, if_neg hpending]
  split <;> simp_all

end Unfold

theorem putTask_of_not_mem {pending : List Task} {task : Task}
    (h : task.taskId ∉ pending.map (·.taskId)) : putTask pending task = pending ++ [task] := by
  refine if_neg ?_
  intro hany
  obtain ⟨t, ht, hid⟩ := List.any_eq_true.mp hany
  exact h (List.mem_map.mpr ⟨t, ht, of_decide_eq_true hid⟩)

/-- Tasks with distinct ids are all pending at first. -/
theorem foldl_putTask : ∀ (ts : List Task) (pending : List Task),
    ((pending ++ ts).map (·.taskId)).Nodup → ts.foldl putTask pending = pending ++ ts
  | [], pending, _ => by rw [List.foldl_nil, List.append_nil]
  | task :: ts, pending, h => by
      have hnot : task.taskId ∉ pending.map (·.taskId) := by
        intro hmem
        rw [List.map_append, List.nodup_append] at h
        exact h.2.2 _ hmem _ (List.mem_cons_self ..) rfl
      have happend : pending ++ task :: ts = (pending ++ [task]) ++ ts := by simp
      rw [happend] at h
      rw [List.foldl_cons, putTask_of_not_mem hnot, foldl_putTask ts _ h, happend]

theorem timed_zero (hids : (tasks.map (·.taskId)).Nodup) : Timed env tasks 0
    { pending := tasks, completed := [], terminalFailures := [], results := [],
      blockedTasks := [] } := by
  constructor
  · exact hids
  · simp [HandledBefore]
  · intro id
    simp [not_succeedsBy_zero]
  · simp [HandledBefore]
  · exact fun k hk => absurd hk (Nat.not_lt_zero k)

theorem booked_start : Booked tasks
    { pending := tasks, completed := [], terminalFailures := [], results := [],
      blockedTasks := [] } := by
  constructor
  · exact List.Perm.refl _
  · exact fun t ht => ht
  · exact fun id hid => absurd hid List.not_mem_nil
  · intro before result after heq
    exact absurd heq (by simp)

/-- From a state between two passes, the loop gets through exactly when every task settles. -/
theorem loop_completes_iff (hids : (tasks.map (·.taskId)).Nodup) (st : DagState) :
    ∀ n, Timed env tasks n st → Booked tasks st →
      (Completes tasks (loop env st) ↔ ∀ t ∈ tasks, Settles env tasks t) := by
  induction st using loop.induct env with
  | case1 st hempty =>
      intro n h hbooked
      rw [loop, if_pos hempty]
      constructor
      · -- nothing is pending, so every task was handled or dropped before
        rintro - t ht
        refine h.settles ?_
        by_contra hnot
        rw [not_or] at hnot
        have hpending : t ∈ st.pending := by
          refine (h.mem_pending t).mpr ⟨ht, fun hhandled => hnot.1 hhandled.readyBy, ?_⟩
          rintro ⟨k, hk, hdropped⟩
          exact hnot.2 ⟨k, Nat.le_of_lt hk, hdropped⟩
        rw [hempty] at hpending
        cases hpending
      · intro _
        refine ⟨_, _, rfl, ?_, hbooked.ordered⟩
        have hsplit := hbooked.split
        rw [hempty] at hsplit
        simpa using hsplit
  | case2 st hpending results blockedTasks hpass =>
      intro n h hbooked
      obtain ⟨rfl, hsplit⟩ := hbooked.finished hids hpass
      rw [loop_finished hpending hpass]
      constructor
      · -- the last pass leaves no task, so every task was removed by it or before
        rintro - t ht
        refine h.settles ?_
        by_contra hnot
        rw [not_or] at hnot
        have hmem := (h.mem_remaining_iff hids).mpr ⟨ht, hnot⟩
        rw [(pass_finished hpass).2] at hmem
        cases hmem
      · intro _
        exact ⟨_, _, rfl, hsplit, hbooked.ordered⟩
  | case3 st hpending pending hpass =>
      intro n h hbooked
      rw [loop_stalled hpending hpass]
      constructor
      · rintro ⟨_, _, hok, -⟩
        cases hok
      · -- a task that is left would have settled by now
        intro hsettles
        obtain ⟨hready, hne⟩ := pass_stalled hpass
        obtain ⟨t, ht⟩ := List.exists_mem_of_ne_nil _ hne
        obtain ⟨htasks, hnot⟩ := (h.mem_remaining_iff hids).mp ht
        rcases h.removed_of_settles hids hready (hsettles t htasks) with hremoved | hremoved
        · exact absurd hremoved hnot.1
        · exact absurd hremoved hnot.2
  | case4 st hpending st' hpass ih =>
      intro n h hbooked
      rw [loop_next hpending hpass]
      exact ih (n + 1) (h.next hids hpass) (hbooked.next hids hpass)

/-- **The scheduler gets through a list of tasks exactly when every task settles.** -/
theorem executeDag_completes_iff (hids : (tasks.map (·.taskId)).Nodup) :
    Completes tasks (executeDag env tasks) ↔ ∀ t ∈ tasks, Settles env tasks t := by
  have hpending : tasks.foldl putTask [] = tasks := foldl_putTask tasks [] hids
  rw [executeDag, hpending]
  exact loop_completes_iff hids _ 0 (timed_zero hids) booked_start

/-! ### The first tasks of a cycle -/

/-- The first three tasks of `build_initial_tasks`, each depending on the one before. -/
def architectureTask : Task where
  taskId := "cycle01_zk_architecture"
  domain := .architecture
  strategyKey := "layered_proof_architecture"

def circuitTask : Task where
  taskId := "cycle01_circuit_design"
  domain := .circuit
  dependsOn := ["cycle01_zk_architecture"]
  strategyKey := "trace_to_constraints_mapping"

def backendTask : Task where
  taskId := "cycle01_backend_integration"
  domain := .backend
  dependsOn := ["cycle01_circuit_design"]
  strategyKey := "deterministic_trace_extraction"

/-- Every agent fails, and the memory blocks nothing. -/
def failingEnvironment : Environment where
  controlDecision _ := ⟨false, .none⟩
  succeeds _ := false
  asCompleted tasks := tasks
  asCompleted_perm _ := List.Perm.refl _

theorem executeDag_completes_architecture :
    Completes [architectureTask, circuitTask]
      (executeDag failingEnvironment [architectureTask, circuitTask]) := by
  refine (executeDag_completes_iff (by decide)).mpr ?_
  have hready : DependenciesSucceed failingEnvironment [architectureTask, circuitTask]
      architectureTask := ⟨0, fun dep hdep => absurd hdep List.not_mem_nil⟩
  intro t ht
  simp only [List.mem_cons, List.not_mem_nil, or_false] at ht
  rcases ht with rfl | rfl
  · exact .inl hready
  · exact .inr ⟨_, List.mem_singleton.mpr rfl, architectureTask, List.mem_cons_self .., rfl,
      hready, .inl ⟨rfl, rfl⟩⟩

/-- When the first task fails, the second is blocked and the third is waited for in vain. -/
theorem executeDag_stalls :
    executeDag failingEnvironment [architectureTask, circuitTask, backendTask] =
        .error ⟨.runtimeError, "Artifact DAG stalled with unresolved tasks: " ++
          idsText ["cycle01_backend_integration"]⟩ ∧
      ¬ Completes [architectureTask, circuitTask, backendTask]
        (executeDag failingEnvironment [architectureTask, circuitTask, backendTask]) := by
  have hfirst : pass failingEnvironment
      { pending := [architectureTask, circuitTask, backendTask], completed := [],
        terminalFailures := [], results := [], blockedTasks := [] } =
      .next { pending := [circuitTask, backendTask], completed := [],
              terminalFailures := ["cycle01_zk_architecture"],
              results := [⟨"cycle01_zk_architecture", .failure⟩], blockedTasks := [] } := rfl
  have hsecond : pass failingEnvironment
      { pending := [circuitTask, backendTask], completed := [],
        terminalFailures := ["cycle01_zk_architecture"],
        results := [⟨"cycle01_zk_architecture", .failure⟩], blockedTasks := [] } =
      .stalled [backendTask] := rfl
  have hstart : [architectureTask, circuitTask, backendTask].foldl putTask [] =
      [architectureTask, circuitTask, backendTask] := rfl
  have hstalls : executeDag failingEnvironment [architectureTask, circuitTask, backendTask] =
      .error ⟨.runtimeError, "Artifact DAG stalled with unresolved tasks: " ++
        idsText ["cycle01_backend_integration"]⟩ := by
    rw [executeDag, hstart, loop_next (by simp) hfirst, loop_stalled (by simp) hsecond]
    rfl
  refine ⟨hstalls, ?_⟩
  rintro ⟨_, _, hok, -⟩
  rw [hstalls] at hok
  cases hok

end Vrl.Coordinator

import Vrl.Coordinator.CycleGraph

/-!
# Vrl.Coordinator.CycleSupply

When no task of a cycle misses an artifact (`coordinator/system.py`).

A plan supplies its tasks if whatever one of them requires is produced by a task that it depends
on, directly or not, and by the agent that it is required from. Agents that mark what they produce
with their own id and the cycle, under ids that identify artifacts, then never make a run of the
plan raise about artifacts (**`executeCycle_undisturbed`**).
-/

open Vrl.Zk

namespace Vrl.Coordinator

variable {std : PyStd}

/-! ### Plans -/

/-- A task depends on another one of the plan. -/
def DependsOn (tasks : List CycleTask) (before after : CycleTask) : Prop :=
  before ∈ tasks ∧ before.taskId ∈ after.dependsOn

/-- The agent that is assigned to a domain. -/
def agentFor (agents : List Agent) (domain : TaskDomain) : Option Agent :=
  agents.find? fun agent => agent.domain = domain

/-- A requirement of a task is met by the task that produces what it asks for. -/
structure Meets (agents : List Agent) (tasks : List CycleTask) (task : CycleTask)
    (requirement : ArtifactRequirement) (producer : CycleTask) : Prop where
  earlier : Relation.TransGen (DependsOn tasks) producer task
  cycle : producer.cycle = task.cycle
  produces : requirement.artifactType ∈ producer.produces
  byType : requirement.artifactId = none
  producedBy : ∀ agent, agentFor agents producer.domain = some agent →
    requirement.producedBy.all (agent.agentId = ·) = true

/-- The plan assigns every task and meets all of its requirements. -/
structure Supplies (agents : List Agent) (tasks : List CycleTask) : Prop where
  distinct : (tasks.map (·.taskId)).Nodup
  assigned : ∀ task ∈ tasks, ∃ agent, agentFor agents task.domain = some agent
  meets : ∀ task ∈ tasks, ∀ requirement ∈ task.artifactRequirements,
    ∃ producer, Meets agents tasks task requirement producer

/-! ### Teams -/

/-- An agent of the team reports the artifact. -/
def Team.Reports (team : Team std) (a : DeterministicArtifact std) : Prop :=
  ∃ agent task report, team.run agent task = .ok report ∧ a ∈ report.producedArtifacts

/-- The agents mark what they produce, under ids that tell artifacts apart, and every artifact has
a canonical payload. -/
structure Team.Honest (team : Team std) : Prop where
  reportsGiven : team.ReportsGiven
  marks : ∀ agent task report, team.run agent task = .ok report →
    ∀ a ∈ report.producedArtifacts, a.producedBy = agent.agentId ∧ a.cycle = task.cycle
  identifies : ∀ a b, team.Reports a → team.Reports b → a.artifactId = b.artifactId → a = b
  payload : ∀ a, team.Reports a → ∃ text, a.canonicalPayload = .ok text

section Honest

variable {team : Team std} {tasks : List CycleTask} {g : ArtifactGraph std}

theorem Accepted.reports {assignment : Agent × PreparedTask std} {result : CycleResult std}
    (h : Accepted team tasks g assignment result) {a : DeterministicArtifact std}
    (ha : a ∈ result.producedArtifacts) : team.Reports a := by
  obtain ⟨report, hrun, -, hproduced, -, -⟩ := execute_success h.executed h.success
  exact ⟨_, _, report, hrun, hproduced ▸ ha⟩

theorem contentHash_eq (a : DeterministicArtifact std) :
    a.contentHash = do return sha256Hex std (← a.canonicalPayload) := by
  cases a <;> rfl

/-- An artifact does not collide with itself. -/
theorem checkExisting_self {a : DeterministicArtifact std} {text : String}
    (h : a.canonicalPayload = .ok text) : checkExisting a a = .ok a := by
  rw [checkExisting, contentHash_eq, h]
  simp

/-- **Nothing an honest team produces collides.** -/
theorem Team.Honest.not_collides (h : team.Honest) (hsound : Sound team tasks g) (e : PyError) :
    ¬ Collides team tasks g e := by
  rintro ⟨assignment, result, a, b, haccepted, ha, hb, hid, hcheck⟩
  obtain ⟨assignment', result', haccepted', hb'⟩ := hsound.provenance b hb
  have hreports := haccepted.reports ha
  have heq := h.identifies b a (haccepted'.reports hb') hreports hid
  obtain ⟨text, htext⟩ := h.payload a hreports
  rw [heq, checkExisting_self htext] at hcheck
  cases hcheck

theorem sizeViolations_ok {task : CycleTask} {artifacts : List (DeterministicArtifact std)}
    (h : ∀ a ∈ artifacts, ∃ text, a.canonicalPayload = .ok text) :
    ∃ violations, sizeViolations task artifacts = .ok violations := by
  rw [sizeViolations]
  cases task.maxArtifactBytes with
  | none => exact ⟨_, rfl⟩
  | some limit =>
      have hmap : ∃ violations, artifacts.mapM (sizeViolation limit) = .ok violations := by
        refine Except.mapM_ok_iff.mpr fun a ha => ?_
        obtain ⟨text, htext⟩ := h a ha
        exact ⟨_, by rw [sizeViolation, DeterministicArtifact.sizeBytes, htext]; rfl⟩
      obtain ⟨violations, hviolations⟩ := hmap
      exact ⟨violations.flatten, by simp [hviolations]⟩

/-- **The limits of an honest team's results can be checked.** -/
theorem Team.Honest.execute_ok (h : team.Honest) (assignment : Agent × PreparedTask std) :
    ∃ result, execute team assignment = .ok result := by
  rw [execute]
  cases hrun : team.run assignment.1 assignment.2 with
  | error text => exact ⟨_, rfl⟩
  | ok report =>
      obtain ⟨sizes, hsizes⟩ := @sizeViolations_ok std assignment.2.toCycleTask
        report.producedArtifacts fun a ha => h.payload a ⟨_, _, report, hrun, ha⟩
      simp only [enforceTaskConstraints, hsizes, Except.ok_bind]
      split <;> exact ⟨_, rfl⟩

end Honest

/-! ### What has completed is in stock -/

section Stock

variable {team : Team std} {tasks : List CycleTask} {st st' : CycleState std}

/-- What a task produces is in the graph, marked by its agent. -/
def InStock (team : Team std) (g : ArtifactGraph std) (task : CycleTask) : Prop :=
  ∀ artifactType ∈ task.produces, ∃ a ∈ g.artifacts, a.artifactType = artifactType ∧
    a.cycle = task.cycle ∧
    ∃ agent, agentFor team.agents task.domain = some agent ∧ a.producedBy = agent.agentId

/-- A sound state in which the tasks that have completed come with those they depend on, and with
what they produce. -/
structure Stocked (team : Team std) (tasks : List CycleTask) (st : CycleState std) : Prop extends
    SoundState team tasks st where
  closed : ∀ task ∈ tasks, task.taskId ∈ st.completed →
    ∀ dependency ∈ task.dependsOn, dependency ∈ st.completed
  inStock : ∀ task ∈ tasks, task.taskId ∈ st.completed → InStock team st.graph task

/-- The tasks that a scan finds ready have their dependencies completed. -/
theorem ready_done {scan : CycleScan std} (hscan : scanTasks team st = .ok scan) :
    ∀ assignment ∈ scan.readyAssignments,
      ∀ dependency ∈ assignment.2.dependsOn, dependency ∈ st.completed := by
  have henv : team.environment.controlDecision = team.controlDecision := rfl
  have hschedule := (scanTasks_ok henv hscan).1
  obtain ⟨ready, blocked, removed, hext⟩ := scanPending_extends team.environment st.schedule
  intro assignment hmem
  have hready : assignment.2.toTask ∈ ready := by
    have heq := hext.ready_eq
    rw [← hschedule, List.nil_append] at heq
    rw [← heq]
    exact List.mem_map_of_mem hmem
  exact hext.ready_done _ hready

theorem assign_eq_ok {task : PreparedTask std} {agent : Agent} (h : assign team task = .ok agent) :
    agentFor team.agents task.domain = some agent := by
  rw [assign] at h
  split at h
  · next found hfound =>
      cases h
      exact hfound
  · cases h

/-- What is completed after a pass was so before, or has an accepted result in it. -/
theorem mem_completed_of_pass {scan : CycleScan std} {results : List (CycleResult std)}
    (hrecord : recordResults results (st.scanned scan) = (st', .ok ())) {id : String} :
    id ∈ st'.completed ↔
      id ∈ st.completed ∨ ∃ result ∈ results, result.taskId = id ∧ result.status = .success := by
  have hschedule := (recordResults_ok hrecord).2.2
  have hcompleted : st'.completed =
      ((results.map CycleResult.outcome).foldl record (st.scanned scan).schedule).completed := by
    rw [← hschedule]
    rfl
  rw [hcompleted, mem_completed_foldl_record, List.mem_map]
  refine or_congr Iff.rfl (exists_congr fun result => and_congr_right fun _ => ?_)
  rw [CycleResult.outcome, TaskResult.mk.injEq]

theorem InStock.mono {g g' : ArtifactGraph std} {task : CycleTask} (h : InStock team g task)
    (hsub : g.artifacts ⊆ g'.artifacts) : InStock team g' task := by
  intro artifactType htype
  obtain ⟨a, ha, hrest⟩ := h artifactType htype
  exact ⟨a, hsub ha, hrest⟩

/-- **A pass of an honest team keeps what has completed in stock.** -/
theorem Stocked.next (hhonest : team.Honest) (hdistinct : (tasks.map (·.taskId)).Nodup)
    (h : Stocked team tasks st) (hpass : cyclePass team st = .next st') :
    Stocked team tasks st' := by
  have hsound := h.toSoundState.next hhonest.reportsGiven hpass
  obtain ⟨scan, results, hscan, -, hexecute, hrecord⟩ := cyclePass_next hpass
  have hof := accepted_of_pass h.graph h.pending hscan hexecute
  obtain ⟨-, hgrow, hstored, -⟩ := (h.toSoundState.scanned scan).graph.recordResults
    hhonest.reportsGiven (fun result hresult hstatus => by
      obtain ⟨assignment, -, hassignment⟩ := hof result hresult hstatus
      exact ⟨assignment, hassignment⟩) hrecord
  have hcompleted : ∀ {id}, id ∈ st'.completed ↔ id ∈ st.completed ∨
      ∃ result ∈ results, result.taskId = id ∧ result.status = .success :=
    mem_completed_of_pass hrecord
  -- a task that completes in this pass is the one of an accepted result
  have hnew : ∀ task ∈ tasks, ∀ result ∈ results, result.taskId = task.taskId →
      result.status = .success → ∃ assignment ∈ scan.readyAssignments,
        assignment.2.toCycleTask = task ∧
          Accepted team tasks st.graph assignment result := by
    intro task htask result hresult hid hstatus
    obtain ⟨assignment, hmem, haccepted⟩ := hof result hresult hstatus
    refine ⟨assignment, hmem, ?_, haccepted⟩
    refine List.inj_on_of_nodup_map hdistinct haccepted.task htask ?_
    exact (execute_taskId haccepted.executed).symm.trans hid
  refine { toSoundState := hsound, closed := ?_, inStock := ?_ }
  · intro task htask hdone dependency hdependency
    refine hcompleted.mpr (.inl ?_)
    rcases hcompleted.mp hdone with hold | ⟨result, hresult, hid, hstatus⟩
    · exact h.closed task htask hold dependency hdependency
    · obtain ⟨assignment, hmem, rfl, -⟩ := hnew task htask result hresult hid hstatus
      exact ready_done hscan assignment hmem dependency hdependency
  · intro task htask hdone
    rcases hcompleted.mp hdone with hold | ⟨result, hresult, hid, hstatus⟩
    · exact (h.inStock task htask hold).mono hgrow
    · obtain ⟨assignment, -, rfl, haccepted⟩ := hnew task htask result hresult hid hstatus
      obtain ⟨report, hrun, -, hproduced, hlimits, -⟩ :=
        execute_success haccepted.executed haccepted.success
      intro artifactType htype
      obtain ⟨a, ha, rfl⟩ := List.mem_map.mp (hlimits.types.mem_iff.mpr htype)
      have ha' : a ∈ result.producedArtifacts := hproduced ▸ ha
      obtain ⟨hproducedBy, hcycle⟩ := hhonest.marks _ _ _ hrun a ha
      obtain ⟨b, hb, hidB⟩ := List.mem_map.mp (hstored rfl result hresult hstatus a ha')
      obtain ⟨assignment', result', haccepted', hb'⟩ := hsound.graph.provenance b hb
      have heq := hhonest.identifies b a (haccepted'.reports hb') (haccepted.reports ha') hidB
      exact ⟨a, heq ▸ hb, rfl, hcycle, assignment.1, assign_eq_ok haccepted.assigned, hproducedBy⟩

theorem stocked_start : Stocked team tasks (startCycle std tasks) where
  toSoundState := soundState_start
  closed _ _ h := absurd h List.not_mem_nil
  inStock _ _ h := absurd h List.not_mem_nil

/-- What a task depends on, directly or not, has completed when its dependencies have. -/
theorem Stocked.completed_of_earlier (h : Stocked team tasks st) {producer task : CycleTask}
    (hearlier : Relation.TransGen (DependsOn tasks) producer task)
    (hdone : ∀ dependency ∈ task.dependsOn, dependency ∈ st.completed) :
    producer ∈ tasks ∧ producer.taskId ∈ st.completed := by
  induction hearlier using Relation.TransGen.head_induction_on with
  | single hdepends => exact ⟨hdepends.1, hdone _ hdepends.2⟩
  | head hdepends _ ih => exact ⟨hdepends.1, h.closed _ ih.1 ih.2 _ hdepends.2⟩

/-- **A task of a plan that supplies it can be prepared when it is ready.** -/
theorem Stocked.prepareTask_ok (h : Stocked team tasks st)
    (hsupplies : Supplies team.agents tasks) {task : CycleTask} (htask : task ∈ tasks)
    (hdone : ∀ dependency ∈ task.dependsOn, dependency ∈ st.completed) :
    ∃ prepared, prepareTask task st.graph = .ok prepared := by
  have hrequired : ∃ artifacts, requiredArtifacts task st.graph = .ok artifacts := by
    refine Except.mapM_ok_iff.mpr fun requirement hrequirement => ?_
    obtain ⟨producer, hmeets⟩ := hsupplies.meets task htask requirement hrequirement
    obtain ⟨hproducer, hcompleted⟩ := h.completed_of_earlier hmeets.earlier hdone
    obtain ⟨a, ha, htype, hcycle, agent, hagent, hproducedBy⟩ :=
      h.inStock producer hproducer hcompleted _ hmeets.produces
    rw [hmeets.byType, ArtifactGraph.require]
    refine (latest_ok_iff h.graph.consistent h.graph.types).mpr ⟨a, ha, htype, ?_, ?_⟩
    · rw [hproducedBy]
      exact hmeets.producedBy agent hagent
    · rw [hcycle, hmeets.cycle]
      exact decide_eq_true rfl
  obtain ⟨artifacts, hartifacts⟩ := hrequired
  exact ⟨_, by rw [prepareTask, hartifacts]; rfl⟩

theorem Supplies.assign_ok (hsupplies : Supplies team.agents tasks) {task : PreparedTask std}
    (htask : task.toCycleTask ∈ tasks) : ∃ agent, assign team task = .ok agent := by
  obtain ⟨agent, hagent⟩ := hsupplies.assigned _ htask
  refine ⟨agent, ?_⟩
  rw [agentFor] at hagent
  rw [assign, hagent]

/-- **An honest team runs a plan that supplies its tasks without raising about artifacts**: a run
returns or stalls. -/
theorem executeCycle_undisturbed (hhonest : team.Honest) (hsupplies : Supplies team.agents tasks) :
    Undisturbed (executeCycle team tasks).2 := by
  refine @cycleLoop_induction std team (Stocked team tasks) (fun _ stop => Undisturbed stop) ?_ ?_
    (fun st st' hst hpass => hst.next hhonest hsupplies.distinct hpass) _ stocked_start
  · intro st _ _ place e he
    cases he
  · intro st st' stop hst hpass place e he
    have hended := hst.toSoundState.ended hhonest.reportsGiven hpass
    obtain ⟨⟨place', e'⟩, hscan, -, rfl⟩ | ⟨scan, e', -, -, hexecute, rfl⟩ |
      ⟨scan, results, e', -, -, -, rfl⟩ | ⟨scan, -, -, -, rfl⟩ := cyclePass_ended hpass
    · obtain ⟨task, htask, hdone, ⟨-, herror⟩ | ⟨-, prepared, hprepared, herror⟩⟩ :=
        scanTasks_error hscan
      · obtain ⟨prepared, hprepared⟩ := hst.prepareTask_ok hsupplies (hst.pending htask) hdone
        rw [hprepared] at herror
        cases herror
      · have hmem : prepared.toCycleTask ∈ tasks := by
          rw [prepareTask_toCycleTask hprepared]
          exact hst.pending htask
        obtain ⟨agent, hagent⟩ := hsupplies.assign_ok hmem
        rw [hagent] at herror
        cases herror
    · obtain ⟨results, hresults⟩ := Except.mapM_ok_iff.mpr fun assignment
        (_ : assignment ∈ team.asCompleted scan.readyAssignments) => hhonest.execute_ok assignment
      rw [executeAssignments, hresults] at hexecute
      cases hexecute
    · exact absurd (hended.2 e' rfl) (hhonest.not_collides hended.1 e')
    · split at he
      · cases he
      · cases he
        rfl

end Stock

/-! ### A team -/

/-- The team of two that works in the first cycle is honest. -/
theorem circuitTeam_honest (agents : List Agent) : (circuitTeam agents).Honest := by
  have hreports : ∀ {a}, (circuitTeam agents).Reports a →
      ∃ producedBy, a = sampleCircuit producedBy ∧
        (producedBy = "zk_architect" ∨ producedBy = "circuit_engineer") := by
    rintro a ⟨agent, task, report, hrun, ha⟩
    obtain ⟨-, hagent, hproduced, -⟩ := circuitTeam_run hrun
    rw [hproduced] at ha
    exact ⟨agent.agentId, List.mem_singleton.mp ha, hagent⟩
  constructor
  · exact circuitTeam_reportsGiven agents
  · intro agent task report hrun a ha
    obtain ⟨hcycle, -, hproduced, -⟩ := circuitTeam_run hrun
    rw [hproduced] at ha
    cases List.mem_singleton.mp ha
    exact ⟨rfl, hcycle.symm⟩
  · intro a b ha hb hid
    obtain ⟨nameA, rfl, hnameA⟩ := hreports ha
    obtain ⟨nameB, rfl, hnameB⟩ := hreports hb
    rcases hnameA with rfl | rfl <;> rcases hnameB with rfl | rfl
    · rfl
    · exact absurd hid (by decide)
    · exact absurd hid (by decide)
    · rfl
  · intro a ha
    obtain ⟨name, rfl, rfl | rfl⟩ := hreports ha <;>
      exact (checkedCanonicalJson_ok_iff lengthStd).mpr (by decide +kernel)

end Vrl.Coordinator

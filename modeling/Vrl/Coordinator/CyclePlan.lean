import Vrl.Coordinator.CycleSupply
import Vrl.Lib.TextOrder

/-!
# Vrl.Coordinator.CyclePlan

The ten tasks of a cycle (`coordinator/system.py`, `agents/zk_unit.py`).

Five of them form a chain, three hang off its end, and so does the testing task, which the security
task waits for. Each task requires artifacts of tasks that come before it, so that none is missing
when it is prepared. What is left to go wrong is the scheduler: a task that is dropped is no failure
to those that wait for it. So a cycle returns only if the whole chain succeeds
(**`initial_cycle_returns_iff`**).
-/

open TextCodec

namespace Vrl.Coordinator

/-! ### The tasks -/

/-- `f"cycle{cycle:02d}"`. -/
def cyclePrefix (cycle : Int) : String :=
  let digits := intText cycle
  "cycle" ++ String.ofList (if digits.length < 2 then '0' :: digits else digits)

/-- A requirement by type and producer. -/
def requiredFrom (artifactType : ArtifactType) (producedBy : String) : ArtifactRequirement where
  artifactType
  producedBy := some producedBy

section Tasks

variable (cycle : Int)

/-- The entries of `build_initial_tasks`. -/
def zkArchitecture : CycleTask where
  taskId := cyclePrefix cycle ++ "_zk_architecture"
  domain := .architecture
  strategyKey := "layered_proof_architecture"
  cycle
  produces := [.circuit]
  maxExecutionMs := some 750
  maxArtifactBytes := some 32768
  maxCircuitConstraints := some 64

def circuitDesign : CycleTask where
  taskId := cyclePrefix cycle ++ "_circuit_design"
  domain := .circuit
  dependsOn := [cyclePrefix cycle ++ "_zk_architecture"]
  strategyKey := "trace_to_constraints_mapping"
  cycle
  produces := [.circuit]
  artifactRequirements := [requiredFrom .circuit "zk_architect"]
  maxExecutionMs := some 750
  maxArtifactBytes := some 32768
  maxCircuitConstraints := some 64

def backendIntegration : CycleTask where
  taskId := cyclePrefix cycle ++ "_backend_integration"
  domain := .backend
  dependsOn := [cyclePrefix cycle ++ "_circuit_design"]
  strategyKey := "deterministic_trace_extraction"
  cycle
  produces := [.trace, .witness]
  artifactRequirements := [requiredFrom .circuit "circuit_engineer"]
  maxExecutionMs := some 1000
  maxArtifactBytes := some 65536

def proveBundle : CycleTask where
  taskId := cyclePrefix cycle ++ "_prove_bundle"
  domain := .performance
  dependsOn := [cyclePrefix cycle ++ "_backend_integration"]
  strategyKey := "structured_stub_proof"
  cycle
  produces := [.proof]
  artifactRequirements := [requiredFrom .circuit "circuit_engineer",
    requiredFrom .trace "backend_integration", requiredFrom .witness "backend_integration"]
  maxExecutionMs := some 1000
  maxArtifactBytes := some 32768

def verifier : CycleTask where
  taskId := cyclePrefix cycle ++ "_verifier"
  domain := .verification
  dependsOn := [cyclePrefix cycle ++ "_prove_bundle"]
  strategyKey := "structured_stub_verifier"
  cycle
  produces := [.verificationResult]
  artifactRequirements := [requiredFrom .circuit "circuit_engineer",
    requiredFrom .trace "backend_integration", requiredFrom .witness "backend_integration",
    requiredFrom .proof "performance_optimization"]
  maxExecutionMs := some 1000
  maxArtifactBytes := some 32768

def testing : CycleTask where
  taskId := cyclePrefix cycle ++ "_testing"
  domain := .testing
  dependsOn := [cyclePrefix cycle ++ "_verifier"]
  strategyKey := "artifact_pipeline_smoke"
  cycle
  produces := [.verificationResult]
  artifactRequirements := [requiredFrom .proof "performance_optimization",
    requiredFrom .verificationResult "verifier_agent"]
  maxExecutionMs := some 1200
  maxArtifactBytes := some 32768

def security : CycleTask where
  taskId := cyclePrefix cycle ++ "_security"
  domain := .security
  dependsOn := [cyclePrefix cycle ++ "_testing"]
  strategyKey := "continuous_adversarial_checks"
  cycle
  produces := [.verificationResult]
  artifactRequirements := [requiredFrom .circuit "circuit_engineer",
    requiredFrom .trace "backend_integration", requiredFrom .witness "backend_integration",
    requiredFrom .proof "performance_optimization"]
  maxExecutionMs := some 1500
  maxArtifactBytes := some 32768

def dataIntegrity : CycleTask where
  taskId := cyclePrefix cycle ++ "_data_integrity"
  domain := .dataIntegrity
  dependsOn := [cyclePrefix cycle ++ "_verifier"]
  strategyKey := "repeatable_trace_bundle"
  cycle
  produces := [.verificationResult]
  artifactRequirements := [requiredFrom .trace "backend_integration",
    requiredFrom .witness "backend_integration", requiredFrom .proof "performance_optimization"]
  maxExecutionMs := some 1200
  maxArtifactBytes := some 32768

def devops : CycleTask where
  taskId := cyclePrefix cycle ++ "_devops"
  domain := .devops
  dependsOn := [cyclePrefix cycle ++ "_verifier"]
  strategyKey := "service_per_folder_topology"
  cycle
  produces := [.verificationResult]
  artifactRequirements := [requiredFrom .verificationResult "verifier_agent"]
  maxExecutionMs := some 750
  maxArtifactBytes := some 32768

def research : CycleTask where
  taskId := cyclePrefix cycle ++ "_research"
  domain := .research
  dependsOn := [cyclePrefix cycle ++ "_verifier"]
  strategyKey := "plonk_first_migration_path"
  cycle
  produces := [.verificationResult]
  artifactRequirements := [requiredFrom .circuit "circuit_engineer",
    requiredFrom .proof "performance_optimization",
    requiredFrom .verificationResult "verifier_agent"]
  maxExecutionMs := some 750
  maxArtifactBytes := some 32768

/-- `build_initial_tasks`. -/
def buildInitialTasks : List CycleTask :=
  [zkArchitecture cycle, circuitDesign cycle, backendIntegration cycle, proveBundle cycle,
    verifier cycle, testing cycle, security cycle, dataIntegrity cycle, devops cycle,
    research cycle]

/-- The tasks that follow one another. -/
def chain : List CycleTask :=
  [zkArchitecture cycle, circuitDesign cycle, backendIntegration cycle, proveBundle cycle,
    verifier cycle]

end Tasks

/-- `build_agent_team`. -/
def buildAgentTeam : List Agent :=
  [⟨"zk_architect", .architecture⟩, ⟨"circuit_engineer", .circuit⟩,
    ⟨"backend_integration", .backend⟩, ⟨"verifier_agent", .verification⟩,
    ⟨"performance_optimization", .performance⟩, ⟨"security_audit", .security⟩,
    ⟨"data_integrity", .dataIntegrity⟩, ⟨"devops_infrastructure", .devops⟩,
    ⟨"testing_simulation", .testing⟩, ⟨"research_agent", .research⟩]

/-! ### Ids -/

/-- The ids of the tasks without the prefix. -/
def suffixes : List String :=
  ["_zk_architecture", "_circuit_design", "_backend_integration", "_prove_bundle", "_verifier",
    "_testing", "_security", "_data_integrity", "_devops", "_research"]

theorem initialTasks_ids (cycle : Int) :
    (buildInitialTasks cycle).map (·.taskId) = suffixes.map (cyclePrefix cycle ++ ·) := rfl

theorem append_right_injective (s : String) : Function.Injective (s ++ ·) := by
  intro t u h
  have hlist := congrArg String.toList h
  simp only [String.toList_append, List.append_right_inj] at hlist
  exact String.toList_injective hlist

/-- The ids are distinct. -/
theorem initialTasks_nodup (cycle : Int) : ((buildInitialTasks cycle).map (·.taskId)).Nodup := by
  rw [initialTasks_ids]
  exact List.Nodup.map (append_right_injective _) (by decide)

theorem append_lt_append_of_lt {s t u : String} (h : t < u) : s ++ t < s ++ u := by
  rw [String.lt_iff_toList_lt, String.toList_append, String.toList_append]
  exact List.append_left_lt (String.lt_iff_toList_lt.mp h)

/-- The security task comes before the one that it waits for. -/
theorem security_lt_testing (cycle : Int) : (security cycle).taskId < (testing cycle).taskId :=
  append_lt_append_of_lt (by decide)

/-! ### Which tasks settle -/

/-- The tasks as the scheduler sees them. -/
def plan (cycle : Int) : List Task := (buildInitialTasks cycle).map CycleTask.toTask

section Settles

variable {env : Environment} {cycle : Int}

/-- The memory lets the task pass, and it succeeds. -/
def Passes (env : Environment) (task : CycleTask) : Prop :=
  (env.controlDecision task.toTask).blocked = false ∧ env.succeeds task.toTask = true

theorem plan_nodup (cycle : Int) : ((plan cycle).map (·.taskId)).Nodup := by
  rw [plan, List.map_map]
  exact initialTasks_nodup cycle

/-- A task of the plan has succeeded after a pass if it was ready then and passes. -/
theorem succeedsBy_succ {task : CycleTask} (htask : task ∈ buildInitialTasks cycle) (n : Nat) :
    SucceedsBy env (plan cycle) (n + 1) task.taskId ↔
      Passes env task ∧ ReadyBy env (plan cycle) n task.toTask := by
  have hmem : task.toTask ∈ plan cycle := List.mem_map_of_mem htask
  constructor
  · rintro ⟨t, ht, hid, hblocked, hsucceeds, hready⟩
    have heq := eq_of_taskId_eq (plan_nodup cycle) ht hmem hid
    subst heq
    exact ⟨⟨hblocked, hsucceeds⟩, hready⟩
  · rintro ⟨⟨hblocked, hsucceeds⟩, hready⟩
    exact ⟨task.toTask, hmem, rfl, hblocked, hsucceeds, hready⟩

/-- A task with one dependency waits for it. -/
theorem readyBy_singleton {task : Task} {id : String} (h : task.dependsOn = [id]) (n : Nat) :
    ReadyBy env (plan cycle) n task ↔ SucceedsBy env (plan cycle) n id := by
  rw [ReadyBy, h, List.forall_mem_singleton]

/-- The link of a task of the plan to the one that it depends on. -/
structure Follows (cycle : Int) (before after : CycleTask) : Prop where
  mem : before ∈ buildInitialTasks cycle
  dependsOn : after.dependsOn = [before.taskId]

theorem Follows.readyBy_succ {before after : CycleTask} (h : Follows cycle before after) (n : Nat) :
    ReadyBy env (plan cycle) (n + 1) after.toTask ↔
      Passes env before ∧ ReadyBy env (plan cycle) n before.toTask := by
  rw [readyBy_singleton h.dependsOn, succeedsBy_succ h.mem]

theorem Follows.not_readyBy_zero {before after : CycleTask} (h : Follows cycle before after) :
    ¬ ReadyBy env (plan cycle) 0 after.toTask := by
  rw [readyBy_singleton h.dependsOn]
  exact not_succeedsBy_zero

/-- The tasks that have to succeed one after the other before a task is ready. -/
inductive Path (cycle : Int) : List CycleTask → CycleTask → Prop
  | start {task : CycleTask} (h : task.dependsOn = []) : Path cycle [] task
  | step {tasks : List CycleTask} {before after : CycleTask} (h : Path cycle tasks before)
      (hfollows : Follows cycle before after) : Path cycle (tasks ++ [before]) after

/-- **A task is ready once the tasks on the way to it have passed**, one in each pass. -/
theorem Path.readyBy_iff {tasks : List CycleTask} {task : CycleTask} (h : Path cycle tasks task)
    (n : Nat) : ReadyBy env (plan cycle) n task.toTask ↔
      tasks.length ≤ n ∧ ∀ t ∈ tasks, Passes env t := by
  induction h generalizing n with
  | start hnone =>
      refine iff_of_true ?_ ⟨Nat.zero_le n, fun t ht => absurd ht List.not_mem_nil⟩
      rw [ReadyBy, hnone]
      exact fun dependency hdependency => absurd hdependency List.not_mem_nil
  | @step tasks before after _ hfollows ih =>
      rw [List.length_append, List.length_singleton]
      cases n with
      | zero =>
          refine iff_of_false hfollows.not_readyBy_zero ?_
          rintro ⟨hle, -⟩
          exact absurd hle (Nat.not_succ_le_zero _)
      | succ n =>
          rw [hfollows.readyBy_succ, ih, List.forall_mem_append, List.forall_mem_singleton,
            Nat.add_le_add_iff_right]
          exact ⟨fun h => ⟨h.2.1, h.2.2, h.1⟩, fun h => ⟨h.2.2, h.1, h.2.1⟩⟩

theorem Path.dependenciesSucceed_iff {tasks : List CycleTask} {task : CycleTask}
    (h : Path cycle tasks task) :
    DependenciesSucceed env (plan cycle) task.toTask ↔ ∀ t ∈ tasks, Passes env t := by
  constructor
  · rintro ⟨n, hn⟩
    exact ((h.readyBy_iff n).mp hn).2
  · intro hpasses
    exact ⟨tasks.length, (h.readyBy_iff _).mpr ⟨Nat.le_refl _, hpasses⟩⟩

theorem path_circuitDesign : Path cycle [zkArchitecture cycle] (circuitDesign cycle) :=
  .step (.start rfl) ⟨by simp [buildInitialTasks], rfl⟩

theorem path_backendIntegration :
    Path cycle [zkArchitecture cycle, circuitDesign cycle] (backendIntegration cycle) :=
  .step path_circuitDesign ⟨by simp [buildInitialTasks], rfl⟩

theorem path_proveBundle :
    Path cycle [zkArchitecture cycle, circuitDesign cycle, backendIntegration cycle]
      (proveBundle cycle) :=
  .step path_backendIntegration ⟨by simp [buildInitialTasks], rfl⟩

theorem path_verifier :
    Path cycle [zkArchitecture cycle, circuitDesign cycle, backendIntegration cycle,
      proveBundle cycle] (verifier cycle) :=
  .step path_proveBundle ⟨by simp [buildInitialTasks], rfl⟩

/-- The tasks behind the verifier wait for the whole chain. -/
theorem path_of_verifier {task : CycleTask} (h : task.dependsOn = [(verifier cycle).taskId]) :
    Path cycle (chain cycle) task :=
  .step path_verifier ⟨by simp [buildInitialTasks], h⟩

theorem path_testing : Path cycle (chain cycle) (testing cycle) := path_of_verifier rfl

theorem path_dataIntegrity : Path cycle (chain cycle) (dataIntegrity cycle) := path_of_verifier rfl

theorem path_devops : Path cycle (chain cycle) (devops cycle) := path_of_verifier rfl

theorem path_research : Path cycle (chain cycle) (research cycle) := path_of_verifier rfl

theorem path_security : Path cycle (chain cycle ++ [testing cycle]) (security cycle) :=
  .step path_testing ⟨by simp [buildInitialTasks], rfl⟩

/-- What the scheduler needs to get through the plan. -/
structure PlanPasses (env : Environment) (cycle : Int) : Prop where
  chain : ∀ task ∈ chain cycle, Passes env task
  leaves : (env.controlDecision (testing cycle).toTask).blocked = true →
    ∃ task ∈ [dataIntegrity cycle, devops cycle, research cycle],
      (env.controlDecision task.toTask).blocked = false

/-- **Every task of the plan settles exactly if the chain passes**, and, where the memory blocks
the testing task, a task that is executed beside it makes for another pass. -/
theorem plan_settles_iff :
    (∀ task ∈ plan cycle, Settles env (plan cycle) task) ↔ PlanPasses env cycle := by
  constructor
  · -- the security task tells all
    intro hsettles
    have hsecurity : (security cycle).toTask ∈ plan cycle :=
      List.mem_map_of_mem (by simp [buildInitialTasks])
    have htesting : (testing cycle).toTask ∈ plan cycle :=
      List.mem_map_of_mem (by simp [buildInitialTasks])
    have hpath : Path cycle (Coordinator.chain cycle) (testing cycle) := path_testing
    rcases hsettles _ hsecurity with hready | ⟨dependency, hdependency, d, hd, hid, hseen⟩
    · have hall := path_security.dependenciesSucceed_iff.mp hready
      rw [List.forall_mem_append, List.forall_mem_singleton] at hall
      refine ⟨hall.1, fun hblocked => ?_⟩
      rw [hall.2.1] at hblocked
      cases hblocked
    · have hdep : dependency = (testing cycle).taskId := List.mem_singleton.mp hdependency
      have heq := eq_of_taskId_eq (plan_nodup cycle) hd htesting (hid.trans hdep)
      subst heq
      obtain ⟨hready, hfailure⟩ := hseen
      have hchain := hpath.dependenciesSucceed_iff.mp hready
      refine ⟨hchain, fun hblocked => ?_⟩
      obtain ⟨hpasses, -⟩ | ⟨-, hlt | ⟨x, ⟨hx, hxready, hxblocked⟩, hlater⟩⟩ := hfailure
      · rw [hpasses] at hblocked
        cases hblocked
      · exact absurd hlt (String.lt_asymm (security_lt_testing cycle))
      · obtain ⟨task, htask, rfl⟩ := List.mem_map.mp hx
        -- a task of the chain would be ready before the chain is through
        have hearly : ∀ tasks, Path cycle tasks task → tasks.length < 5 → False := by
          intro tasks htasks hlt
          have hready' := htasks.dependenciesSucceed_iff.mp hxready
          have hlast := hlater tasks.length ((htasks.readyBy_iff _).mpr ⟨Nat.le_refl _, hready'⟩)
          have hle := ((hpath.readyBy_iff _).mp hlast).1
          exact absurd hle (Nat.not_le.mpr hlt)
        simp only [buildInitialTasks, List.mem_cons, List.not_mem_nil, or_false] at htask
        rcases htask with rfl | rfl | rfl | rfl | rfl | rfl | rfl | rfl | rfl | rfl
        · exact (hearly _ (.start rfl) (by decide)).elim
        · exact (hearly _ path_circuitDesign (by simp)).elim
        · exact (hearly _ path_backendIntegration (by simp)).elim
        · exact (hearly _ path_proveBundle (by simp)).elim
        · exact (hearly _ path_verifier (by simp)).elim
        · rw [hxblocked] at hblocked
          cases hblocked
        · have hall := path_security.dependenciesSucceed_iff.mp hxready
          have hpasses := (hall _ (List.mem_append_right _ (List.mem_singleton.mpr rfl))).1
          rw [hpasses] at hblocked
          cases hblocked
        · exact ⟨_, by simp, hxblocked⟩
        · exact ⟨_, by simp, hxblocked⟩
        · exact ⟨_, by simp, hxblocked⟩
  · intro h
    have hsettles : ∀ {tasks task}, Path cycle tasks task →
        (∀ t ∈ tasks, t ∈ Coordinator.chain cycle) → Settles env (plan cycle) task.toTask :=
      fun hpath hsub => .inl (hpath.dependenciesSucceed_iff.mpr fun t ht => h.chain t (hsub t ht))
    have hleaf : ∀ {task : CycleTask}, Path cycle (Coordinator.chain cycle) task →
        Settles env (plan cycle) task.toTask := fun hpath => hsettles hpath fun _ ht => ht
    intro t ht
    obtain ⟨task, htask, rfl⟩ := List.mem_map.mp ht
    simp only [buildInitialTasks, List.mem_cons, List.not_mem_nil, or_false] at htask
    rcases htask with rfl | rfl | rfl | rfl | rfl | rfl | rfl | rfl | rfl | rfl
    · exact hsettles (.start rfl) (by simp)
    · exact hsettles path_circuitDesign (by simp [Coordinator.chain])
    · exact hsettles path_backendIntegration (by simp [Coordinator.chain])
    · exact hsettles path_proveBundle (by simp [Coordinator.chain])
    · exact hsettles path_verifier (by simp [Coordinator.chain])
    · exact hleaf path_testing
    · -- the security task is settled by the outcome of the testing task
      have hready : DependenciesSucceed env (plan cycle) (testing cycle).toTask :=
        path_testing.dependenciesSucceed_iff.mpr h.chain
      have hseen : ¬ Passes env (testing cycle) →
          FailureSeen env (plan cycle) (testing cycle).toTask (security cycle).toTask := by
        intro hnot
        refine ⟨hready, ?_⟩
        cases hblocked : (env.controlDecision (testing cycle).toTask).blocked with
        | false =>
            refine .inl ⟨rfl, ?_⟩
            rw [Passes, not_and] at hnot
            exact Bool.eq_false_iff.mpr (hnot hblocked)
        | true =>
            obtain ⟨task, hleaf', hexecuted⟩ := h.leaves hblocked
            have hsame : task ∈ buildInitialTasks cycle ∧
                task.dependsOn = (testing cycle).dependsOn := by
              simp only [List.mem_cons, List.not_mem_nil, or_false] at hleaf'
              rcases hleaf' with rfl | rfl | rfl <;> exact ⟨by simp [buildInitialTasks], rfl⟩
            refine .inr ⟨rfl, .inr ⟨task.toTask, ⟨List.mem_map_of_mem hsame.1, ?_, hexecuted⟩, ?_⟩⟩
            · obtain ⟨n, hn⟩ := hready
              exact ⟨n, fun dependency hdependency => hn dependency (hsame.2 ▸ hdependency)⟩
            · exact fun n hn dependency hdependency => hn dependency (hsame.2.symm ▸ hdependency)
      by_cases hpasses : Passes env (testing cycle)
      · refine .inl (path_security.dependenciesSucceed_iff.mpr ?_)
        exact List.forall_mem_append.mpr ⟨h.chain, List.forall_mem_singleton.mpr hpasses⟩
      · exact .inr ⟨_, List.mem_singleton.mpr rfl, _,
          List.mem_map_of_mem (by simp [buildInitialTasks]), rfl, hseen hpasses⟩
    · exact hleaf path_dataIntegrity
    · exact hleaf path_devops
    · exact hleaf path_research

end Settles

/-! ### The plan supplies its tasks -/

section Supply

variable {cycle : Int}

/-- The tasks on the way to a task are those that it depends on. -/
theorem Path.dependsOn {tasks : List CycleTask} {task : CycleTask} (h : Path cycle tasks task) :
    ∀ t ∈ tasks, Relation.TransGen (DependsOn (buildInitialTasks cycle)) t task := by
  induction h with
  | start => exact fun t ht => absurd ht List.not_mem_nil
  | @step tasks before after _ hfollows ih =>
      have hdepends : DependsOn (buildInitialTasks cycle) before after :=
        ⟨hfollows.mem, hfollows.dependsOn ▸ List.mem_singleton.mpr rfl⟩
      intro t ht
      rcases List.mem_append.mp ht with ht | ht
      · exact (ih t ht).tail hdepends
      · cases List.mem_singleton.mp ht
        exact .single hdepends

/-- The agent of a task has the given id. -/
def HasAgent (task : CycleTask) (agentId : String) : Prop :=
  ∃ agent, agentFor buildAgentTeam task.domain = some agent ∧ agent.agentId = agentId

theorem meets_of_path {tasks : List CycleTask} {task producer : CycleTask}
    (hpath : Path cycle tasks task) (hproducer : producer ∈ tasks)
    (hcycle : producer.cycle = task.cycle) {artifactType : ArtifactType}
    (htype : artifactType ∈ producer.produces) {agentId : String}
    (hagent : HasAgent producer agentId) :
    Meets buildAgentTeam (buildInitialTasks cycle) task (requiredFrom artifactType agentId)
      producer where
  earlier := hpath.dependsOn producer hproducer
  cycle := hcycle
  produces := htype
  byType := rfl
  producedBy agent hagent' := by
    obtain ⟨agent', hagent, rfl⟩ := hagent
    rw [hagent] at hagent'
    cases hagent'
    exact decide_eq_true rfl

/-- A requirement of what the chain produces, by tasks that are among the given ones. -/
def FromChain (cycle : Int) (tasks : List CycleTask) (requirement : ArtifactRequirement) : Prop :=
  requirement = requiredFrom .circuit "circuit_engineer" ∧ circuitDesign cycle ∈ tasks ∨
    requirement = requiredFrom .trace "backend_integration" ∧ backendIntegration cycle ∈ tasks ∨
    requirement = requiredFrom .witness "backend_integration" ∧ backendIntegration cycle ∈ tasks ∨
    requirement = requiredFrom .proof "performance_optimization" ∧ proveBundle cycle ∈ tasks ∨
    requirement = requiredFrom .verificationResult "verifier_agent" ∧ verifier cycle ∈ tasks

/-- A task has what the chain produces on the way to it. -/
theorem meets_of_chain {tasks : List CycleTask} {task : CycleTask} (hpath : Path cycle tasks task)
    (hcycle : task.cycle = cycle) {requirement : ArtifactRequirement}
    (hrequirement : FromChain cycle tasks requirement) :
    ∃ producer, Meets buildAgentTeam (buildInitialTasks cycle) task requirement producer := by
  rcases hrequirement with ⟨rfl, hmem⟩ | ⟨rfl, hmem⟩ | ⟨rfl, hmem⟩ | ⟨rfl, hmem⟩ | ⟨rfl, hmem⟩
  · exact ⟨_, meets_of_path hpath hmem hcycle.symm (by simp [circuitDesign]) ⟨_, rfl, rfl⟩⟩
  · exact ⟨_, meets_of_path hpath hmem hcycle.symm (by simp [backendIntegration]) ⟨_, rfl, rfl⟩⟩
  · exact ⟨_, meets_of_path hpath hmem hcycle.symm (by simp [backendIntegration]) ⟨_, rfl, rfl⟩⟩
  · exact ⟨_, meets_of_path hpath hmem hcycle.symm (by simp [proveBundle]) ⟨_, rfl, rfl⟩⟩
  · exact ⟨_, meets_of_path hpath hmem hcycle.symm (by simp [verifier]) ⟨_, rfl, rfl⟩⟩

/-- **Every task of the plan is assigned and supplied.** -/
theorem initialTasks_supplied (cycle : Int) :
    Supplies buildAgentTeam (buildInitialTasks cycle) where
  distinct := initialTasks_nodup cycle
  assigned := by
    intro task htask
    simp only [buildInitialTasks, List.mem_cons, List.not_mem_nil, or_false] at htask
    rcases htask with rfl | rfl | rfl | rfl | rfl | rfl | rfl | rfl | rfl | rfl <;>
      exact ⟨_, rfl⟩
  meets := by
    intro task htask requirement hrequirement
    simp only [buildInitialTasks, List.mem_cons, List.not_mem_nil, or_false] at htask
    rcases htask with rfl | rfl | rfl | rfl | rfl | rfl | rfl | rfl | rfl | rfl
    · cases hrequirement
    · cases List.mem_singleton.mp hrequirement
      exact ⟨_, meets_of_path path_circuitDesign (List.mem_singleton.mpr rfl) rfl
        (List.mem_singleton.mpr rfl) ⟨_, rfl, rfl⟩⟩
    · simp only [backendIntegration, List.mem_cons, List.not_mem_nil, or_false] at hrequirement
      subst hrequirement
      exact meets_of_chain path_backendIntegration rfl (by simp [FromChain])
    · simp only [proveBundle, List.mem_cons, List.not_mem_nil, or_false] at hrequirement
      rcases hrequirement with rfl | rfl | rfl <;>
        exact meets_of_chain path_proveBundle rfl (by simp [FromChain, requiredFrom])
    · simp only [verifier, List.mem_cons, List.not_mem_nil, or_false] at hrequirement
      rcases hrequirement with rfl | rfl | rfl | rfl <;>
        exact meets_of_chain path_verifier rfl (by simp [FromChain, requiredFrom])
    · simp only [testing, List.mem_cons, List.not_mem_nil, or_false] at hrequirement
      rcases hrequirement with rfl | rfl <;>
        exact meets_of_chain path_testing rfl (by simp [FromChain, requiredFrom, chain])
    · simp only [security, List.mem_cons, List.not_mem_nil, or_false] at hrequirement
      rcases hrequirement with rfl | rfl | rfl | rfl <;>
        exact meets_of_chain path_security rfl (by simp [FromChain, requiredFrom, chain])
    · simp only [dataIntegrity, List.mem_cons, List.not_mem_nil, or_false] at hrequirement
      rcases hrequirement with rfl | rfl | rfl <;>
        exact meets_of_chain path_dataIntegrity rfl (by simp [FromChain, requiredFrom, chain])
    · simp only [devops, List.mem_cons, List.not_mem_nil, or_false] at hrequirement
      subst hrequirement
      exact meets_of_chain path_devops rfl (by simp [FromChain, requiredFrom, chain])
    · simp only [research, List.mem_cons, List.not_mem_nil, or_false] at hrequirement
      rcases hrequirement with rfl | rfl | rfl <;>
        exact meets_of_chain path_research rfl (by simp [FromChain, requiredFrom, chain])

end Supply

/-! ### The cycle -/

section Cycle

variable {std : PyStd} {team : Team std}

/-- The scheduler returns from the plan exactly if the plan passes. -/
theorem executeDag_plan_ok_iff {env : Environment} {cycle : Int} :
    (∃ out, executeDag env (plan cycle) = .ok out) ↔ PlanPasses env cycle := by
  have hpending : (plan cycle).foldl putTask [] = plan cycle :=
    foldl_putTask (plan cycle) [] (plan_nodup cycle)
  have htimed : Timed env (plan cycle) 0 _ := timed_zero (plan_nodup cycle)
  have hcompletes := loop_completes_iff (plan_nodup cycle) _ 0 htimed booked_start
  rw [← plan_settles_iff, ← hcompletes, executeDag, hpending]
  constructor
  · rintro ⟨out, hout⟩
    exact loop_ok_completes (plan_nodup cycle) _ booked_start hout
  · rintro ⟨results, blockedTasks, hout, -⟩
    exact ⟨_, hout⟩

/-- The task with the id has a result that is a success. -/
def Succeeded (final : CycleState std) (taskId : String) : Prop :=
  ∃ result ∈ final.results, result.taskId = taskId ∧ result.status = .success

theorem passes_environmentOf {final : CycleState std} {task : CycleTask} :
    Passes (team.environmentOf final.results) task ↔
      (team.controlDecision task.toTask).blocked = false ∧ Succeeded final task.taskId := by
  refine and_congr_right fun _ => ?_
  show (final.results.any _ = true) ↔ _
  simp [List.any_eq_true, Succeeded]

/-- **A cycle returns or stalls, and it returns exactly if every task of the chain succeeds**, and
the testing task is not blocked by the memory or one of the tasks beside it is not either. -/
theorem initial_cycle_returns_iff (hhonest : team.Honest) (hagents : team.agents = buildAgentTeam)
    {cycle : Int} {final : CycleState std} {stop : Except (Place × PyError) Unit}
    (hrun : executeCycle team (buildInitialTasks cycle) = (final, stop)) :
    Undisturbed stop ∧ (stop = .ok () ↔
      (∀ task ∈ chain cycle, (team.controlDecision task.toTask).blocked = false ∧
        Succeeded final task.taskId) ∧
      ((team.controlDecision (testing cycle).toTask).blocked = true →
        ∃ task ∈ [dataIntegrity cycle, devops cycle, research cycle],
          (team.controlDecision task.toTask).blocked = false)) := by
  have hstop := executeCycle_undisturbed hhonest (hagents ▸ initialTasks_supplied cycle)
  rw [hrun] at hstop
  have hanswer := executeCycle_schedule (buildInitialTasks cycle) hrun hstop
  have hreturns : stop = .ok () ↔ PlanPasses (team.environmentOf final.results) cycle := by
    rw [← executeDag_plan_ok_iff, plan, hanswer]
    cases stop with
    | ok _ => exact iff_of_true rfl ⟨_, rfl⟩
    | error raised =>
        refine iff_of_false (fun h => by cases h) ?_
        rintro ⟨out, hout⟩
        cases hout
  refine ⟨hstop, hreturns.trans ?_⟩
  constructor
  · intro h
    exact ⟨fun task htask => passes_environmentOf.mp (h.chain task htask), h.leaves⟩
  · intro h
    exact ⟨fun task htask => passes_environmentOf.mpr (h.1 task htask), h.2⟩

/-- The first cycle of a team of which only two work. -/
theorem initial_cycle_returns_iff_circuits : ∃ final stop,
    executeCycle (circuitTeam buildAgentTeam) (buildInitialTasks 1) = (final, stop) ∧
      (stop = .ok () ↔ ∀ task ∈ chain 1, Succeeded final task.taskId) := by
  rcases hrun : executeCycle (circuitTeam buildAgentTeam) (buildInitialTasks 1) with ⟨final, stop⟩
  have hreturns := initial_cycle_returns_iff (circuitTeam_honest buildAgentTeam) rfl hrun
  refine ⟨final, stop, rfl, hreturns.2.trans ⟨fun h task htask => (h.1 task htask).2, fun h => ?_⟩⟩
  exact ⟨fun task htask => ⟨rfl, h task htask⟩, fun hblocked => by cases hblocked⟩

end Cycle

end Vrl.Coordinator

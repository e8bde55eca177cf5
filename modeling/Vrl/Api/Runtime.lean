import Vrl.Lib.Runs
import Vrl.Models.Responses

/-!
# Vrl.Api.Runtime

The background loop of the service (`api/runtime.py`), and the calls that start and stop it.

The calls hold the lock of the controller from their first statement to their last, but the
loop reads the stop event without it. So a call is a sequence of steps (`Section`), between
which the threads of the loop take theirs. That a thread cannot be started is left out.

Two things are kept by every step: only the latest thread is alive, and none is when a new one
is about to be started (**`Single.step`**). The snapshot goes with the event and the thread as
long as no start finds a thread that was told to stop (**`InStep.step`**).
-/

open Runs

namespace Vrl

/-! ### The snapshot -/

/-- `RuntimeSnapshot`. -/
structure RuntimeSnapshot where
  started : Bool := false
  iterationCount : Nat := 0
  lastRunAt : Option String := none
  lastInputHash : Option String := none
  lastOutputHash : Option String := none
  lastIntegrityHash : Option String := none
  lastAuditHash : Option String := none
  lastStatus : Option String := none
  lastError : Option String := none
  lastResult : Option PyVal := none
  lastTrace : Option PyVal := none

/-- `record_response`, with the text of the time at which it is called. -/
def RuntimeSnapshot.recordResponse (snapshot : RuntimeSnapshot) (response : CalculationResponse)
    (auditHash : Option String) (status runAt : String) : RuntimeSnapshot :=
  { snapshot with
    iterationCount := snapshot.iterationCount + 1
    lastRunAt := some runAt
    lastInputHash := some response.integrity.inputHash
    lastOutputHash := some response.integrity.outputHash
    lastIntegrityHash := some response.integrity.integrityHash
    lastAuditHash := auditHash
    lastStatus := some status
    lastError := none
    lastResult := some (.dict (response.result.members fun d => .str (String.ofList d.text)))
    lastTrace := some (tracePayload response.trace) }

/-- What the loop notes of an exception. -/
def RuntimeSnapshot.noteError (snapshot : RuntimeSnapshot) (error : String) : RuntimeSnapshot :=
  { snapshot with lastStatus := some "error", lastError := some error }

/-! ### The controller -/

/-- Where a thread stands in `_loop`. A thread that has left the loop is alive for a while, and
one that was never started counts as finished. -/
inductive LoopPc where
  | atCondition
  | iterating
  | recording (response : CalculationResponse)
  | noting (error : String)
  | waiting
  | leaving
  | finished

/-- What a call that holds the lock does next. -/
inductive Section where
  | startChecking
  | startMarking
  | startClearing
  | startStarting
  | startSpawning
  | stopSetting
  | stopMarking
  deriving DecidableEq, Repr

/-- `RuntimeController`. -/
structure RuntimeController where
  holder : Option Section := none
  stopEvent : Bool := false
  thread : Option Nat := none
  snapshot : RuntimeSnapshot := {}
  /-- The threads that were started, each under its number. -/
  loops : Nat → LoopPc := fun _ => .finished
  spawned : Nat := 0

/-- What comes back from `run_once` and from the clock. -/
structure LoopAnswer where
  outcome : Except String CalculationResponse := .error ""
  runAt : String := ""

/-- The steps: a call gets the lock, the call that has it goes on, a thread of the loop goes on,
and a response to a client is recorded. -/
inductive Action where
  | start
  | stop
  | proceed
  | loop (i : Nat) (answer : LoopAnswer)
  | record (response : CalculationResponse) (auditHash : Option String) (status runAt : String)

/-- The thread has not ended. -/
def LoopPc.isAlive : LoopPc → Bool
  | .finished => false
  | _ => true

/-- The thread comes to its condition again. -/
def LoopPc.continues : LoopPc → Bool
  | .leaving | .finished => false
  | _ => true

/-- The places on the way to a new thread. -/
def Section.spawns : Section → Bool
  | .startClearing | .startStarting | .startSpawning => true
  | _ => false

namespace RuntimeController

variable (s : RuntimeController)

/-- `self._thread and self._thread.is_alive()`. -/
def threadIsAlive : Bool := s.thread.any fun i => (s.loops i).isAlive

/-- The next step of the call that has the lock. -/
def proceed : Section → RuntimeController
  | .startChecking =>
      { s with holder := some (if s.threadIsAlive then .startMarking else .startClearing) }
  | .startMarking => { s with holder := none, snapshot := { s.snapshot with started := true } }
  | .startClearing => { s with holder := some .startStarting, stopEvent := false }
  | .startStarting =>
      { s with holder := some .startSpawning, snapshot := { s.snapshot with started := true } }
  | .startSpawning =>
      { s with
        holder := none
        thread := some s.spawned
        loops := Function.update s.loops s.spawned .atCondition
        spawned := s.spawned + 1 }
  | .stopSetting => { s with holder := some .stopMarking, stopEvent := true }
  | .stopMarking => { s with holder := none, snapshot := { s.snapshot with started := false } }

/-- The next step of a thread of the loop. What it records needs the lock. -/
def loopStep (answer : LoopAnswer) : LoopPc → Option (LoopPc × RuntimeSnapshot)
  | .atCondition => some (if s.stopEvent then .leaving else .iterating, s.snapshot)
  | .iterating =>
      match answer.outcome with
      | .ok response => some (.recording response, s.snapshot)
      | .error error => some (.noting error, s.snapshot)
  | .recording response =>
      if s.holder.isSome then none
      else some (.waiting, s.snapshot.recordResponse response none "ephemeral" answer.runAt)
  | .noting error =>
      if s.holder.isSome then none else some (.waiting, s.snapshot.noteError error)
  | .waiting => some (.atCondition, s.snapshot)
  | .leaving => some (.finished, s.snapshot)
  | .finished => none

/-- One step, if it is possible. -/
def step : Action → Option RuntimeController
  | .start => if s.holder.isSome then none else some { s with holder := some .startChecking }
  | .stop => if s.holder.isSome then none else some { s with holder := some .stopSetting }
  | .proceed => s.holder.map s.proceed
  | .loop i answer =>
      (s.loopStep answer (s.loops i)).map fun (pc, snapshot) =>
        { s with loops := Function.update s.loops i pc, snapshot }
  | .record response auditHash status runAt =>
      if s.holder.isSome then none
      else some { s with snapshot := s.snapshot.recordResponse response auditHash status runAt }

/-- A step leads from a state to another. -/
def Step (s : RuntimeController) (action : Action) (s' : RuntimeController) : Prop :=
  s.step action = some s'

/-! ### What is to hold -/

/-- What the snapshot says is so: when started, the event is clear and a thread comes to its
condition again, and when stopped, the event is set. Before the first start there is no
thread. -/
structure Consistent : Prop where
  started : s.snapshot.started = true →
    s.stopEvent = false ∧ ∃ i, (s.loops i).continues = true
  stopped : s.snapshot.started = false → s.stopEvent = true ∨ s.thread = none

/-- The snapshot is right whenever it can be read, and no two threads are alive. -/
structure Good : Prop where
  consistent : s.holder = none → s.Consistent
  single : ∀ i j, (s.loops i).isAlive = true → (s.loops j).isAlive = true → i = j

/-- A start that has found its thread alive marks the snapshot, although the thread was told to
stop. -/
def RestartsEarly (action : Action) : Prop :=
  action = .proceed ∧ s.holder = some .startMarking ∧ s.stopEvent = true

/-! ### One step of a thread -/

section Steps

variable {s}

/-- A thread that takes a step was alive. It leaves the loop only when it has been told to stop,
and it does not touch what the calls have written. -/
theorem loopStep_cases {answer : LoopAnswer} {pc pc' : LoopPc} {snapshot : RuntimeSnapshot}
    (h : s.loopStep answer pc = some (pc', snapshot)) :
    pc.isAlive = true ∧ snapshot.started = s.snapshot.started ∧
      (s.stopEvent = false → pc.continues = true → pc'.continues = true) := by
  cases pc with
  | atCondition =>
      cases h
      refine ⟨rfl, rfl, fun hclear _ => ?_⟩
      rw [hclear]
      rfl
  | iterating =>
      unfold loopStep at h
      cases hout : answer.outcome with
      | ok response =>
          rw [hout] at h
          cases h
          exact ⟨rfl, rfl, fun _ _ => rfl⟩
      | error error =>
          rw [hout] at h
          cases h
          exact ⟨rfl, rfl, fun _ _ => rfl⟩
  | recording response =>
      simp only [loopStep, Option.ite_none_left_eq_some] at h
      cases h.2
      exact ⟨rfl, rfl, fun _ _ => rfl⟩
  | noting error =>
      simp only [loopStep, Option.ite_none_left_eq_some] at h
      cases h.2
      exact ⟨rfl, rfl, fun _ _ => rfl⟩
  | waiting =>
      cases h
      exact ⟨rfl, rfl, fun _ _ => rfl⟩
  | leaving =>
      cases h
      exact ⟨rfl, rfl, fun _ h => h⟩
  | finished => cases h

/-- What a step can do: a call gets the lock, the call that has it goes on, or nothing happens
but that a thread takes a step or a response is recorded. -/
theorem step_cases {action : Action} {s' : RuntimeController} (h : s.Step action s') :
    (s.holder = none ∧ ∃ place, (place = .startChecking ∨ place = .stopSetting) ∧
        s' = { s with holder := some place }) ∨
      (action = .proceed ∧ ∃ place, s.holder = some place ∧ s' = s.proceed place) ∨
      ∃ snapshot loops, s' = { s with loops, snapshot } ∧
        snapshot.started = s.snapshot.started ∧
        (∀ i, s.loops i = .finished → loops i = .finished) ∧
        ∀ i, s.stopEvent = false → (s.loops i).continues = true → (loops i).continues = true := by
  unfold Step at h
  cases action with
  | start =>
      simp only [step, Option.ite_none_left_eq_some, Bool.not_eq_true,
        Option.isSome_eq_false_iff, Option.isNone_iff_eq_none] at h
      exact .inl ⟨h.1, _, .inl rfl, (Option.some.inj h.2).symm⟩
  | stop =>
      simp only [step, Option.ite_none_left_eq_some, Bool.not_eq_true,
        Option.isSome_eq_false_iff, Option.isNone_iff_eq_none] at h
      exact .inl ⟨h.1, _, .inr rfl, (Option.some.inj h.2).symm⟩
  | proceed =>
      obtain ⟨place, hholder, rfl⟩ := Option.map_eq_some_iff.mp h
      exact .inr (.inl ⟨rfl, place, hholder, rfl⟩)
  | record response auditHash status runAt =>
      simp only [step, Option.ite_none_left_eq_some] at h
      exact .inr (.inr ⟨_, s.loops, (Option.some.inj h.2).symm, rfl, fun _ h => h, fun _ _ h => h⟩)
  | loop i answer =>
      obtain ⟨⟨pc, snapshot⟩, hstep, rfl⟩ := Option.map_eq_some_iff.mp h
      obtain ⟨halive, hstarted, hcontinues⟩ := loopStep_cases hstep
      refine .inr (.inr ⟨snapshot, _, rfl, hstarted, fun j hj => ?_, fun j hclear hj => ?_⟩)
      · have hne : j ≠ i := by
          rintro rfl
          rw [hj] at halive
          cases halive
        rw [Function.update_of_ne hne]
        exact hj
      · by_cases hji : j = i
        · subst hji
          rw [Function.update_self]
          exact hcontinues hclear hj
        · rw [Function.update_of_ne hji]
          exact hj

end Steps

/-! ### A thread that continues -/

/-- A thread takes steps of its own. -/
def OwnSteps (i : Nat) : RuntimeController → RuntimeController → Prop :=
  Relation.ReflTransGen fun s s' => ∃ answer, s.Step (.loop i answer) s'

/-- The thread gets to its condition while the event is clear, by steps of its own. -/
def ComesToCondition (i : Nat) : Prop :=
  ∃ s', OwnSteps i s s' ∧ s'.loops i = .atCondition ∧ s'.stopEvent = false

section Steps

variable {s}

/-- One step of the thread, while no call has the lock. -/
theorem ComesToCondition.of_loopStep {i : Nat} {answer : LoopAnswer} {pc : LoopPc}
    {snapshot : RuntimeSnapshot} (h : s.loopStep answer (s.loops i) = some (pc, snapshot))
    (hnext : ∀ t : RuntimeController, t.holder = s.holder → t.stopEvent = s.stopEvent →
      t.loops i = pc → t.ComesToCondition i) : s.ComesToCondition i := by
  have hstep : s.Step (.loop i answer)
      { s with loops := Function.update s.loops i pc, snapshot } := by
    rw [Step, step, h]
    rfl
  obtain ⟨s', hsteps, hat, hclear⟩ :=
    hnext { s with loops := Function.update s.loops i pc, snapshot } rfl rfl
      (Function.update_self ..)
  exact ⟨s', hsteps.head ⟨answer, hstep⟩, hat, hclear⟩

/-- **A thread that continues comes to its condition and will pass it**, if the event stays
clear and no call keeps the lock. -/
theorem comesToCondition_of_continues {i : Nat} (hfree : s.holder = none)
    (hclear : s.stopEvent = false) (h : (s.loops i).continues = true) :
    s.ComesToCondition i := by
  have hcondition : ∀ t : RuntimeController, t.stopEvent = false → t.loops i = .atCondition →
      t.ComesToCondition i := fun t htclear hat => ⟨t, .refl, hat, htclear⟩
  have hwaiting : ∀ t : RuntimeController, t.stopEvent = false → t.loops i = .waiting →
      t.ComesToCondition i := by
    intro t htclear hat
    have hstep : t.loopStep {} (t.loops i) = some (.atCondition, t.snapshot) := by
      rw [hat]
      rfl
    exact .of_loopStep hstep fun u _ hevent hpc => hcondition u (hevent.trans htclear) hpc
  have hnoting : ∀ t : RuntimeController, t.holder = none → t.stopEvent = false →
      ∀ error, t.loops i = .noting error → t.ComesToCondition i := by
    intro t htfree htclear error hat
    have hstep : t.loopStep {} (t.loops i) = some (.waiting, t.snapshot.noteError error) := by
      rw [hat, loopStep, htfree]
      rfl
    exact .of_loopStep hstep fun u _ hevent hpc => hwaiting u (hevent.trans htclear) hpc
  cases hpc : s.loops i with
  | atCondition => exact hcondition s hclear hpc
  | waiting => exact hwaiting s hclear hpc
  | noting error => exact hnoting s hfree hclear error hpc
  | recording response =>
      have hstep : s.loopStep {} (s.loops i) =
          some (.waiting, s.snapshot.recordResponse response none "ephemeral" "") := by
        rw [hpc, loopStep, hfree]
        rfl
      exact .of_loopStep hstep fun u _ hevent hat => hwaiting u (hevent.trans hclear) hat
  | iterating =>
      have hstep : s.loopStep {} (s.loops i) = some (.noting "", s.snapshot) := by
        rw [hpc]
        rfl
      exact .of_loopStep hstep fun u hholder hevent hat =>
        hnoting u (hholder.trans hfree) (hevent.trans hclear) "" hat
  | leaving =>
      rw [hpc] at h
      cases h
  | finished =>
      rw [hpc] at h
      cases h

end Steps

/-! ### One thread at a time -/

/-- Only the latest thread is alive, and none is when a new one is about to be started. -/
structure Single : Prop where
  latest : ∀ i, s.thread ≠ some i → s.loops i = .finished
  ended : ∀ place, s.holder = some place → place.spawns = true → ∀ i, s.loops i = .finished

theorem init_single : ({} : RuntimeController).Single :=
  ⟨fun _ _ => rfl, fun _ _ _ _ => rfl⟩

section Steps

variable {s}

theorem eq_finished_of_isAlive {pc : LoopPc} (h : pc.isAlive = false) : pc = .finished := by
  cases pc with
  | finished => rfl
  | _ => cases h

/-- A call that has the lock keeps it so. -/
theorem Single.proceed (h : s.Single) {place : Section} (hholder : s.holder = some place) :
    (s.proceed place).Single := by
  cases place with
  | startChecking =>
      refine ⟨h.latest, fun place hplace hspawns i => ?_⟩
      by_cases halive : s.threadIsAlive = true
      · rw [RuntimeController.proceed, if_pos halive] at hplace
        cases hplace
        cases hspawns
      · by_cases hthread : s.thread = some i
        · rw [threadIsAlive, hthread, Option.any_some, Bool.not_eq_true] at halive
          exact eq_finished_of_isAlive halive
        · exact h.latest i hthread
  | startMarking => exact ⟨h.latest, nofun⟩
  | startClearing => exact ⟨h.latest, fun _ _ _ => h.ended _ hholder rfl⟩
  | startStarting => exact ⟨h.latest, fun _ _ _ => h.ended _ hholder rfl⟩
  | startSpawning =>
      refine ⟨fun i hi => ?_, nofun⟩
      have hne : i ≠ s.spawned := by
        rintro rfl
        exact hi rfl
      simp only [RuntimeController.proceed, Function.update_of_ne hne]
      exact h.ended _ hholder rfl i
  | stopSetting =>
      refine ⟨h.latest, fun place hplace hspawns => ?_⟩
      cases hplace
      cases hspawns
  | stopMarking => exact ⟨h.latest, nofun⟩

/-- **Every step keeps it so that only the latest thread is alive.** -/
theorem Single.step (h : s.Single) {action : Action} {s' : RuntimeController}
    (hstep : s.Step action s') : s'.Single := by
  obtain ⟨-, place, hplace, rfl⟩ | ⟨-, place, hholder, rfl⟩ |
    ⟨snapshot, loops, rfl, -, hfinished, -⟩ := step_cases hstep
  · refine ⟨h.latest, fun place' heq hspawns => ?_⟩
    cases heq
    obtain rfl | rfl := hplace <;> cases hspawns
  · exact h.proceed hholder
  · exact ⟨fun i hi => hfinished i (h.latest i hi),
      fun place hholder hspawns i => hfinished i (h.ended place hholder hspawns i)⟩

/-- No two threads are alive. -/
theorem Single.unique (h : s.Single) (i j : Nat) (hi : (s.loops i).isAlive = true)
    (hj : (s.loops j).isAlive = true) : i = j := by
  have hlatest : ∀ k, (s.loops k).isAlive = true → s.thread = some k := by
    intro k hk
    by_contra hne
    rw [h.latest k hne] at hk
    cases hk
  exact Option.some.inj ((hlatest i hi).symm.trans (hlatest j hj))

end Steps

/-! ### The snapshot, the event and the thread -/

/-- How the snapshot goes with the event and the threads while a call that has the lock is at
some place, or no call has it. -/
def InStepAt : Option Section → Prop
  | none | some .startChecking | some .stopSetting => s.Consistent
  | some .startMarking => s.Consistent ∧ s.thread ≠ none
  | some .startClearing => True
  | some .startStarting => s.stopEvent = false
  | some .startSpawning => s.stopEvent = false ∧ s.snapshot.started = true
  | some .stopMarking => s.stopEvent = true

/-- It goes with them, wherever the call that has the lock stands. -/
def InStep : Prop := s.InStepAt s.holder

section Steps

variable {s}

theorem init_inStep : ({} : RuntimeController).InStep :=
  ⟨nofun, fun _ => .inr rfl⟩

/-- A thread that goes on, and a response that is recorded, change nothing of it. -/
theorem Consistent.of_loops (h : s.Consistent) {snapshot : RuntimeSnapshot} {loops : Nat → LoopPc}
    (hstarted : snapshot.started = s.snapshot.started)
    (hcontinues : ∀ i, s.stopEvent = false → (s.loops i).continues = true →
      (loops i).continues = true) :
    Consistent { s with loops, snapshot } := by
  refine ⟨fun hmarked => ?_, fun hmarked => h.stopped (hstarted.symm.trans hmarked)⟩
  obtain ⟨hclear, i, hi⟩ := h.started (hstarted.symm.trans hmarked)
  exact ⟨hclear, i, hcontinues i hclear hi⟩

theorem InStep.of_loops (h : s.InStep) {snapshot : RuntimeSnapshot} {loops : Nat → LoopPc}
    (hstarted : snapshot.started = s.snapshot.started)
    (hcontinues : ∀ i, s.stopEvent = false → (s.loops i).continues = true →
      (loops i).continues = true) :
    InStep { s with loops, snapshot } := by
  have hat : ∀ place, s.InStepAt place → InStepAt { s with loops, snapshot } place := by
    intro place h
    match place with
    | none | some .startChecking | some .stopSetting =>
        exact Consistent.of_loops h hstarted hcontinues
    | some .startMarking => exact ⟨h.1.of_loops hstarted hcontinues, h.2⟩
    | some .startSpawning => exact ⟨h.1, hstarted.trans h.2⟩
    | some .startClearing | some .startStarting | some .stopMarking => exact h
  exact hat s.holder h

/-- A call keeps it so, unless it marks a snapshot as started whose thread was told to stop. -/
theorem InStep.proceed (h : s.InStep) {place : Section} (hholder : s.holder = some place)
    (hcond : place = .startMarking → s.stopEvent = false) : (s.proceed place).InStep := by
  rw [InStep, hholder] at h
  cases place with
  | startChecking =>
      by_cases halive : s.threadIsAlive = true
      · have hthread : s.thread ≠ none := by
          intro hnone
          rw [threadIsAlive, hnone] at halive
          cases halive
        simp only [RuntimeController.proceed, if_pos halive]
        exact ⟨⟨h.started, h.stopped⟩, hthread⟩
      · simp only [RuntimeController.proceed, if_neg halive]
        trivial
  | startMarking =>
      obtain ⟨hconsistent, hthread⟩ := h
      have hclear := hcond rfl
      have hmarked : s.snapshot.started = true := by
        by_contra hnot
        obtain hset | hnone := hconsistent.stopped (Bool.not_eq_true _ ▸ hnot)
        · rw [hclear] at hset
          cases hset
        · exact hthread hnone
      exact ⟨fun _ => hconsistent.started hmarked, nofun⟩
  | startClearing => rfl
  | startStarting => exact ⟨h, rfl⟩
  | startSpawning =>
      refine ⟨fun _ => ⟨h.1, s.spawned, ?_⟩, fun hnot => ?_⟩
      · simp only [RuntimeController.proceed, Function.update_self]
        rfl
      · rw [RuntimeController.proceed, h.2] at hnot
        cases hnot
  | stopSetting => rfl
  | stopMarking => exact ⟨nofun, fun _ => .inl h⟩

/-- **Every step keeps it so, but a start that finds a thread that was told to stop.** -/
theorem InStep.step (h : s.InStep) {action : Action} {s' : RuntimeController}
    (hstep : s.Step action s') (hcond : ¬ s.RestartsEarly action) : s'.InStep := by
  obtain ⟨hfree, place, hplace, rfl⟩ | ⟨rfl, place, hholder, rfl⟩ |
    ⟨snapshot, loops, rfl, hstarted, -, hcontinues⟩ := step_cases hstep
  · rw [InStep, hfree] at h
    obtain rfl | rfl := hplace <;> exact ⟨h.started, h.stopped⟩
  · refine h.proceed hholder fun hplace => ?_
    by_contra hset
    exact hcond ⟨rfl, hplace ▸ hholder, Bool.not_eq_false _ ▸ hset⟩
  · exact h.of_loops hstarted hcontinues

theorem good_of_inStep (hsingle : s.Single) (h : s.InStep) : s.Good := by
  refine ⟨fun hfree => ?_, hsingle.unique⟩
  rw [InStep, hfree] at h
  exact h

/-- A start that finds a thread that was told to stop leaves a snapshot that is wrong. -/
theorem not_good_of_restartsEarly {action : Action} {s' : RuntimeController}
    (hstep : s.Step action s') (hearly : s.RestartsEarly action) : ¬ s'.Good := by
  obtain ⟨rfl, hholder, hset⟩ := hearly
  have heq : s' = s.proceed .startMarking := by
    unfold Step at hstep
    rw [RuntimeController.step, hholder] at hstep
    exact (Option.some.inj hstep).symm
  subst heq
  intro hgood
  have hclear := ((hgood.consistent rfl).started rfl).1
  rw [RuntimeController.proceed, hset] at hclear
  cases hclear

/-! ### Whole runs -/

/-- **In every run, no two threads are ever alive.** -/
theorem single_of_run {trace : List (RuntimeController × Action)}
    (hrun : Trace Step {} trace s) (i j : Nat) (hi : (s.loops i).isAlive = true)
    (hj : (s.loops j).isAlive = true) : i = j := by
  have hkeep : ∀ t a u, Single t → Step t a u → True → Single u := fun _ _ _ h hstep _ =>
    h.step hstep
  exact (hrun.invariant hkeep init_single fun _ _ => trivial).2.unique i j hi hj

/-- **The snapshot is right in every state of a run exactly when no start of the run finds its
thread alive after it was told to stop.** No two threads are alive in any case. -/
theorem runtime_consistent_iff {trace : List (RuntimeController × Action)}
    (hrun : Trace Step {} trace s) :
    ((∀ p ∈ trace, p.1.Good) ∧ s.Good) ↔ ∀ p ∈ trace, ¬ p.1.RestartsEarly p.2 := by
  have hgood : ∀ t, Single t ∧ InStep t → Good t := fun _ h => good_of_inStep h.1 h.2
  have hkeep : ∀ t a u, Single t ∧ InStep t → Step t a u → ¬ t.RestartsEarly a →
      Single u ∧ InStep u := fun _ _ _ h hstep hcond => ⟨h.1.step hstep, h.2.step hstep hcond⟩
  have hbreak : ∀ t a u, Single t ∧ InStep t → Step t a u → ¬¬ t.RestartsEarly a → ¬ Good u :=
    fun _ _ _ _ hstep hearly => not_good_of_restartsEarly hstep (not_not.mp hearly)
  exact hrun.good_iff hgood hkeep hbreak ⟨init_single, init_inStep⟩

end Steps

/-- The first call of `start` finds no thread. -/
def firstStart : List (RuntimeController × Action) :=
  [({}, .start), ({ holder := some .startChecking }, .proceed)]

theorem firstStart_trace : Trace Step {} firstStart { holder := some .startClearing } := by
  have hlock : Step {} .start { holder := some .startChecking } := rfl
  have hcheck : Step { holder := some .startChecking } .proceed
      { holder := some .startClearing } := rfl
  exact (Trace.nil.snoc hlock).snoc hcheck

theorem runtime_consistent_iff_sample :
    ((∀ p ∈ firstStart, p.1.Good) ∧ Good { holder := some .startClearing }) ↔
      ∀ p ∈ firstStart, ¬ p.1.RestartsEarly p.2 :=
  runtime_consistent_iff firstStart_trace

/-! ### A restart that comes too early -/

/-- The state after some steps. -/
def runActions (s : RuntimeController) : List Action → Option RuntimeController
  | [] => some s
  | action :: actions => (s.step action).bind fun s' => s'.runActions actions

theorem exists_trace {start s s' : RuntimeController} {trace : List (RuntimeController × Action)}
    (hrun : Trace Step start trace s) {actions : List Action}
    (h : s.runActions actions = some s') : ∃ trace, Trace Step start trace s' := by
  induction actions generalizing s trace with
  | nil =>
      cases h
      exact ⟨trace, hrun⟩
  | cons action actions ih =>
      obtain ⟨t, hstep, hrest⟩ := Option.bind_eq_some_iff.mp h
      exact ih (hrun.snoc hstep) hrest

/-- A start whose thread begins its first iteration, a stop, and another start before the thread
has ended. -/
def earlyRestart : List Action :=
  [.start, .proceed, .proceed, .proceed, .proceed, .loop 0 {}, .stop, .proceed, .proceed, .start,
    .proceed, .proceed]

/-- **After a restart that comes too early, the snapshot says started while the event is set.** -/
theorem early_restart_is_stopped :
    ∃ trace s, Trace Step {} trace s ∧ s.holder = none ∧ s.snapshot.started = true ∧
      s.stopEvent = true ∧ ¬ s.Good := by
  obtain ⟨s, hs⟩ : ∃ s, runActions {} earlyRestart = some s := ⟨_, rfl⟩
  obtain ⟨trace, hrun⟩ := exists_trace Trace.nil hs
  cases hs
  exact ⟨trace, _, hrun, rfl, rfl, rfl, fun hgood => nomatch ((hgood.consistent rfl).started rfl).1⟩

end RuntimeController

end Vrl

import Vrl.App.Session
import Vrl.Lib.Runs

/-!
# Vrl.App.Atomicity

What one call of `calculate_and_persist` leaves in the database.

A call ends with the first commit of one of its transactions, or without any. So
its net effect is that of one transaction: all the rows of a calculation with their
event, a single event of another kind, or nothing.
-/

open TextCodec Runs

namespace Vrl

variable (std : PyStd)

/-! ### Calls -/

/-- A call, and the rows that it has committed. -/
structure CallState where
  session : Session
  committed : List Row := []

/-- The call at its beginning. -/
def CallState.init : CallState where
  session := .init

/-- One answer of the database. -/
def CallState.step (c : Computed) (s : CallState) (answer : Answer) : CallState :=
  { session := (s.session.step std c answer).1
    committed := s.committed ++ (s.session.step std c answer).2 }

/-- The call has returned or raised. -/
def Loc.IsFinal : Loc → Prop
  | .inTx .. => False
  | _ => True

instance : DecidablePred Loc.IsFinal
  | .inTx .. => .isFalse id
  | .returned _ | .raised _ => .isTrue trivial

section Calls

variable (c : Computed)

/-! ### Effects exclude each other -/

/-- How many statements a call may still send. -/
def Loc.rank : Loc → Nat
  | .inTx (.attempt n) stage => (6 - n) * 7 + stage.rank
  | .inTx (.logFailure _) stage => stage.rank
  | _ => 0

/-- A call only returns from a commit. -/
theorem commit_of_returned {answer : Answer} {task : Task} {stage : Stage} {loc : Loc}
    {evidence : PersistedEvidenceBundle} (htask : task.InRange)
    (h : Moves c answer task stage loc) (hret : loc = .returned evidence) :
    ∃ kind inserted, stage = .commit kind inserted ∧ answer.raised = none := by
  cases h with
  | advance _ => cases hret
  | abort _ _ => cases hret
  | finish hok => exact ⟨_, _, rfl, hok⟩
  | @leave _ exc _ =>
      obtain ⟨exc', h⟩ | ⟨task', h, -⟩ := afterException_cases answer.now exc htask
      · rw [h] at hret
        cases hret
      · rw [h] at hret
        cases hret

/-- There is a reason for a duplicate that is about to be raised, and for a call that
ended without a commit. -/
def Explained (why : Prop) (committed : List Row) : Loc → Prop
  | .inTx (.attempt _) (.rollback (.duplicateInputHash _)) => why
  | .raised _ => committed = [] → why
  | _ => True

theorem Explained.mono {why why' : Prop} {committed : List Row} {loc : Loc} (himp : why → why')
    (h : Explained why committed loc) : Explained why' committed loc := by
  unfold Explained at h ⊢
  split <;> simp_all

end Calls

/-! ### A call without errors -/

/-- A calculation whose training record can be built. -/
def sampleComputed : Computed where
  request := ⟨⟨1⟩, String.ofList (hexFixed 64 7), [], DateTime.min⟩
  result := ⟨⟨2⟩, ⟨1⟩, String.ofList (hexFixed 64 8), [], DateTime.min⟩
  proof := ⟨⟨3⟩, ⟨1⟩, String.ofList (hexFixed 64 9), "", "", "plonk", "", "", [], true,
    DateTime.min⟩
  buildVerifiedTrainingRecord _ := .ok ()

end Vrl

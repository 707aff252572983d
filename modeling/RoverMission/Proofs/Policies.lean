/-
Policies compared.

A policy has no say before the first move that would leave the plateau.  If no
move does, all policies end in the same pose with nothing to report; if one
does, all of them stand in the same pose in front of it, and each then leaves
its own mark: a fault, a halt, a skipped move or a wrapped move.
-/
import RoverMission.Proofs.Driving

namespace RoverMission

/-- What comes of a plan, its events left aside. -/
def Plan.outcome (plan : Plan) (policy : BoundaryPolicy) (plateau : Plateau) (rover : Nat) :
    Outcome :=
  (Outcome.ofPlan policy plateau rover plan).value

/-- The outcome of a rover that the edge never hindered. -/
def Outcome.unhindered (rover : Nat) (pose : Pose) : Outcome := { rover, result := .ok pose }

/-! ## Reading an outcome -/

namespace Outcome

theorem result_of_pose? {o : Outcome} {pose : Pose} (h : o.pose? = some pose) :
    o.result = .ok pose := by
  rw [pose?] at h
  cases hr : o.result with
  | error fault =>
    rw [hr] at h
    cases h
  | ok pose' =>
    rw [hr] at h
    cases h
    rfl

theorem result_of_fault? {o : Outcome} {fault : Fault} (h : o.fault? = some fault) :
    o.result = .error fault := by
  rw [fault?] at h
  cases hr : o.result with
  | error fault' =>
    rw [hr] at h
    cases h
    rfl
  | ok pose =>
    rw [hr] at h
    cases h

end Outcome

namespace Journey

variable {plateau : Plateau} {rover : Nat} {j : Journey}

/-- A journey that has not ended early has come to its pose. -/
theorem result_outcome (h : j.ending = none) : (j.outcome rover).result = .ok j.pose := by
  simp only [outcome, h]

theorem pose_of_result {pose : Pose} (h : (j.outcome rover).result = .ok pose) : j.pose = pose := by
  simp only [outcome] at h
  split at h
  · cases h
  · cases h
    rfl

theorem ending_of_result {fault : Fault} (h : (j.outcome rover).result = .error fault) :
    j.ending = some (.failed fault) := by
  simp only [outcome] at h
  split at h
  · rename_i he
    cases h
    exact he
  · cases h

theorem ending_of_halted (h : (j.outcome rover).halted = true) : j.ending = some .halted := by
  simpa [outcome] using h

/-! ## Behind the edge -/

theorem one_le_skipped (j : Journey) (commands : List Command) :
    1 ≤ (drive .ignore plateau rover (j.atEdge .ignore plateau rover) commands).skipped := by
  have hc : (j.atEdge .ignore plateau rover).skipped ≤
      (drive .ignore plateau rover (j.atEdge .ignore plateau rover) commands).skipped :=
    (counters_le_drive _ commands).1
  exact Nat.le_trans (Nat.le_add_left 1 j.skipped) hc

theorem one_le_wrapped (j : Journey) (commands : List Command) :
    1 ≤ (drive .wrap plateau rover (j.atEdge .wrap plateau rover) commands).wrapped := by
  have hc : (j.atEdge .wrap plateau rover).wrapped ≤
      (drive .wrap plateau rover (j.atEdge .wrap plateau rover) commands).wrapped :=
    (counters_le_drive _ commands).2
  exact Nat.le_trans (Nat.le_add_left 1 j.wrapped) hc

end Journey

namespace Plan

variable {policy : BoundaryPolicy} {plateau : Plateau} {rover : Nat} {plan : Plan}

theorem outcome_eq (plan : Plan) (policy : BoundaryPolicy) (plateau : Plateau) (rover : Nat) :
    plan.outcome policy plateau rover =
      (Journey.drive policy plateau rover (.start plan.start) plan.commands).outcome rover := rfl

/-- Clear commands end where they lead a walker, whatever the policy. -/
theorem outcome_of_clear (h : plan.start.walker.Clear plateau plan.commands) :
    plan.outcome policy plateau rover =
      .unhindered rover (plan.start.walker.walk plan.commands).pose := by
  rw [outcome_eq, Journey.drive_of_clear (j := .start plan.start) rfl h]
  rfl

/-! ## At the first move off the plateau

Up to the move the journey is a walk, at the move the policy decides, and the
commands behind it are driven from there. -/

section

variable {i : Nat} (h : plan.start.walker.FirstLeavesAt plateau plan.commands i)
include h

/-- The pose in front of the first move off the plateau. -/
theorem walked_take :
    (Journey.start plan.start).walked (plan.commands.take i) =
      { pose := (plan.start.walker.walk (plan.commands.take i)).pose, read := i } := by
  have hlt := Walker.lt_length_of_leavesAt h.leaves
  have hlen : (plan.commands.take i).length = i := List.length_take_of_le (Nat.le_of_lt hlt)
  simp only [Journey.walked, Journey.start, hlen, Nat.zero_add]

theorem drive_start :
    Journey.drive policy plateau rover (.start plan.start) plan.commands =
      Journey.drive policy plateau rover
        (Journey.atEdge policy plateau rover
          { pose := (plan.start.walker.walk (plan.commands.take i)).pose, read := i })
        (plan.commands.drop (i + 1)) := by
  rw [Journey.drive_of_firstLeavesAt (j := .start plan.start) rfl h, walked_take h]

theorem outcome_strict :
    plan.outcome .strict plateau rover =
      { rover
        result := .error (.outOfBounds rover (i + 1)
          (plan.start.walker.walk (plan.commands.take i)).pose) } := by
  rw [outcome_eq, drive_start h, Journey.drive_of_ending rfl]
  rfl

theorem outcome_stop :
    plan.outcome .stop plateau rover =
      { rover
        result := .ok (plan.start.walker.walk (plan.commands.take i)).pose
        halted := true } := by
  rw [outcome_eq, drive_start h, Journey.drive_of_ending rfl]
  rfl

theorem one_le_skipped : 1 ≤ (plan.outcome .ignore plateau rover).skipped := by
  rw [outcome_eq, drive_start h]
  exact Journey.one_le_skipped _ _

theorem one_le_wrapped : 1 ≤ (plan.outcome .wrap plateau rover).wrapped := by
  rw [outcome_eq, drive_start h]
  exact Journey.one_le_wrapped _ _

/-- All policies stand in the same pose in front of the move. -/
theorem outcome_take :
    { plan with commands := plan.commands.take i }.outcome policy plateau rover =
      .unhindered rover (plan.start.walker.walk (plan.commands.take i)).pose :=
  outcome_of_clear (Walker.clear_take h)

end

/-! ## What belongs to which policy -/

/-- A mark on an outcome names the policy it was made under. -/
theorem policy_of_mark (plan : Plan) (policy : BoundaryPolicy) (plateau : Plateau) (rover : Nat) :
    ((plan.outcome policy plateau rover).skipped ≠ 0 → policy = .ignore) ∧
      ((plan.outcome policy plateau rover).wrapped ≠ 0 → policy = .wrap) ∧
      ((plan.outcome policy plateau rover).halted = true → policy = .stop) ∧
      ∀ fault, (plan.outcome policy plateau rover).result = .error fault → policy = .strict := by
  have hm := Journey.marked_drive policy plateau rover plan.start plan.commands
  rw [outcome_eq]
  exact ⟨hm.skipped, hm.wrapped, fun h => hm.halted (Journey.ending_of_halted h),
    fun fault h => hm.failed fault (Journey.ending_of_result h)⟩

/-- A policy that does not fail comes to a pose. -/
theorem result_ok (plan : Plan) (policy : BoundaryPolicy) (plateau : Plateau) (rover : Nat)
    (h : policy ≠ .strict) : ∃ pose, (plan.outcome policy plateau rover).result = .ok pose := by
  cases hr : (plan.outcome policy plateau rover).result with
  | ok pose => exact ⟨pose, rfl⟩
  | error fault => exact absurd ((policy_of_mark plan policy plateau rover).2.2.2 fault hr) h

theorem halted_eq_false (plan : Plan) (policy : BoundaryPolicy) (plateau : Plateau) (rover : Nat)
    (h : policy ≠ .stop) : (plan.outcome policy plateau rover).halted = false := by
  cases hh : (plan.outcome policy plateau rover).halted with
  | false => rfl
  | true => exact absurd ((policy_of_mark plan policy plateau rover).2.2.1 hh) h

theorem skipped_eq_zero (plan : Plan) (policy : BoundaryPolicy) (plateau : Plateau) (rover : Nat)
    (h : policy ≠ .ignore) : (plan.outcome policy plateau rover).skipped = 0 := by
  by_contra hne
  exact h ((policy_of_mark plan policy plateau rover).1 hne)

theorem wrapped_eq_zero (plan : Plan) (policy : BoundaryPolicy) (plateau : Plateau) (rover : Nat)
    (h : policy ≠ .wrap) : (plan.outcome policy plateau rover).wrapped = 0 := by
  by_contra hne
  exact h ((policy_of_mark plan policy plateau rover).2.1 hne)

/-- Policies agree up to the first move off the plateau.  Without such a move
every policy has the same outcome, an unhindered one.  Otherwise all of them
come to the same pose in front of the move, and there the strict policy fails,
the stopping one halts, and the other two go on with a mark. -/
theorem outcomes_agree (plateau : Plateau) (rover : Nat) (plan : Plan) :
    ((plan.start.walker.Clear plateau plan.commands ∧
        ∃ pose, ∀ policy, plan.outcome policy plateau rover = .unhindered rover pose) ∨
      ∃ i pose, plan.start.walker.FirstLeavesAt plateau plan.commands i ∧
        (plan.outcome .strict plateau rover).result = .error (.outOfBounds rover (i + 1) pose) ∧
        (plan.outcome .stop plateau rover).result = .ok pose ∧
        (plan.outcome .stop plateau rover).halted = true ∧
        (∃ final, (plan.outcome .ignore plateau rover).result = .ok final) ∧
        1 ≤ (plan.outcome .ignore plateau rover).skipped ∧
        (∃ final, (plan.outcome .wrap plateau rover).result = .ok final) ∧
        1 ≤ (plan.outcome .wrap plateau rover).wrapped ∧
        ∀ policy, { plan with commands := plan.commands.take i }.outcome policy plateau rover =
          .unhindered rover pose) ∧
      ∀ policy,
        ((plan.outcome policy plateau rover).skipped ≠ 0 → policy = .ignore) ∧
        ((plan.outcome policy plateau rover).wrapped ≠ 0 → policy = .wrap) ∧
        ((plan.outcome policy plateau rover).halted = true → policy = .stop) ∧
        ∀ fault, (plan.outcome policy plateau rover).result = .error fault → policy = .strict := by
  refine ⟨?_, fun policy => policy_of_mark plan policy plateau rover⟩
  rcases Walker.clear_or_firstLeavesAt plateau plan.start.walker plan.commands with
    hclear | ⟨i, hi⟩
  · exact Or.inl ⟨hclear, _, fun policy => outcome_of_clear hclear⟩
  · refine Or.inr ⟨i, _, hi, ?_, ?_, ?_, ?_, ?_, ?_, ?_, fun policy => outcome_take hi⟩
    · rw [outcome_strict hi]
    · rw [outcome_stop hi]
    · rw [outcome_stop hi]
    · exact result_ok plan .ignore plateau rover (by decide)
    · exact one_le_skipped hi
    · exact result_ok plan .wrap plateau rover (by decide)
    · exact one_le_wrapped hi

end Plan
end RoverMission

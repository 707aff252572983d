/-
Strict failures and what they tell.

A rover that starts on the plateau comes through under the strict policy exactly if
every point of the walker's path is on the plateau (`Walker.clear_iff_path_on`), and
then it ends where it would end without a plateau.  Otherwise its fault names the
first point of the path that is off the plateau, and the pose in front of it, from
which the rover looks over the edge (`Plan.strict_failure_diagnosed`).
-/
import RoverMission.Proofs.Policies
import RoverMission.Proofs.Roaming

namespace RoverMission

/-- The pose stands on the edge that it looks over. -/
def Pose.FacesEdge (plateau : Plateau) (pose : Pose) : Prop :=
  match pose.heading with
  | .north => pose.position.y = plateau.maxY
  | .east => pose.position.x = plateau.maxX
  | .south => pose.position.y = 0
  | .west => pose.position.x = 0

namespace Walker

variable {plateau : Plateau} {w : Walker} {k : Command} {commands : List Command} {i : Nat}

/-! ## Paths on the plateau -/

theorem on_follow (h : w.On plateau) (hk : k = .move → (w.follow k).On plateau) :
    (w.follow k).On plateau := by
  cases k with
  | left => exact h
  | right => exact h
  | move => exact hk rfl

/-- Clear commands keep every point of their path on the plateau. -/
theorem on_walk_take_of_clear (h : w.On plateau) (hc : w.Clear plateau commands) (n : Nat) :
    (w.walk (commands.take n)).On plateau := by
  induction commands generalizing w n with
  | nil =>
    rw [List.take_nil]
    exact h
  | cons k commands ih =>
    obtain ⟨hk, hrest⟩ := clear_cons.1 hc
    cases n with
    | zero => exact h
    | succ n => exact ih (on_follow h hk) hrest n

theorem clear_iff_path_on (h : w.On plateau) :
    w.Clear plateau commands ↔
      ∀ n ≤ commands.length, (w.walk (commands.take n)).On plateau := by
  constructor
  · intro hc n _
    exact on_walk_take_of_clear h hc n
  · intro hpath i hi
    have hlt := lt_length_of_leavesAt hi
    exact hi.2 (hpath (i + 1) hlt)

/-- In front of the first move off the plateau the whole path is on it. -/
theorem path_on_of_firstLeavesAt (h : w.On plateau) (hi : w.FirstLeavesAt plateau commands i)
    {n : Nat} (hn : n ≤ i) : (w.walk (commands.take n)).On plateau := by
  have hpath := on_walk_take_of_clear h (clear_take hi) n
  rwa [List.take_take, Nat.min_eq_left hn] at hpath

end Walker

/-- A rover on the plateau whose next cell is off it faces the edge. -/
theorem Pose.facesEdge_of_not_on {plateau : Plateau} {pose : Pose} (h : pose.walker.On plateau)
    (hoff : ¬ (pose.walker.follow .move).On plateau) : pose.FacesEdge plateau := by
  obtain ⟨⟨x, y⟩, heading⟩ := pose
  simp only [Walker.On, Walker.follow, Pose.walker, Plateau.width, Plateau.height] at h hoff
  -- Only the coordinate along the heading changes, so it alone can leave its bounds.
  cases heading with
  | north =>
    show y = plateau.maxY
    simp only [Heading.step] at hoff
    rw [← Int32.toInt_inj]
    omega
  | east =>
    show x = plateau.maxX
    simp only [Heading.step] at hoff
    rw [← Int32.toInt_inj]
    omega
  | south =>
    show y = 0
    simp only [Heading.step] at hoff
    rw [← Int32.toInt_inj, Int32.toInt_zero]
    omega
  | west =>
    show x = 0
    simp only [Heading.step] at hoff
    rw [← Int32.toInt_inj, Int32.toInt_zero]
    omega

/-- Commands whose path keeps to a plateau are carried out without one. -/
theorem Rover.executeAll_of_clear {plateau : Plateau} {r : Rover} {commands : List Command}
    (h : r.pose.walker.On plateau) (hc : r.pose.walker.Clear plateau commands) :
    r.executeAll commands = ({ r with pose := (r.pose.walker.walk commands).pose }, none) :=
  executeAll_of_inRange fun n => Walker.inRange_of_on (Walker.on_walk_take_of_clear h hc n)

namespace Plan

variable {plateau : Plateau} {plan : Plan} {rover : Nat}

/-- The strict policy succeeds with clear commands and with no others. -/
theorem result_strict_ok_iff :
    (∃ pose, (plan.outcome .strict plateau rover).result = .ok pose) ↔
      plan.start.walker.Clear plateau plan.commands := by
  constructor
  · rintro ⟨pose, hr⟩
    rcases Walker.clear_or_firstLeavesAt plateau plan.start.walker plan.commands with
      hc | ⟨i, hi⟩
    · exact hc
    · rw [outcome_strict hi] at hr
      cases hr
  · intro hc
    rw [outcome_of_clear hc]
    exact ⟨_, rfl⟩

theorem firstLeavesAt_of_fault {fault : Fault}
    (hr : (plan.outcome .strict plateau rover).result = .error fault) :
    ∃ i, plan.start.walker.FirstLeavesAt plateau plan.commands i ∧
      fault = .outOfBounds rover (i + 1)
        (plan.start.walker.walk (plan.commands.take i)).pose := by
  rcases Walker.clear_or_firstLeavesAt plateau plan.start.walker plan.commands with
    hc | ⟨i, hi⟩
  · rw [outcome_of_clear hc] at hr
    cases hr
  · rw [outcome_strict hi] at hr
    cases hr
    exact ⟨i, hi, rfl⟩

/-- Under the strict policy a rover comes through exactly if all of the walker's path
is on the plateau.  It then ends where the path ends, as it does without a plateau.
Otherwise it fails with the number of the first command whose point is off the
plateau, in the pose to which the commands before it lead without a plateau; the
command is a move, and the pose faces the edge. -/
theorem strict_failure_diagnosed (plateau : Plateau) (rover : Nat) (plan : Plan)
    (h : plateau.Contains plan.start.position) :
    ((∃ pose, (plan.outcome .strict plateau rover).result = .ok pose) ↔
      ∀ n ≤ plan.commands.length,
        (plan.start.walker.walk (plan.commands.take n)).On plateau) ∧
    (∀ pose, (plan.outcome .strict plateau rover).result = .ok pose →
      pose.walker = plan.start.walker.walk plan.commands ∧
      ∀ id, ({ id, pose := plan.start } : Rover).executeAll plan.commands =
        ({ id, pose }, none)) ∧
    ∀ fault, (plan.outcome .strict plateau rover).result = .error fault →
      ∃ i pose, fault = .outOfBounds rover (i + 1) pose ∧
        plan.commands[i]? = some .move ∧
        ¬ (plan.start.walker.walk (plan.commands.take (i + 1))).On plateau ∧
        (∀ n ≤ i, (plan.start.walker.walk (plan.commands.take n)).On plateau) ∧
        (∀ id, ({ id, pose := plan.start } : Rover).executeAll (plan.commands.take i) =
          ({ id, pose }, none)) ∧
        pose.FacesEdge plateau := by
  have hon := Plateau.contains_iff.1 h
  refine ⟨?_, fun pose hr => ?_, fun fault hr => ?_⟩
  · rw [result_strict_ok_iff]
    exact Walker.clear_iff_path_on hon
  · have hc := result_strict_ok_iff.1 ⟨pose, hr⟩
    rw [outcome_of_clear hc] at hr
    cases hr
    exact ⟨Journey.walker_pose_walk hc, fun id => Rover.executeAll_of_clear hon hc⟩
  · obtain ⟨i, hi, rfl⟩ := firstLeavesAt_of_fault hr
    have hc := Walker.clear_take hi
    have hpath : ∀ n ≤ i, (plan.start.walker.walk (plan.commands.take n)).On plateau :=
      fun n => Walker.path_on_of_firstLeavesAt hon hi
    refine ⟨i, _, rfl, hi.leaves.1, hi.leaves.2, hpath,
      fun id => Rover.executeAll_of_clear hon hc, ?_⟩
    have hoff := hi.leaves.2
    rw [Walker.walk_take_succ hi.leaves.1] at hoff
    apply Pose.facesEdge_of_not_on
    · rw [Journey.walker_pose_walk hc]
      exact hpath i (Nat.le_refl i)
    · rw [Journey.walker_pose_walk hc]
      exact hoff

/-- At the far edge of the widest plateau, where the next cell is out of range. -/
theorem strict_failure_diagnosed_far_edge :
    let plateau : Plateau := { maxX := 2147483647, maxY := 0 }
    let start : Pose := { position := { x := 2147483646, y := 0 }, heading := .north }
    let edge : Pose := { position := { x := 2147483647, y := 0 }, heading := .east }
    let plan : Plan := { start, commands := [.right, .move, .move, .left] }
    plateau.Contains plan.start.position ∧
      (plan.outcome .strict plateau 7).result = .error (.outOfBounds 7 3 edge) ∧
      ¬ (plan.start.walker.walk (plan.commands.take 3)).On plateau ∧
      ({ id := 7, pose := start } : Rover).executeAll (plan.commands.take 2) =
        ({ id := 7, pose := edge }, none) ∧
      edge.FacesEdge plateau := by
  intro plateau start edge plan
  have hstart : plateau.Contains plan.start.position := by decide
  have hresult : (plan.outcome .strict plateau 7).result = .error (.outOfBounds 7 3 edge) := by
    decide +kernel
  obtain ⟨i, pose, hfault, -, hoff, -, hall, hedge⟩ :=
    (strict_failure_diagnosed plateau 7 plan hstart).2.2 _ hresult
  cases hfault
  exact ⟨hstart, hresult, hoff, hall 7, hedge⟩

end Plan
end RoverMission

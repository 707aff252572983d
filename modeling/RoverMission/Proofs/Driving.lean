/-
How a journey goes on.

A command does one of three things to a journey (`step_cases`): nothing if the
journey is over, what it does to a walker if that keeps to the plateau, and what
the policy says at the edge otherwise.  Facts about whole drives come from here
by `drive_invariant`, so no later proof looks into `step`.

Up to the first move that leads off the plateau all policies drive alike, and
the rover goes where the walker goes (`drive_of_clear`).
-/
import RoverMission.Report
import RoverMission.Proofs.Ground

namespace RoverMission
namespace Journey

variable {policy : BoundaryPolicy} {plateau : Plateau} {rover : Nat}

/-! ## Steps -/

theorem walker_turnLeft (p : Pose) : p.turnLeft = (p.walker.follow .left).pose := by
  rw [← Pose.pose_walker p.turnLeft]
  rfl

theorem walker_turnRight (p : Pose) : p.turnRight = (p.walker.follow .right).pose := by
  rw [← Pose.pose_walker p.turnRight]
  rfl

/-- Turns, and moves that keep to the plateau, lead where they lead a walker. -/
theorem step_of_on {j : Journey} {k : Command} (h : j.ending = none)
    (hon : k = .move → (j.pose.walker.follow k).On plateau) :
    step policy plateau rover j k = j.goTo (j.pose.walker.follow k).pose := by
  cases k with
  | left =>
    rw [← walker_turnLeft]
    simp only [step, h]
  | right =>
    rw [← walker_turnRight]
    simp only [step, h]
  | move =>
    obtain ⟨p, hf, hp⟩ := free?_of_on (hon rfl)
    rw [← hp]
    simp only [step, h, hf]

theorem step_of_not_on {j : Journey} (h : j.ending = none)
    (hoff : ¬ (j.pose.walker.follow .move).On plateau) :
    step policy plateau rover j .move = j.atEdge policy plateau rover := by
  simp only [step, h, free?_of_not_on hoff]

theorem step_of_ending {j : Journey} (h : j.ending ≠ none) (k : Command) :
    step policy plateau rover j k = j := by
  cases he : j.ending with
  | none => exact absurd he h
  | some e => simp only [step, he]

/-- Everything that one command can do to a journey. -/
theorem step_cases (policy : BoundaryPolicy) (plateau : Plateau) (rover : Nat) (j : Journey)
    (k : Command) :
    (j.ending ≠ none ∧ step policy plateau rover j k = j) ∨
      (j.ending = none ∧ (k = .move → (j.pose.walker.follow k).On plateau) ∧
        step policy plateau rover j k = j.goTo (j.pose.walker.follow k).pose) ∨
      (j.ending = none ∧ k = .move ∧ ¬ (j.pose.walker.follow .move).On plateau ∧
        step policy plateau rover j k = j.atEdge policy plateau rover) := by
  by_cases he : j.ending = none
  · by_cases hon : k = .move → (j.pose.walker.follow k).On plateau
    · exact Or.inr (Or.inl ⟨he, hon, step_of_on he hon⟩)
    · have hk : k = .move := by
        by_cases hk : k = .move
        · exact hk
        · exact absurd (fun e => absurd e hk) hon
      subst hk
      have hoff : ¬ (j.pose.walker.follow .move).On plateau := fun h => hon fun _ => h
      exact Or.inr (Or.inr ⟨he, rfl, hoff, step_of_not_on he hoff⟩)
  · exact Or.inl ⟨he, step_of_ending he k⟩

theorem drive_concat (policy : BoundaryPolicy) (plateau : Plateau) (rover : Nat) (j : Journey)
    (commands : List Command) (k : Command) :
    drive policy plateau rover j (commands ++ [k]) =
      step policy plateau rover (drive policy plateau rover j commands) k := by
  rw [drive_append]
  rfl

/-- What every step keeps, a whole drive keeps. -/
theorem drive_invariant {P : Journey → Prop}
    (hstep : ∀ j k, P j → P (step policy plateau rover j k)) {j : Journey} (h : P j)
    (commands : List Command) : P (drive policy plateau rover j commands) := by
  induction commands generalizing j with
  | nil => exact h
  | cons k commands ih => exact ih (hstep j k h)

/-! ## Drives up to the edge -/

/-- Where clear commands lead is again a pose. -/
theorem walker_pose_follow {p : Pose} {k : Command}
    (hon : k = .move → (p.walker.follow k).On plateau) :
    (p.walker.follow k).pose.walker = p.walker.follow k := by
  cases k with
  | left =>
    rw [← walker_turnLeft]
    rfl
  | right =>
    rw [← walker_turnRight]
    rfl
  | move => exact Walker.walker_pose (hon rfl)

theorem walker_pose_walk {p : Pose} {commands : List Command}
    (hc : p.walker.Clear plateau commands) :
    (p.walker.walk commands).pose.walker = p.walker.walk commands := by
  induction commands generalizing p with
  | nil =>
    rw [Walker.walk_nil, Pose.pose_walker]
  | cons k commands ih =>
    obtain ⟨hk, hrest⟩ := Walker.clear_cons.1 hc
    have hw := walker_pose_follow hk
    have hrec := ih (p := (p.walker.follow k).pose) (by rw [hw]; exact hrest)
    rw [hw] at hrec
    rw [Walker.walk_cons]
    exact hrec

/-- The journey after commands that all had the effect they have on a walker. -/
def walked (j : Journey) (commands : List Command) : Journey :=
  { j with
    pose := (j.pose.walker.walk commands).pose
    read := j.read + commands.length }

/-- Clear commands lead a rover where they lead a walker, under every policy. -/
theorem drive_of_clear {j : Journey} {commands : List Command} (h : j.ending = none)
    (hc : j.pose.walker.Clear plateau commands) :
    drive policy plateau rover j commands = j.walked commands := by
  induction commands generalizing j with
  | nil =>
    rw [drive_nil, walked, Walker.walk_nil, Pose.pose_walker]
    rfl
  | cons k commands ih =>
    obtain ⟨hk, hrest⟩ := Walker.clear_cons.1 hc
    have hw := walker_pose_follow hk
    have hrec := ih (j := j.goTo (j.pose.walker.follow k).pose) h (by
      show (j.pose.walker.follow k).pose.walker.Clear plateau commands
      rw [hw]
      exact hrest)
    rw [drive_cons, step_of_on h hk, hrec]
    simp only [walked, goTo, hw, Walker.walk_cons, List.length_cons]
    congr 1
    omega

/-- A drive whose first move off the plateau stands at an index is a walk up to
there; then the policy decides. -/
theorem drive_of_firstLeavesAt {j : Journey} {commands : List Command} {i : Nat}
    (h : j.ending = none) (hi : j.pose.walker.FirstLeavesAt plateau commands i) :
    drive policy plateau rover j commands =
      drive policy plateau rover ((j.walked (commands.take i)).atEdge policy plateau rover)
        (commands.drop (i + 1)) := by
  have hclear := Walker.clear_take hi
  obtain ⟨hk, hoff⟩ := hi.leaves
  obtain ⟨hlt, he⟩ := List.getElem?_eq_some_iff.1 hk
  have hsplit : commands = commands.take i ++ .move :: commands.drop (i + 1) := by
    rw [← he, List.getElem_cons_drop, List.take_append_drop]
  have hnext : ¬ ((j.walked (commands.take i)).pose.walker.follow .move).On plateau := by
    show ¬ ((j.pose.walker.walk (commands.take i)).pose.walker.follow .move).On plateau
    rw [walker_pose_walk hclear]
    rw [List.take_add_one, hk, Walker.walk_append] at hoff
    exact hoff
  rw [← step_of_not_on (by exact h) hnext, ← drive_of_clear h hclear, ← drive_cons, ← drive_append,
    ← hsplit]

/-! ## Where a rover can be -/

theorem on_goTo_move {j : Journey} (hon : (j.pose.walker.follow .move).On plateau) :
    (j.goTo (j.pose.walker.follow .move).pose).pose.walker.On plateau := by
  show (j.pose.walker.follow .move).pose.walker.On plateau
  rw [Walker.walker_pose hon]
  exact hon

/-- Free commands turn on the spot or lead onto the plateau. -/
theorem position_goTo (j : Journey) {k : Command}
    (hon : k = .move → (j.pose.walker.follow k).On plateau) :
    (j.goTo (j.pose.walker.follow k).pose).pose.position = j.pose.position ∨
      (j.goTo (j.pose.walker.follow k).pose).pose.walker.On plateau := by
  cases k with
  | left =>
    rw [← walker_turnLeft]
    exact Or.inl rfl
  | right =>
    rw [← walker_turnRight]
    exact Or.inl rfl
  | move => exact Or.inr (on_goTo_move (hon rfl))

/-- A wrapped move leads onto the plateau, from wherever it is made. -/
theorem walker_atEdge_wrap (h : plateau.Sound) (j : Journey) :
    (j.atEdge .wrap plateau rover).pose.walker =
      plateau.wrapped (j.pose.walker.follow .move) := by
  show (j.pose.moveTo (plateau.wrapStep j.pose.position j.pose.heading)).walker = _
  rw [Plateau.moveTo_wrapStep, Walker.walker_pose (Plateau.wrapped_on h _)]

theorem position_atEdge (h : plateau.Sound) (j : Journey) :
    (j.atEdge policy plateau rover).pose.position = j.pose.position ∨
      (j.atEdge policy plateau rover).pose.walker.On plateau := by
  cases policy with
  | strict => exact Or.inl rfl
  | ignore => exact Or.inl rfl
  | stop => exact Or.inl rfl
  | wrap =>
    rw [walker_atEdge_wrap h]
    exact Or.inr (Plateau.wrapped_on h _)

/-- A step leaves the rover where it is or takes it onto the plateau. -/
theorem position_step (h : plateau.Sound) (j : Journey) (k : Command) :
    (step policy plateau rover j k).pose.position = j.pose.position ∨
      (step policy plateau rover j k).pose.walker.On plateau := by
  rcases step_cases policy plateau rover j k with ⟨-, hs⟩ | ⟨-, hon, hs⟩ | ⟨-, -, -, hs⟩
  · rw [hs]
    exact Or.inl rfl
  · rw [hs]
    exact position_goTo j hon
  · rw [hs]
    exact position_atEdge h j

theorem contains_step {j : Journey} (h : plateau.Contains j.pose.position) (k : Command) :
    plateau.Contains (step policy plateau rover j k).pose.position := by
  rcases position_step (Plateau.sound_of_contains h) j k with hp | hon
  · rw [hp]
    exact h
  · exact Plateau.contains_iff.2 hon

/-! ## What the edge leaves behind -/

/-- Each mark that the edge leaves on a journey belongs to one policy. -/
structure Marked (policy : BoundaryPolicy) (j : Journey) : Prop where
  skipped : j.skipped ≠ 0 → policy = .ignore
  wrapped : j.wrapped ≠ 0 → policy = .wrap
  halted : j.ending = some .halted → policy = .stop
  failed : ∀ fault, j.ending = some (.failed fault) → policy = .strict

theorem marked_start (policy : BoundaryPolicy) (pose : Pose) : Marked policy (start pose) where
  skipped h := absurd rfl h
  wrapped h := absurd rfl h
  halted h := by cases h
  failed _ h := by cases h

theorem marked_step {j : Journey} (h : Marked policy j) (k : Command) :
    Marked policy (step policy plateau rover j k) := by
  rcases step_cases policy plateau rover j k with ⟨-, hs⟩ | ⟨-, -, hs⟩ | ⟨he, -, -, hs⟩
  · rw [hs]
    exact h
  · rw [hs]
    exact ⟨h.skipped, h.wrapped, h.halted, h.failed⟩
  · rw [hs]
    -- Only the policy in force touches its own mark; the others are as before.
    cases policy with
    | strict => exact ⟨h.skipped, h.wrapped, fun e => (nomatch e), fun _ _ => rfl⟩
    | ignore => exact ⟨fun _ => rfl, h.wrapped, h.halted, h.failed⟩
    | stop => exact ⟨h.skipped, h.wrapped, fun _ => rfl, fun _ e => nomatch e⟩
    | wrap => exact ⟨h.skipped, fun _ => rfl, h.halted, h.failed⟩

theorem marked_drive (policy : BoundaryPolicy) (plateau : Plateau) (rover : Nat) (pose : Pose)
    (commands : List Command) : Marked policy (drive policy plateau rover (start pose) commands) :=
  drive_invariant (P := Marked policy) (fun _ k h => marked_step h k) (marked_start policy pose)
    commands

/-- Only the strict and the stopping policy end a journey. -/
theorem ending_eq_none_of_marked {j : Journey} (h : Marked policy j) (hs : policy ≠ .strict)
    (ht : policy ≠ .stop) : j.ending = none := by
  cases he : j.ending with
  | none => rfl
  | some e =>
    cases e with
    | halted => exact absurd (h.halted he) ht
    | failed fault => exact absurd (h.failed fault he) hs

/-- Counters never go back. -/
theorem counters_le_step (j : Journey) (k : Command) :
    j.skipped ≤ (step policy plateau rover j k).skipped ∧
      j.wrapped ≤ (step policy plateau rover j k).wrapped := by
  rcases step_cases policy plateau rover j k with ⟨-, hs⟩ | ⟨-, -, hs⟩ | ⟨-, -, -, hs⟩
  · rw [hs]
    exact ⟨Nat.le_refl _, Nat.le_refl _⟩
  · rw [hs]
    exact ⟨Nat.le_refl _, Nat.le_refl _⟩
  · rw [hs]
    cases policy <;> simp [atEdge, goTo]

theorem counters_le_drive (j : Journey) (commands : List Command) :
    j.skipped ≤ (drive policy plateau rover j commands).skipped ∧
      j.wrapped ≤ (drive policy plateau rover j commands).wrapped :=
  drive_invariant (P := fun j' => j.skipped ≤ j'.skipped ∧ j.wrapped ≤ j'.wrapped)
    (fun j' k h => ⟨Nat.le_trans h.1 (counters_le_step j' k).1,
      Nat.le_trans h.2 (counters_le_step j' k).2⟩)
    ⟨Nat.le_refl _, Nat.le_refl _⟩ commands

end Journey
end RoverMission

/-
Rovers on their plateau.

A step leaves the rover where it is or takes it onto the plateau, so a rover that
starts on the plateau stays there, and one that starts elsewhere stays at its
start until it comes onto the plateau for good.  A mission text lets only starts
on the plateau through; hence all poses that its report or its fault tells of
are on the plateau.
-/
import RoverMission.Proofs.ErrorModes
import RoverMission.Proofs.Reading

namespace RoverMission

/-- The journey of a plan after so many commands. -/
def Plan.journey (plan : Plan) (policy : BoundaryPolicy) (plateau : Plateau) (rover n : Nat) :
    Journey :=
  Journey.drive policy plateau rover (.start plan.start) (plan.commands.take n)

namespace Journey

variable {policy : BoundaryPolicy} {plateau : Plateau} {rover : Nat} {j : Journey}

/-! ## Drives -/

theorem contains_drive (h : plateau.Contains j.pose.position) (commands : List Command) :
    plateau.Contains (drive policy plateau rover j commands).pose.position :=
  drive_invariant (P := fun j => plateau.Contains j.pose.position)
    (fun _ k hj => contains_step hj k) h commands

/-- A rover stays where it is until it is on the plateau. -/
theorem position_drive (hs : plateau.Sound) (j : Journey) (commands : List Command) :
    (drive policy plateau rover j commands).pose.position = j.pose.position ∨
      plateau.Contains (drive policy plateau rover j commands).pose.position := by
  refine drive_invariant
    (P := fun j' => j'.pose.position = j.pose.position ∨ plateau.Contains j'.pose.position)
    (fun j' k hj => ?_) (Or.inl rfl) commands
  rcases hj with hj | hj
  · rcases position_step hs j' k with hp | hon
    · exact Or.inl (hp.trans hj)
    · exact Or.inr (Plateau.contains_iff.2 hon)
  · exact Or.inr (contains_step hj k)

theorem contains_step_wrap (hs : plateau.Sound) (h : j.ending = none) :
    plateau.Contains (step .wrap plateau rover j .move).pose.position := by
  rw [Plateau.contains_iff]
  rcases step_cases .wrap plateau rover j .move with ⟨hover, -⟩ | ⟨-, hon, he⟩ | ⟨-, -, -, he⟩
  · exact absurd h hover
  · rw [he]
    exact on_goTo_move (hon rfl)
  · rw [he, walker_atEdge_wrap hs]
    exact Plateau.wrapped_on hs _

/-- Under the wrapping policy the first move leads onto the plateau. -/
theorem contains_drive_wrap (hs : plateau.Sound) (pose : Pose) {commands : List Command}
    (h : .move ∈ commands) :
    plateau.Contains (drive .wrap plateau rover (start pose) commands).pose.position := by
  obtain ⟨before, behind, rfl⟩ := List.append_of_mem h
  have he := ending_eq_none_of_marked (marked_drive .wrap plateau rover pose before)
    (by decide) (by decide)
  rw [drive_append, drive_cons]
  exact contains_drive (contains_step_wrap hs he) behind

/-! ## Faults -/

/-- The journey has failed at the edge at most, and then stands where the fault
says. -/
def FailsAtPose (rover : Nat) (j : Journey) : Prop :=
  ∀ fault, j.ending = some (.failed fault) → ∃ i, fault = .outOfBounds rover i j.pose

theorem failsAtPose_step (h : j.FailsAtPose rover) (k : Command) :
    (step policy plateau rover j k).FailsAtPose rover := by
  rcases step_cases policy plateau rover j k with ⟨-, hs⟩ | ⟨he, -, hs⟩ | ⟨he, -, -, hs⟩
  · rw [hs]
    exact h
  · rw [hs]
    intro fault hf
    rw [goTo, he] at hf
    cases hf
  · rw [hs]
    intro fault hf
    -- Only the strict policy fails, and it stays where it is.
    cases policy with
    | strict =>
      cases hf
      exact ⟨j.read + 1, rfl⟩
    | ignore =>
      rw [atEdge, goTo, he] at hf
      cases hf
    | stop => cases hf
    | wrap =>
      rw [atEdge, goTo, he] at hf
      cases hf

theorem failsAtPose_start (pose : Pose) : (start pose).FailsAtPose rover := by
  intro fault h
  cases h

theorem failsAtPose_drive (policy : BoundaryPolicy) (plateau : Plateau) (rover : Nat) (pose : Pose)
    (commands : List Command) :
    (drive policy plateau rover (start pose) commands).FailsAtPose rover :=
  drive_invariant (P := FailsAtPose rover) (fun _ k h => failsAtPose_step h k)
    (failsAtPose_start pose) commands

end Journey

/-! ## Plans -/

namespace Plan

variable {policy : BoundaryPolicy} {plateau : Plateau} {rover : Nat} {plan : Plan}

theorem outcome_eq_journey (plan : Plan) (policy : BoundaryPolicy) (plateau : Plateau)
    (rover : Nat) :
    plan.outcome policy plateau rover =
      (plan.journey policy plateau rover plan.commands.length).outcome rover := by
  rw [journey, List.take_length, outcome_eq]

theorem contains_journey (h : plateau.Contains plan.start.position) (n : Nat) :
    plateau.Contains (plan.journey policy plateau rover n).pose.position :=
  Journey.contains_drive (j := .start plan.start) h _

/-- Once on the plateau, a rover stays there. -/
theorem contains_journey_of_le {n n' : Nat} (hle : n ≤ n')
    (h : plateau.Contains (plan.journey policy plateau rover n).pose.position) :
    plateau.Contains (plan.journey policy plateau rover n').pose.position := by
  have hsplit : plan.commands.take n' =
      plan.commands.take n ++ (plan.commands.drop n).take (n' - n) := by
    rw [← List.take_add, Nat.add_sub_cancel' hle]
  rw [journey, hsplit, Journey.drive_append]
  exact Journey.contains_drive h _

/-- The pose that an outcome ends in is on the plateau. -/
theorem contains_of_result {pose : Pose} (h : plateau.Contains plan.start.position)
    (hr : (plan.outcome policy plateau rover).result = .ok pose) :
    plateau.Contains pose.position := by
  rw [outcome_eq_journey] at hr
  rw [← Journey.pose_of_result hr]
  exact contains_journey h _

/-- The pose that an outcome fails in is on the plateau. -/
theorem outOfBounds_of_result {fault : Fault} (h : plateau.Contains plan.start.position)
    (hr : (plan.outcome policy plateau rover).result = .error fault) :
    ∃ i pose, fault = .outOfBounds rover i pose ∧ plateau.Contains pose.position := by
  rw [outcome_eq_journey] at hr
  obtain ⟨i, hi⟩ := Journey.failsAtPose_drive policy plateau rover plan.start
    (plan.commands.take plan.commands.length) fault (Journey.ending_of_result hr)
  exact ⟨i, _, hi, contains_journey h _⟩

end Plan

/-! ## Reports -/

namespace Report

variable {policy : BoundaryPolicy} {mode : ErrorMode} {m : Mission}

/-- A mission comes to the collected report or to a fault in it. -/
theorem result_ofMission_cases (policy : BoundaryPolicy) (mode : ErrorMode) (m : Mission) :
    (ofMission policy mode m).result = .ok (collected policy m) ∨
      ∃ fault ∈ (collected policy m).failures, (ofMission policy mode m).result = .error fault := by
  cases mode with
  | collect => exact Or.inl (result_ofMission_collect policy m)
  | failFast =>
    rw [result_ofMission_failFast]
    cases hf : (collected policy m).outcomes.findSome? Outcome.fault? with
    | none => exact Or.inl rfl
    | some fault =>
      obtain ⟨outcome, hmem, ho⟩ := List.exists_of_findSome?_eq_some hf
      exact Or.inr ⟨fault, List.mem_filterMap.2 ⟨outcome, hmem, ho⟩, rfl⟩

theorem contains_of_mem_finalPoses {pose : Pose}
    (h : ∀ plan ∈ m.plans, m.plateau.Contains plan.start.position)
    (hp : pose ∈ (collected policy m).finalPoses) : m.plateau.Contains pose.position := by
  obtain ⟨outcome, hmem, ho⟩ := List.mem_filterMap.1 hp
  obtain ⟨i, plan, hplan, rfl⟩ := exists_plan_of_mem_collected hmem
  exact Plan.contains_of_result (h plan hplan) (Outcome.result_of_pose? ho)

theorem outOfBounds_of_mem_failures {fault : Fault}
    (h : ∀ plan ∈ m.plans, m.plateau.Contains plan.start.position)
    (hf : fault ∈ (collected policy m).failures) :
    ∃ rover i pose, fault = .outOfBounds rover i pose ∧ m.plateau.Contains pose.position := by
  obtain ⟨outcome, hmem, ho⟩ := List.mem_filterMap.1 hf
  obtain ⟨i, plan, hplan, rfl⟩ := exists_plan_of_mem_collected hmem
  exact ⟨1 + i, Plan.outOfBounds_of_result (h plan hplan) (Outcome.result_of_fault? ho)⟩

end Report

/-- The rovers of a mission that is read are on its plateau after every command,
and so are all poses that the report or the fault tells of.  A rover that starts
anywhere keeps its position until it is on the plateau, which it then never
leaves; under the wrapping policy it is there from its first move on. -/
theorem rovers_on_plateau :
    (∀ (t : Text) (m : Mission), Mission.ofText t = .ok m →
      ∀ (policy : BoundaryPolicy) (mode : ErrorMode),
        (∀ (i : Nat) (plan : Plan), m.plans[i]? = some plan → ∀ n,
          m.plateau.Contains (plan.journey policy m.plateau (i + 1) n).pose.position) ∧
        (∀ report, (Report.ofMission policy mode m).result = .ok report →
          (∀ pose ∈ report.finalPoses, m.plateau.Contains pose.position) ∧
          ∀ fault ∈ report.failures, ∃ rover j pose,
            fault = .outOfBounds rover j pose ∧ m.plateau.Contains pose.position) ∧
        ∀ fault, (Report.ofMission policy mode m).result = .error fault → ∃ rover j pose,
          fault = .outOfBounds rover j pose ∧ m.plateau.Contains pose.position) ∧
      ∀ (x y : Coordinate) (plateau : Plateau), Plateau.ofCorner? x y = some plateau →
        ∀ (policy : BoundaryPolicy) (rover : Nat) (plan : Plan),
          (∀ n, (plan.journey policy plateau rover n).pose.position = plan.start.position ∨
            plateau.Contains (plan.journey policy plateau rover n).pose.position) ∧
          (∀ n n', n ≤ n' →
            plateau.Contains (plan.journey policy plateau rover n).pose.position →
            plateau.Contains (plan.journey policy plateau rover n').pose.position) ∧
          (policy = .wrap → ∀ n, .move ∈ plan.commands.take n →
            plateau.Contains (plan.journey policy plateau rover n).pose.position) := by
  constructor
  · intro t m ht policy mode
    obtain ⟨-, hplans⟩ := Mission.wellFormed_of_ofText ht
    have hstart : ∀ plan ∈ m.plans, m.plateau.Contains plan.start.position :=
      fun plan hmem => (hplans plan hmem).1
    refine ⟨fun i plan hplan n => ?_, fun report hr => ?_, fun fault hr => ?_⟩
    · exact Plan.contains_journey (hstart plan (List.mem_of_getElem? hplan)) n
    · rcases Report.result_ofMission_cases policy mode m with he | ⟨fault, -, he⟩
      · rw [he] at hr
        cases hr
        exact ⟨fun _ => Report.contains_of_mem_finalPoses hstart,
          fun _ => Report.outOfBounds_of_mem_failures hstart⟩
      · rw [he] at hr
        cases hr
    · rcases Report.result_ofMission_cases policy mode m with he | ⟨fault', hmem, he⟩
      · rw [he] at hr
        cases hr
      · rw [he] at hr
        cases hr
        exact Report.outOfBounds_of_mem_failures hstart hmem
  · intro x y plateau hcorner policy rover plan
    have hs := Plateau.sound_of_ofCorner? hcorner
    refine ⟨fun n => ?_, fun n n' hle => Plan.contains_journey_of_le hle, ?_⟩
    · exact Journey.position_drive hs (.start plan.start) _
    · rintro rfl n hmove
      exact Journey.contains_drive_wrap hs plan.start hmove

/-- A rover that drives into the corner, and one that starts behind it. -/
theorem rovers_on_plateau_corner :
    let plateau : Plateau := { maxX := 1, maxY := 1 }
    let corner : Pose := { position := { x := 1, y := 1 }, heading := .north }
    let m : Mission := { plateau, plans := [{ start := corner, commands := [.right, .move] }] }
    let behind : Plan :=
      { start := { position := { x := 5, y := -7 }, heading := .west }, commands := [.left, .move] }
    Mission.ofText "1 1\n1 1 N\nRM".toList = .ok m ∧
      (Report.ofMission .strict .failFast m).result =
        .error (.outOfBounds 1 2 corner.turnRight) ∧
      (∃ rover j pose, Fault.outOfBounds 1 2 corner.turnRight = .outOfBounds rover j pose ∧
        plateau.Contains pose.position) ∧
      Plateau.ofCorner? 1 1 = some plateau ∧ ¬ plateau.Contains behind.start.position ∧
      plateau.Contains (behind.journey .wrap plateau 1 2).pose.position :=
  ⟨rfl, rfl, (rovers_on_plateau.1 "1 1\n1 1 N\nRM".toList _ rfl .strict .failFast).2.2 _ rfl,
    rfl, by decide, (rovers_on_plateau.2 1 1 _ rfl .wrap 1 _).2.2 rfl 2 (by decide)⟩

end RoverMission

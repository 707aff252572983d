/-
Pictures of a plateau.

Turned by a quarter or seen in a mirror, a plateau is a plateau again.  A picture says
what becomes of the plateau, of a walker on it and of its commands.  It is faithful if
walkers go in the picture where they go on the plateau, keep to the one as they keep to
the other and wrap around its edges in the same way.  A faithful picture of a rover
that is driven is then a rover that is driven in the picture (`drive_journey`), so no
direction and no edge is special (`outcomes_pictured`).
-/
import RoverMission.Proofs.Policies

namespace RoverMission

namespace Heading

/-- The heading that a mirror shows which exchanges east and west. -/
def mirrored : Heading → Heading
  | north => north
  | east => west
  | south => south
  | west => east

theorem mirrored_left (h : Heading) : h.left.mirrored = h.mirrored.right := by cases h <;> rfl

theorem mirrored_right (h : Heading) : h.right.mirrored = h.mirrored.left := by cases h <;> rfl

theorem step_mirrored (h : Heading) : h.mirrored.step = (-h.step.1, h.step.2) := by
  cases h <;> rfl

theorem step_right (h : Heading) : h.right.step = (h.step.2, -h.step.1) := by cases h <;> rfl

end Heading

structure Picture where
  plateau : Plateau → Plateau
  /-- Where a walker that walks on a plateau is seen. -/
  walker : Plateau → Walker → Walker
  command : Command → Command

namespace Picture

/-- A quarter turn clockwise. -/
def quarterTurn : Picture where
  plateau := fun plateau => { maxX := plateau.maxY, maxY := plateau.maxX }
  walker := fun plateau w =>
    { x := w.y, y := plateau.maxX.toInt - w.x, heading := w.heading.right }
  command := id

/-- The image in a mirror along the northward axis. -/
def mirror : Picture where
  plateau := id
  walker := fun plateau w =>
    { x := plateau.maxX.toInt - w.x, y := w.y, heading := w.heading.mirrored }
  command := Command.exchanged

variable (pic : Picture) (plateau : Plateau)

def pose (p : Pose) : Pose := (pic.walker plateau p.walker).pose

def plan (plan : Plan) : Plan where
  start := pic.pose plateau plan.start
  commands := plan.commands.map pic.command

def fault : Fault → Fault
  | .outOfBounds rover instruction p => .outOfBounds rover instruction (pic.pose plateau p)
  | fault => fault

/-- The same outcome, seen in the picture: only its pose is another. -/
def outcome (o : Outcome) : Outcome :=
  { o with
    result :=
      match o.result with
      | .ok p => .ok (pic.pose plateau p)
      | .error fault => .error (pic.fault plateau fault) }

def ending : Ending → Ending
  | .halted => .halted
  | .failed fault => .failed (pic.fault plateau fault)

def event : Event → Event
  | .moveSkipped rover instruction p => .moveSkipped rover instruction (pic.pose plateau p)
  | event => event

def journey (j : Journey) : Journey :=
  { j with
    pose := pic.pose plateau j.pose
    ending := j.ending.map (pic.ending plateau)
    reported := j.reported.map (pic.event plateau) }

/-! ## Faithful pictures -/

/-- What is done on a plateau is done in the picture of it. -/
structure Faithful (pic : Picture) : Prop where
  command_eq_move_iff (k : Command) : pic.command k = .move ↔ k = .move
  on_iff (plateau : Plateau) (w : Walker) :
    (pic.walker plateau w).On (pic.plateau plateau) ↔ w.On plateau
  follow (plateau : Plateau) (w : Walker) (k : Command) :
    pic.walker plateau (w.follow k) = (pic.walker plateau w).follow (pic.command k)
  wrapped {plateau : Plateau} (h : plateau.Sound) (w : Walker) :
    pic.walker plateau (plateau.wrapped w) =
      (pic.plateau plateau).wrapped (pic.walker plateau w)

/-- Counting the cells of a row from its other end commutes with going around it. -/
theorem maxX_sub_emod {plateau : Plateau} (h : plateau.Sound) (x : Int) :
    (plateau.maxX.toInt - x) % plateau.width = plateau.maxX.toInt - x % plateau.width := by
  have hdiv := Int.emod_add_ediv_mul x plateau.width
  have hnonneg := Int.emod_nonneg x (Int.ne_of_gt (Plateau.width_pos h))
  have hlt := Int.emod_lt_of_pos x (Plateau.width_pos h)
  have hwidth : plateau.width = plateau.maxX.toInt + 1 := rfl
  have hx : plateau.maxX.toInt - x =
      plateau.maxX.toInt - x % plateau.width + -(x / plateau.width) * plateau.width := by
    rw [Int.neg_mul]
    omega
  rw [hx, Int.add_mul_emod_self_right, Int.emod_eq_of_lt (by omega) (by omega)]

theorem faithful_quarterTurn : quarterTurn.Faithful where
  command_eq_move_iff _ := Iff.rfl
  on_iff plateau w := by
    simp only [quarterTurn, Walker.On, Plateau.width, Plateau.height]
    omega
  follow plateau w k := by
    cases k with
    | left => simp [quarterTurn, Walker.follow]
    | right => rfl
    | move =>
      simp only [quarterTurn, Walker.follow, id, Heading.step_right, Walker.mk.injEq, and_true,
        true_and]
      omega
  wrapped {plateau} h w := by
    have hrow := maxX_sub_emod h w.x
    simp only [quarterTurn, Plateau.wrapped, Walker.mk.injEq, and_true]
    exact ⟨rfl, hrow.symm⟩

theorem faithful_mirror : mirror.Faithful where
  command_eq_move_iff k := by cases k <;> decide
  on_iff plateau w := by
    simp only [mirror, Walker.On, Plateau.width, Plateau.height, id]
    omega
  follow plateau w k := by
    cases k with
    | left => simp [mirror, Walker.follow, Command.exchanged, Heading.mirrored_left]
    | right => simp [mirror, Walker.follow, Command.exchanged, Heading.mirrored_right]
    | move =>
      simp only [mirror, Walker.follow, Command.exchanged, Heading.step_mirrored,
        Walker.mk.injEq, and_true]
      omega
  wrapped {plateau} h w := by
    have hrow := maxX_sub_emod h w.x
    simp only [mirror, Plateau.wrapped, Walker.mk.injEq, and_true, id]
    exact hrow.symm

/-! ## Steps and drives in a picture -/

variable {pic : Picture} {plateau : Plateau} {p : Pose} {j : Journey} {k : Command}
variable {policy : BoundaryPolicy} {rover : Nat}

/-- A pose on the plateau is seen where its walker is seen. -/
theorem Faithful.walker_pose (hpic : pic.Faithful) (h : p.walker.On plateau) :
    (pic.pose plateau p).walker = pic.walker plateau p.walker :=
  Walker.walker_pose ((hpic.on_iff plateau p.walker).2 h)

theorem Faithful.contains_pose (hpic : pic.Faithful) (h : plateau.Contains p.position) :
    (pic.plateau plateau).Contains (pic.pose plateau p).position := by
  have hon := Plateau.contains_iff.1 h
  rw [Plateau.contains_iff, hpic.walker_pose hon, hpic.on_iff]
  exact hon

/-- The next walker of a pictured pose is the picture of the next walker. -/
theorem Faithful.follow_pose (hpic : pic.Faithful) (h : p.walker.On plateau) (k : Command) :
    (pic.pose plateau p).walker.follow (pic.command k) =
      pic.walker plateau (p.walker.follow k) := by
  rw [hpic.walker_pose h, hpic.follow]

theorem Faithful.pose_wrapStep (hpic : pic.Faithful) (h : p.walker.On plateau) :
    pic.pose plateau (p.moveTo (plateau.wrapStep p.position p.heading)) =
      (pic.pose plateau p).moveTo ((pic.plateau plateau).wrapStep
        (pic.pose plateau p).position (pic.pose plateau p).heading) := by
  have hs := Plateau.sound_of_contains (Plateau.contains_iff.2 h)
  have hmove : pic.command .move = .move := (hpic.command_eq_move_iff .move).2 rfl
  have hfollow := hpic.follow_pose h .move
  rw [hmove] at hfollow
  rw [Plateau.moveTo_wrapStep, Plateau.moveTo_wrapStep, hfollow, pose,
    Walker.walker_pose (Plateau.wrapped_on hs _), hpic.wrapped hs]

theorem Faithful.journey_atEdge (hpic : pic.Faithful) (h : j.pose.walker.On plateau) :
    pic.journey plateau (j.atEdge policy plateau rover) =
      (pic.journey plateau j).atEdge policy (pic.plateau plateau) rover := by
  cases policy with
  | strict => rfl
  | ignore => rfl
  | stop => rfl
  | wrap =>
    have hp := hpic.pose_wrapStep h
    simp only [Journey.atEdge, Journey.goTo, journey, hp]

theorem Faithful.step_journey (hpic : pic.Faithful) (h : j.pose.walker.On plateau)
    (k : Command) :
    Journey.step policy (pic.plateau plateau) rover (pic.journey plateau j) (pic.command k) =
      pic.journey plateau (Journey.step policy plateau rover j k) := by
  rcases Journey.step_cases policy plateau rover j k with
    ⟨hover, hs⟩ | ⟨hgo, hon, hs⟩ | ⟨hgo, rfl, hoff, hs⟩
  · have hover' : (pic.journey plateau j).ending ≠ none := by
      simpa [journey] using hover
    rw [hs, Journey.step_of_ending hover']
  · have hgo' : (pic.journey plateau j).ending = none := by simp [journey, hgo]
    have hfollow : (pic.journey plateau j).pose.walker.follow (pic.command k) =
        pic.walker plateau (j.pose.walker.follow k) := hpic.follow_pose h k
    have hon' : pic.command k = .move →
        ((pic.journey plateau j).pose.walker.follow (pic.command k)).On (pic.plateau plateau) := by
      rw [hfollow, hpic.on_iff, hpic.command_eq_move_iff]
      exact hon
    rw [hs, Journey.step_of_on hgo' hon', hfollow]
    have hp : pic.pose plateau (j.pose.walker.follow k).pose =
        (pic.walker plateau (j.pose.walker.follow k)).pose := by
      rw [pose, Journey.walker_pose_follow hon]
    simp only [Journey.goTo, journey, hp]
  · have hgo' : (pic.journey plateau j).ending = none := by simp [journey, hgo]
    have hmove : pic.command .move = .move := (hpic.command_eq_move_iff .move).2 rfl
    have hfollow : (pic.journey plateau j).pose.walker.follow (pic.command .move) =
        pic.walker plateau (j.pose.walker.follow .move) := hpic.follow_pose h .move
    have hoff' :
        ¬ ((pic.journey plateau j).pose.walker.follow .move).On (pic.plateau plateau) := by
      rw [hmove] at hfollow
      rw [hfollow, hpic.on_iff]
      exact hoff
    rw [hs, hmove, Journey.step_of_not_on hgo' hoff', hpic.journey_atEdge h]

theorem Faithful.drive_journey (hpic : pic.Faithful) (policy : BoundaryPolicy) (rover : Nat)
    (h : j.pose.walker.On plateau) (commands : List Command) :
    Journey.drive policy (pic.plateau plateau) rover (pic.journey plateau j)
        (commands.map pic.command) =
      pic.journey plateau (Journey.drive policy plateau rover j commands) := by
  induction commands generalizing j with
  | nil => rfl
  | cons k commands ih =>
    have hnext : (Journey.step policy plateau rover j k).pose.walker.On plateau :=
      Plateau.contains_iff.1 (Journey.contains_step (Plateau.contains_iff.2 h) k)
    rw [List.map_cons, Journey.drive_cons, Journey.drive_cons, hpic.step_journey h, ih hnext]

theorem outcome_journey (pic : Picture) (plateau : Plateau) (rover : Nat) (j : Journey) :
    (pic.journey plateau j).outcome rover = pic.outcome plateau (j.outcome rover) := by
  obtain ⟨p, read, skipped, wrapped, ending, reported⟩ := j
  cases ending with
  | none => rfl
  | some e => cases e <;> rfl

/-- A faithful picture of what comes of a plan is what comes of it in the picture. -/
theorem Faithful.outcome_plan (hpic : pic.Faithful) {plan : Plan}
    (h : plateau.Contains plan.start.position) :
    (pic.plan plateau plan).outcome policy (pic.plateau plateau) rover =
      pic.outcome plateau (plan.outcome policy plateau rover) := by
  have hdrive := hpic.drive_journey (j := .start plan.start) policy rover
    (Plateau.contains_iff.1 h) plan.commands
  rw [Plan.outcome_eq, Plan.outcome_eq, ← outcome_journey, ← hdrive]
  rfl

/-- No direction is special.  Turned by a quarter or seen in the mirror, a plan starts on
the plateau again, and what comes of it under any policy is what came of the plan,
turned or mirrored with it: the same counters, the same halt, the same number of the
command that fails and the pose in the picture. -/
theorem outcomes_pictured (policy : BoundaryPolicy) (plateau : Plateau) (rover : Nat)
    (plan : Plan) (h : plateau.Contains plan.start.position) :
    ((quarterTurn.plateau plateau).Contains (quarterTurn.plan plateau plan).start.position ∧
      (quarterTurn.plan plateau plan).outcome policy (quarterTurn.plateau plateau) rover =
        quarterTurn.outcome plateau (plan.outcome policy plateau rover)) ∧
    (mirror.plateau plateau).Contains (mirror.plan plateau plan).start.position ∧
      (mirror.plan plateau plan).outcome policy (mirror.plateau plateau) rover =
        mirror.outcome plateau (plan.outcome policy plateau rover) :=
  ⟨⟨faithful_quarterTurn.contains_pose h, faithful_quarterTurn.outcome_plan h⟩,
    faithful_mirror.contains_pose h, faithful_mirror.outcome_plan h⟩

/-- The far edge of the widest plateau, where the next cell is out of range, is turned
and mirrored to edges where the next cell is negative. -/
theorem outcomes_pictured_far_edge :
    let plateau : Plateau := { maxX := 2147483647, maxY := 0 }
    let plan : Plan :=
      { start := { position := { x := 2147483647, y := 0 }, heading := .north }
        commands := [.right, .move] }
    let origin : Position := { x := 0, y := 0 }
    plateau.Contains plan.start.position ∧
      (plan.outcome .strict plateau 4).result =
        .error (.outOfBounds 4 2 { plan.start with heading := .east }) ∧
      ((quarterTurn.plan plateau plan).outcome .strict { maxX := 0, maxY := 2147483647 } 4).result =
        .error (.outOfBounds 4 2 { position := origin, heading := .south }) ∧
      ((mirror.plan plateau plan).outcome .strict plateau 4).result =
        .error (.outOfBounds 4 2 { position := origin, heading := .west }) := by
  intro plateau plan origin
  have hstart : plateau.Contains plan.start.position := by decide
  have hresult : (plan.outcome .strict plateau 4).result =
      .error (.outOfBounds 4 2 { plan.start with heading := .east }) := by decide +kernel
  obtain ⟨⟨-, hturned⟩, -, hmirrored⟩ := outcomes_pictured .strict plateau 4 plan hstart
  refine ⟨hstart, hresult, ?_, ?_⟩
  · refine (congrArg Outcome.result hturned).trans ?_
    simp only [outcome, hresult]
    decide
  · refine (congrArg Outcome.result hmirrored).trans ?_
    simp only [outcome, hresult]
    decide

end Picture
end RoverMission

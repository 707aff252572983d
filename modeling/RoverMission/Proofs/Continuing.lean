/-
Journeys that are taken up again.

A journey that is not over can be continued by a new journey from its pose: command
by command the new one does what the old one would have done, and only counts from
the start (`Continues`).  So what comes of a plan and what comes of more commands from
where it ended add up to what comes of all commands in one go (`Plan.addsUp_outcome`).
A journey that is over stays as it is, whatever commands follow
(`Plan.outcome_extended`).
-/
import RoverMission.Proofs.Containment

namespace RoverMission

/-! ## Journeys that continue others -/

/-- The fault in a journey of which some commands were driven before. -/
def Fault.later (read : Nat) : Fault → Fault
  | .outOfBounds rover instruction pose => .outOfBounds rover (read + instruction) pose
  | fault => fault

def Ending.later (read : Nat) : Ending → Ending
  | .halted => .halted
  | .failed fault => .failed (fault.later read)

namespace Journey

variable {policy : BoundaryPolicy} {plateau : Plateau} {rover : Nat} {base j whole : Journey}

/-- What has been driven before, and what has been driven since, are the whole. -/
structure Continues (base j whole : Journey) : Prop where
  pose : whole.pose = j.pose
  read : whole.read = base.read + j.read
  skipped : whole.skipped = base.skipped + j.skipped
  wrapped : whole.wrapped = base.wrapped + j.wrapped
  ending : whole.ending = j.ending.map (Ending.later base.read)

theorem continues_start (h : base.ending = none) : Continues base (start base.pose) base where
  pose := rfl
  read := rfl
  skipped := rfl
  wrapped := rfl
  ending := h

theorem continues_goTo (h : Continues base j whole) {p p' : Pose} (hp : p' = p) :
    Continues base (j.goTo p) (whole.goTo p') where
  pose := hp
  read := by
    have hread := h.read
    show whole.read + 1 = base.read + (j.read + 1)
    omega
  skipped := h.skipped
  wrapped := h.wrapped
  ending := h.ending

theorem continues_atEdge (h : Continues base j whole) :
    Continues base (j.atEdge policy plateau rover) (whole.atEdge policy plateau rover) := by
  have hread := h.read
  have hgo := continues_goTo h h.pose
  cases policy with
  | strict =>
    refine ⟨hgo.pose, hgo.read, hgo.skipped, hgo.wrapped, ?_⟩
    show some (Ending.failed (.outOfBounds rover (whole.read + 1) whole.pose)) =
      some (Ending.failed (.outOfBounds rover (base.read + (j.read + 1)) j.pose))
    rw [hread, h.pose, Nat.add_assoc]
  | ignore =>
    refine ⟨hgo.pose, hgo.read, ?_, hgo.wrapped, hgo.ending⟩
    have hskipped := h.skipped
    show whole.skipped + 1 = base.skipped + (j.skipped + 1)
    omega
  | stop => exact ⟨hgo.pose, hgo.read, hgo.skipped, hgo.wrapped, rfl⟩
  | wrap =>
    refine ⟨?_, hgo.read, hgo.skipped, ?_, hgo.ending⟩
    · show whole.pose.moveTo (plateau.wrapStep whole.pose.position whole.pose.heading) = _
      rw [h.pose]
      rfl
    · have hwrapped := h.wrapped
      show whole.wrapped + 1 = base.wrapped + (j.wrapped + 1)
      omega

theorem continues_step (h : Continues base j whole) (k : Command) :
    Continues base (step policy plateau rover j k) (step policy plateau rover whole k) := by
  have hending := h.ending
  cases he : j.ending with
  | some e =>
    have hover : whole.ending ≠ none := by
      rw [hending, he]
      exact Option.some_ne_none _
    have hover' : j.ending ≠ none := by
      rw [he]
      exact Option.some_ne_none e
    rw [step_of_ending hover', step_of_ending hover]
    exact h
  | none =>
    rw [he] at hending
    by_cases hon : k = .move → (j.pose.walker.follow k).On plateau
    · have hon' : k = .move → (whole.pose.walker.follow k).On plateau := by rwa [h.pose]
      rw [step_of_on he hon, step_of_on hending hon']
      exact continues_goTo h (by rw [h.pose])
    · have hk : k = .move := by
        by_contra hk
        exact hon fun e => absurd e hk
      subst hk
      have hoff : ¬ (j.pose.walker.follow .move).On plateau := fun ho => hon fun _ => ho
      have hoff' : ¬ (whole.pose.walker.follow .move).On plateau := by rwa [h.pose]
      rw [step_of_not_on he hoff, step_of_not_on hending hoff']
      exact continues_atEdge h

theorem continues_drive (h : Continues base j whole) (commands : List Command) :
    Continues base (drive policy plateau rover j commands)
      (drive policy plateau rover whole commands) := by
  induction commands generalizing j whole with
  | nil => exact h
  | cons k commands ih => exact ih (continues_step h k)

/-- A journey that is not over after some commands was not over in front of them. -/
theorem ending_of_drive {commands : List Command}
    (h : (drive policy plateau rover j commands).ending = none) : j.ending = none := by
  cases he : j.ending with
  | none => rfl
  | some e =>
    rw [drive_of_ending he, he] at h
    cases h

/-- Until it is over, a journey reads every command. -/
theorem read_drive {commands : List Command}
    (h : (drive policy plateau rover j commands).ending = none) :
    (drive policy plateau rover j commands).read = j.read + commands.length := by
  induction commands generalizing j with
  | nil => rfl
  | cons k commands ih =>
    have hread := ih (j := step policy plateau rover j k) h
    have hstep : (step policy plateau rover j k).read = j.read + 1 := by
      rcases step_cases policy plateau rover j k with ⟨he, -⟩ | ⟨-, -, hs⟩ | ⟨-, -, -, hs⟩
      · exact absurd (ending_of_drive h) he
      · rw [hs]
        rfl
      · rw [hs]
        cases policy <;> rfl
    rw [drive_cons, hread, hstep, List.length_cons]
    omega

theorem halted_of_continues (h : Continues base j whole) :
    (whole.outcome rover).halted = (j.outcome rover).halted := by
  show (whole.ending == some .halted) = (j.ending == some .halted)
  rw [h.ending]
  cases j.ending with
  | none => rfl
  | some e => cases e <;> rfl

theorem result_of_continues (h : Continues base j whole) (hj : j.FailsAtPose rover) :
    (∃ pose, (j.outcome rover).result = .ok pose ∧ (whole.outcome rover).result = .ok pose) ∨
      ∃ i pose, (j.outcome rover).result = .error (.outOfBounds rover i pose) ∧
        (whole.outcome rover).result = .error (.outOfBounds rover (base.read + i) pose) := by
  have hending := h.ending
  simp only [outcome, hending, h.pose]
  cases he : j.ending with
  | none => exact Or.inl ⟨j.pose, rfl, rfl⟩
  | some e =>
    cases e with
    | halted => exact Or.inl ⟨j.pose, rfl, rfl⟩
    | failed fault =>
      obtain ⟨i, rfl⟩ := hj fault he
      exact Or.inr ⟨i, j.pose, rfl, rfl⟩

end Journey

/-! ## Outcomes that add up -/

/-- The outcome of a plan with `read` commands, of a plan that goes on where it ended,
and of both in one go. -/
structure Outcome.AddsUp (policy : BoundaryPolicy) (read : Nat) (first second whole : Outcome) :
    Prop where
  rover : second.rover = first.rover
  rover_whole : whole.rover = first.rover
  skipped : whole.skipped = first.skipped + second.skipped
  wrapped : whole.wrapped = first.wrapped + second.wrapped
  halted : whole.halted = second.halted
  result : (∃ pose, second.result = .ok pose ∧ whole.result = .ok pose) ∨
    ∃ i pose, policy = .strict ∧ second.result = .error (.outOfBounds first.rover i pose) ∧
      whole.result = .error (.outOfBounds first.rover (read + i) pose)

namespace Plan

variable {policy : BoundaryPolicy} {plateau : Plateau} {rover : Nat} {plan : Plan}

def extended (plan : Plan) (commands : List Command) : Plan :=
  { plan with commands := plan.commands ++ commands }

theorem ending_eq_none {pose : Pose} (hr : (plan.outcome policy plateau rover).result = .ok pose)
    (hh : (plan.outcome policy plateau rover).halted = false) :
    (Journey.drive policy plateau rover (.start plan.start) plan.commands).ending = none := by
  rw [outcome_eq] at hr hh
  cases he : (Journey.drive policy plateau rover (.start plan.start) plan.commands).ending with
  | none => rfl
  | some e =>
    cases e with
    | halted =>
      rw [Journey.outcome, he] at hh
      cases hh
    | failed fault =>
      rw [Journey.outcome, he] at hr
      cases hr

theorem addsUp_outcome {pose : Pose} (hr : (plan.outcome policy plateau rover).result = .ok pose)
    (hh : (plan.outcome policy plateau rover).halted = false) (commands : List Command) :
    Outcome.AddsUp policy plan.commands.length (plan.outcome policy plateau rover)
      (Plan.outcome { start := pose, commands } policy plateau rover)
      ((plan.extended commands).outcome policy plateau rover) := by
  have hending := ending_eq_none hr hh
  have hread := Journey.read_drive hending
  have hpose := Journey.pose_of_result hr
  have hmark := policy_of_mark { start := pose, commands } policy plateau rover
  have hfails := Journey.failsAtPose_drive policy plateau rover pose commands
  have hstart := Journey.continues_start hending
  rw [hpose] at hstart
  -- The journey that goes on, and the one in one go from where the first one ended.
  generalize hbase : Journey.drive policy plateau rover (.start plan.start) plan.commands = base
    at hread hstart
  have hdrive : base.Continues (Journey.drive policy plateau rover (.start pose) commands)
      (Journey.drive policy plateau rover base commands) :=
    Journey.continues_drive hstart commands
  have hwhole : (plan.extended commands).outcome policy plateau rover =
      (Journey.drive policy plateau rover base commands).outcome rover := by
    rw [outcome_eq]
    show (Journey.drive policy plateau rover (.start plan.start)
      (plan.commands ++ commands)).outcome rover = _
    rw [Journey.drive_append, hbase]
  rw [hwhole, outcome_eq plan, hbase]
  have hlength : base.read = plan.commands.length := by
    rw [hread]
    exact Nat.zero_add _
  refine ⟨rfl, rfl, hdrive.skipped, hdrive.wrapped, Journey.halted_of_continues hdrive, ?_⟩
  rcases Journey.result_of_continues hdrive hfails with hok | ⟨i, edge, hsecond, hall⟩
  · exact Or.inl hok
  · rw [hlength] at hall
    exact Or.inr ⟨i, edge, hmark.2.2.2 _ hsecond, hsecond, hall⟩

/-- A rover that has failed or halted ignores all further commands. -/
theorem outcome_extended_of_ending
    (h : (Journey.drive policy plateau rover (.start plan.start) plan.commands).ending ≠ none)
    (commands : List Command) :
    (plan.extended commands).outcome policy plateau rover =
      plan.outcome policy plateau rover := by
  obtain ⟨e, he⟩ := Option.ne_none_iff_exists'.1 h
  rw [outcome_eq, outcome_eq]
  show (Journey.drive policy plateau rover (.start plan.start)
    (plan.commands ++ commands)).outcome rover = _
  rw [Journey.drive_append, Journey.drive_of_ending he]

theorem outcome_extended_of_fault {fault : Fault}
    (h : (plan.outcome policy plateau rover).result = .error fault) (commands : List Command) :
    (plan.extended commands).outcome policy plateau rover =
      plan.outcome policy plateau rover := by
  refine outcome_extended_of_ending ?_ commands
  rw [outcome_eq] at h
  rw [Journey.ending_of_result h]
  exact Option.some_ne_none _

theorem outcome_extended_of_halted (h : (plan.outcome policy plateau rover).halted = true)
    (commands : List Command) :
    (plan.extended commands).outcome policy plateau rover =
      plan.outcome policy plateau rover := by
  refine outcome_extended_of_ending ?_ commands
  rw [outcome_eq] at h
  rw [Journey.ending_of_halted h]
  exact Option.some_ne_none _

/-- A policy that never fails comes to the end of the second part in one go. -/
theorem result_extended_of_ne_strict {pose : Pose} (h : policy ≠ .strict)
    (hr : (plan.outcome policy plateau rover).result = .ok pose)
    (hh : (plan.outcome policy plateau rover).halted = false) (commands : List Command) :
    ∃ final, (Plan.outcome { start := pose, commands } policy plateau rover).result = .ok final ∧
      ((plan.extended commands).outcome policy plateau rover).result = .ok final := by
  rcases (addsUp_outcome hr hh commands).result with hok | ⟨i, edge, hstrict, -, -⟩
  · exact hok
  · exact absurd hstrict h

/-- Driving is compositional in the commands.  Ignored and wrapped edges leave nothing
behind but the pose and their counts, which add up.  A fault of the first part is the
fault of the whole; otherwise the whole comes to what the second part comes to, the
number of a fault being counted on.  A halt of the first part is the end of the whole;
otherwise the whole ends and halts as the second part does. -/
theorem outcome_extended (plateau : Plateau) (rover : Nat) (plan : Plan)
    (commands : List Command) :
    (∀ policy, policy = .ignore ∨ policy = .wrap → ∃ pose final,
      (plan.outcome policy plateau rover).result = .ok pose ∧
      (Plan.outcome { start := pose, commands } policy plateau rover).result = .ok final ∧
      ((plan.extended commands).outcome policy plateau rover).result = .ok final ∧
      ((plan.extended commands).outcome policy plateau rover).skipped =
        (plan.outcome policy plateau rover).skipped +
          (Plan.outcome { start := pose, commands } policy plateau rover).skipped ∧
      ((plan.extended commands).outcome policy plateau rover).wrapped =
        (plan.outcome policy plateau rover).wrapped +
          (Plan.outcome { start := pose, commands } policy plateau rover).wrapped) ∧
    (∀ fault, (plan.outcome .strict plateau rover).result = .error fault →
      ((plan.extended commands).outcome .strict plateau rover).result = .error fault) ∧
    (∀ pose, (plan.outcome .strict plateau rover).result = .ok pose →
      (∃ final,
        (Plan.outcome { start := pose, commands } .strict plateau rover).result = .ok final ∧
        ((plan.extended commands).outcome .strict plateau rover).result = .ok final) ∨
      ∃ i edge,
        (Plan.outcome { start := pose, commands } .strict plateau rover).result =
          .error (.outOfBounds rover i edge) ∧
        ((plan.extended commands).outcome .strict plateau rover).result =
          .error (.outOfBounds rover (plan.commands.length + i) edge)) ∧
    ((plan.outcome .stop plateau rover).halted = true →
      (plan.extended commands).outcome .stop plateau rover = plan.outcome .stop plateau rover) ∧
    ((plan.outcome .stop plateau rover).halted = false → ∃ pose final,
      (plan.outcome .stop plateau rover).result = .ok pose ∧
      (Plan.outcome { start := pose, commands } .stop plateau rover).result = .ok final ∧
      ((plan.extended commands).outcome .stop plateau rover).result = .ok final ∧
      ((plan.extended commands).outcome .stop plateau rover).halted =
        (Plan.outcome { start := pose, commands } .stop plateau rover).halted) := by
  refine ⟨fun policy hpolicy => ?_, fun fault hr => ?_, fun pose hr => ?_, fun hh => ?_,
    fun hh => ?_⟩
  · have hs : policy ≠ .strict := by rcases hpolicy with rfl | rfl <;> decide
    have ht : policy ≠ .stop := by rcases hpolicy with rfl | rfl <;> decide
    obtain ⟨pose, hr⟩ := result_ok plan policy plateau rover hs
    have hh := halted_eq_false plan policy plateau rover ht
    obtain ⟨final, hsecond, hwhole⟩ := result_extended_of_ne_strict hs hr hh commands
    have hadds := addsUp_outcome hr hh commands
    exact ⟨pose, final, hr, hsecond, hwhole, hadds.skipped, hadds.wrapped⟩
  · rw [outcome_extended_of_fault hr]
    exact hr
  · have hh := halted_eq_false plan .strict plateau rover (by decide)
    rcases (addsUp_outcome hr hh commands).result with hok | ⟨i, edge, -, hsecond, hwhole⟩
    · exact Or.inl hok
    · exact Or.inr ⟨i, edge, hsecond, hwhole⟩
  · exact outcome_extended_of_halted hh commands
  · obtain ⟨pose, hr⟩ := result_ok plan .stop plateau rover (by decide)
    obtain ⟨final, hsecond, hwhole⟩ := result_extended_of_ne_strict (by decide) hr hh commands
    exact ⟨pose, final, hr, hsecond, hwhole, (addsUp_outcome hr hh commands).halted⟩

/-- A rover that comes to the edge with its first commands and over it with the next. -/
theorem outcome_extended_edge :
    let plateau : Plateau := { maxX := 0, maxY := 1 }
    let plan : Plan :=
      { start := { position := { x := 0, y := 0 }, heading := .north }, commands := [.move] }
    let edge : Pose := { position := { x := 0, y := 1 }, heading := .north }
    let commands : List Command := [.left, .right, .move, .left]
    (plan.outcome .strict plateau 2).result = .ok edge ∧
      (Plan.outcome { start := edge, commands } .strict plateau 2).result =
        .error (.outOfBounds 2 3 edge) ∧
      ((plan.extended commands).outcome .strict plateau 2).result =
        .error (.outOfBounds 2 4 edge) ∧
      ((plan.extended commands).outcome .stop plateau 2).halted = true ∧
      (((plan.extended commands).extended commands).outcome .strict plateau 2).result =
        .error (.outOfBounds 2 4 edge) ∧
      ((plan.extended commands).extended commands).outcome .stop plateau 2 =
        (plan.extended commands).outcome .stop plateau 2 := by
  intro plateau plan edge commands
  have hfirst : (plan.outcome .strict plateau 2).result = .ok edge := by decide +kernel
  have hsecond : (Plan.outcome { start := edge, commands } .strict plateau 2).result =
      .error (.outOfBounds 2 3 edge) := by
    decide +kernel
  have hhalted : ((plan.extended commands).outcome .stop plateau 2).halted = true := by
    decide
  have hwhole : ((plan.extended commands).outcome .strict plateau 2).result =
      .error (.outOfBounds 2 4 edge) := by
    rcases (outcome_extended plateau 2 plan commands).2.2.1 edge hfirst with
      ⟨final, hok, -⟩ | ⟨i, pose, herror, hwhole⟩
    · rw [hsecond] at hok
      cases hok
    · rw [hsecond] at herror
      cases herror
      exact hwhole
  obtain ⟨-, hfault, -, hhalt, -⟩ := outcome_extended plateau 2 (plan.extended commands) commands
  exact ⟨hfirst, hsecond, hwhole, hhalted, hfault _ hwhole, hhalt hhalted⟩

end Plan
end RoverMission

/-
Trips that are undone.

A rover that turns around, follows its commands from the last to the first with left
and right exchanged, and turns around again is back where it was, looking the same way.
Each exchanged command takes a rover that looks back to where the command came from
(`Walker.follow_exchanged`), so a trip and its return pass the same points, and neither
range nor plateau can stop the one and not the other.  Around the torus the way back
crosses an edge wherever the way there did (`Walker.wrapped_follow_around`).
-/
import RoverMission.Proofs.Continuing
import RoverMission.Proofs.Roaming

namespace RoverMission

namespace Command

/-- The commands that lead back, for a rover that looks back. -/
def retraced (commands : List Command) : List Command := (commands.map exchanged).reverse

theorem retraced_cons (k : Command) (commands : List Command) :
    retraced (k :: commands) = retraced commands ++ [k.exchanged] := by
  rw [retraced, List.map_cons, List.reverse_cons, retraced]

def turnAround : List Command := [.right, .right]

/-- The commands that undo others. -/
def back (commands : List Command) : List Command :=
  turnAround ++ retraced commands ++ turnAround

end Command

/-! ## Looking back -/

@[simp] theorem Heading.opposite_opposite (h : Heading) : h.opposite.opposite = h := by
  cases h <;> rfl

def Walker.around (w : Walker) : Walker := { w with heading := w.heading.opposite }

@[simp] theorem Walker.around_around (w : Walker) : w.around.around = w := by
  simp [around]

def Pose.around (p : Pose) : Pose := { p with heading := p.heading.opposite }

@[simp] theorem Pose.around_around (p : Pose) : p.around.around = p := by
  simp [around]

theorem Pose.turnRight_turnRight (p : Pose) : p.turnRight.turnRight = p.around := by
  obtain ⟨position, heading⟩ := p
  cases heading <;> rfl

namespace Walker

variable {plateau : Plateau} {w : Walker}

/-- An exchanged command takes a walker that looks back to where the command came from. -/
theorem follow_exchanged (w : Walker) (k : Command) :
    (w.follow k).around.follow k.exchanged = w.around := by
  obtain ⟨x, y, heading⟩ := w
  cases k with
  | left => cases heading <;> rfl
  | right => cases heading <;> rfl
  | move =>
    simp only [follow, around, Command.exchanged, Heading.step_opposite, mk.injEq, and_true]
    omega

theorem wrapped_of_on (h : w.On plateau) : plateau.wrapped w = w := by
  obtain ⟨⟨hx, hx'⟩, hy, hy'⟩ := h
  rw [Plateau.wrapped, Int.emod_eq_of_lt hx hx', Int.emod_eq_of_lt hy hy']

/-- A move around the torus is undone by a move that looks back. -/
theorem wrapped_follow_around (h : w.On plateau) :
    plateau.wrapped ((plateau.wrapped (w.follow .move)).around.follow .move) = w.around := by
  have hback := follow_exchanged w .move
  have hon : w.around.On plateau := h
  have hw : plateau.wrapped ((w.follow .move).around.follow .move) = w.around :=
    (congrArg plateau.wrapped hback).trans (wrapped_of_on hon)
  rw [← hw]
  simp only [Plateau.wrapped, around, follow, Int.emod_add_emod]

/-- Where a move crosses an edge, the move back does too. -/
theorem not_on_follow_around (hs : plateau.Sound) (h : w.On plateau)
    (hoff : ¬ (w.follow .move).On plateau) :
    ¬ ((plateau.wrapped (w.follow .move)).around.follow .move).On plateau := by
  intro hon
  have hback := wrapped_follow_around h
  rw [wrapped_of_on hon] at hback
  -- Without an edge on the way back the move itself would lead to where it wraps to.
  have hforth := follow_exchanged (plateau.wrapped (w.follow .move)).around .move
  rw [hback, around_around, around_around] at hforth
  have hon' := Plateau.wrapped_on hs (w.follow .move)
  rw [← hforth] at hon'
  exact hoff hon'

end Walker

/-! ## Rovers without a plateau -/

namespace Rover

variable {r r' : Rover} {commands : List Command} {i : Nat}

def around (r : Rover) : Rover := { r with pose := r.pose.around }

@[simp] theorem around_around (r : Rover) : r.around.around = r := by
  simp [around]

/-- A command that is carried out has the effect it has on a walker. -/
theorem of_execute {k : Command} (h : r.execute k i = .ok r') :
    r'.id = r.id ∧ r'.pose.walker = r.pose.walker.follow k := by
  by_cases hk : (r.pose.walker.follow k).InRange
  · rw [execute_of_inRange hk] at h
    cases h
    exact ⟨rfl, Walker.walker_pose_of_inRange hk⟩
  · rw [execute_of_not_inRange hk] at h
    cases h

/-- A command that is carried out can be taken back: it came from a pose. -/
theorem execute_exchanged {k : Command} (h : r.execute k i = .ok r') (i' : Nat) :
    r'.around.execute k.exchanged i' = .ok r.around := by
  obtain ⟨hid, hw⟩ := of_execute h
  have hback : r'.around.pose.walker.follow k.exchanged = r.around.pose.walker := by
    show r'.pose.walker.around.follow k.exchanged = r.pose.walker.around
    rw [hw, Walker.follow_exchanged]
  have hrange := Walker.inRange_walker r.around.pose
  rw [← hback] at hrange
  rw [execute_of_inRange hrange, hback, Pose.pose_walker]
  simp only [around, hid]

theorem executeFrom_retraced (h : r.executeFrom i commands = (r', none)) (i' : Nat) :
    r'.around.executeFrom i' (Command.retraced commands) = (r.around, none) := by
  induction commands generalizing r i with
  | nil =>
    cases h
    rfl
  | cons k commands ih =>
    rw [executeFrom] at h
    cases hk : r.execute k i with
    | error fault =>
      rw [hk] at h
      cases h
    | ok next =>
      rw [hk] at h
      rw [Command.retraced_cons, executeFrom_append, ih h]
      show executeFrom next.around _ [k.exchanged] = _
      rw [executeFrom, execute_exchanged hk]
      rfl

theorem executeFrom_turnAround (r : Rover) (i : Nat) :
    r.executeFrom i Command.turnAround = (r.around, none) := by
  show (r.turnRight.turnRight, none) = (r.around, none)
  simp only [turnRight, around, Pose.turnRight_turnRight]

theorem executeAll_back (h : r.executeAll commands = (r', none)) :
    r'.executeAll (Command.back commands) = (r, none) := by
  have hback : ∀ i, r'.executeFrom i (Command.turnAround ++ Command.retraced commands) =
      (r.around, none) := fun i => by
    rw [executeFrom_append, executeFrom_turnAround]
    exact executeFrom_retraced h _
  rw [executeAll, Command.back, executeFrom_append, hback]
  show executeFrom r.around _ Command.turnAround = _
  rw [executeFrom_turnAround, around_around]

end Rover

/-! ## Rovers on a plateau -/

namespace Journey

variable {policy : BoundaryPolicy} {plateau : Plateau} {rover : Nat}
variable {j j' b b' : Journey} {k : Command}

/-- A journey from `b` to `b'` takes back one from `j` to `j'`: nothing stops it, it
ends where the other began, looking back, and wraps as often. -/
structure TakesBack (j j' b b' : Journey) : Prop where
  ending : b'.ending = none
  pose : b'.pose = j.pose.around
  skipped : b'.skipped = b.skipped
  wrapped : b'.wrapped + j.wrapped = b.wrapped + j'.wrapped

/-- A command that is neither refused nor skipped is taken back by the exchanged one. -/
theorem takesBack_step (hj : j.ending = none) (hon : j.pose.walker.On plateau)
    (hgo : (step policy plateau rover j k).ending = none)
    (hall : (step policy plateau rover j k).skipped = j.skipped) (hb : b.ending = none)
    (hpose : b.pose = (step policy plateau rover j k).pose.around) (rover' : Nat) :
    TakesBack j (step policy plateau rover j k) b
      (step policy plateau rover' b k.exchanged) := by
  have hs := Plateau.sound_of_contains (Plateau.contains_iff.2 hon)
  rcases step_cases policy plateau rover j k with ⟨hover, -⟩ | ⟨-, hk, he⟩ | ⟨-, rfl, hoff, he⟩
  · exact absurd hj hover
  · rw [he] at hpose ⊢
    have hw : b.pose.walker.follow k.exchanged = j.pose.around.walker := by
      rw [hpose]
      show (j.pose.walker.follow k).pose.walker.around.follow k.exchanged = _
      rw [walker_pose_follow hk, Walker.follow_exchanged]
      rfl
    have hon' : (b.pose.walker.follow k.exchanged).On plateau := by
      rw [hw]
      exact hon
    rw [step_of_on hb fun _ => hon', hw, Pose.pose_walker]
    exact ⟨hb, rfl, rfl, rfl⟩
  · rw [he] at hgo hall hpose ⊢
    cases policy with
    | strict => cases hgo
    | ignore => exact absurd hall (Nat.succ_ne_self _)
    | stop => cases hgo
    | wrap =>
      have hw : b.pose.walker = (plateau.wrapped (j.pose.walker.follow .move)).around := by
        have hedge : (j.atEdge .wrap plateau rover).pose.walker =
            plateau.wrapped (j.pose.walker.follow .move) := walker_atEdge_wrap hs j
        rw [hpose, ← hedge]
        rfl
      have hoff' : ¬ (b.pose.walker.follow .move).On plateau := by
        rw [hw]
        exact Walker.not_on_follow_around hs hon hoff
      rw [Command.exchanged, step_of_not_on hb hoff']
      refine ⟨hb, ?_, rfl, ?_⟩
      · rw [← Pose.pose_walker (b.atEdge .wrap plateau rover').pose, walker_atEdge_wrap hs, hw,
          Walker.wrapped_follow_around hon]
        exact Pose.pose_walker j.pose.around
      · show b.wrapped + 1 + j.wrapped = b.wrapped + (j.wrapped + 1)
        omega

/-- Commands none of which is refused or skipped are taken back by the retraced ones. -/
theorem takesBack_drive {commands : List Command} (hon : j.pose.walker.On plateau)
    (hgo : (drive policy plateau rover j commands).ending = none)
    (hall : (drive policy plateau rover j commands).skipped = j.skipped) (hb : b.ending = none)
    (hpose : b.pose = (drive policy plateau rover j commands).pose.around) (rover' : Nat) :
    TakesBack j (drive policy plateau rover j commands) b
      (drive policy plateau rover' b (Command.retraced commands)) := by
  induction commands generalizing j with
  | nil => exact ⟨hb, hpose, rfl, rfl⟩
  | cons k commands ih =>
    have hj := ending_of_drive hgo
    rw [drive_cons] at hgo hall hpose ⊢
    have hnext := ending_of_drive hgo
    have hstep : (step policy plateau rover j k).skipped = j.skipped := by
      have hle : j.skipped ≤ (step policy plateau rover j k).skipped := (counters_le_step j k).1
      have hle' : (step policy plateau rover j k).skipped ≤
          (drive policy plateau rover (step policy plateau rover j k) commands).skipped :=
        (counters_le_drive _ commands).1
      omega
    have hrest : TakesBack (step policy plateau rover j k) _ b
        (drive policy plateau rover' b (Command.retraced commands)) :=
      ih (Plateau.contains_iff.1 (contains_step (Plateau.contains_iff.2 hon) k)) hgo
        (hall.trans hstep.symm) hpose
    have hfirst := takesBack_step hj hon hnext hstep hrest.ending hrest.pose rover'
    rw [Command.retraced_cons, drive_concat]
    refine ⟨hfirst.ending, hfirst.pose, hfirst.skipped.trans hrest.skipped, ?_⟩
    have hw := hfirst.wrapped
    have hw' := hrest.wrapped
    omega

theorem drive_turnAround (h : j.ending = none) :
    drive policy plateau rover j Command.turnAround =
      { j with pose := j.pose.around, read := j.read + 2 } := by
  rw [← Pose.turnRight_turnRight]
  simp only [drive, Command.turnAround, List.foldl_cons, List.foldl_nil, step, goTo, h]

end Journey

namespace Plan

variable {policy : BoundaryPolicy} {plateau : Plateau} {rover : Nat} {plan : Plan}

/-- The plan of a rover that is to go back from where another plan has led it. -/
def returning (plan : Plan) (pose : Pose) : Plan where
  start := pose
  commands := Command.back plan.commands

/-- A plan of which nothing was refused, skipped or dropped is undone from where it led,
with a wrapped move for each wrapped move. -/
theorem outcome_returning {pose : Pose} (h : plateau.Contains plan.start.position)
    (hr : (plan.outcome policy plateau rover).result = .ok pose)
    (hskipped : (plan.outcome policy plateau rover).skipped = 0)
    (hhalted : (plan.outcome policy plateau rover).halted = false) (rover' : Nat) :
    (plan.returning pose).outcome policy plateau rover' =
      { Outcome.unhindered rover' plan.start with
        wrapped := (plan.outcome policy plateau rover).wrapped } := by
  have hpose := Journey.pose_of_result hr
  have hback := Journey.takesBack_drive (j := .start plan.start)
    (b := { pose := pose.around, read := 2 }) (Plateau.contains_iff.1 h)
    (ending_eq_none hr hhalted) hskipped rfl (congrArg Pose.around hpose.symm) rover'
  have hturned : Journey.drive policy plateau rover' (.start pose) Command.turnAround =
      { pose := pose.around, read := 2 } := Journey.drive_turnAround rfl
  rw [outcome_eq, returning, Command.back, Journey.drive_append, Journey.drive_append, hturned,
    Journey.drive_turnAround hback.ending]
  generalize Journey.drive policy plateau rover' _ (Command.retraced plan.commands) = b at hback
  have hwrapped : b.wrapped = (plan.outcome policy plateau rover).wrapped :=
    hback.wrapped.trans (Nat.zero_add _)
  simp only [Journey.outcome, hback.ending, hback.pose, hback.skipped, hwrapped,
    Pose.around_around]
  rfl

/-- Under the strict policy a plan that succeeds is undone without a mark. -/
theorem outcome_returning_strict {pose : Pose} (h : plateau.Contains plan.start.position)
    (hr : (plan.outcome .strict plateau rover).result = .ok pose) (rover' : Nat) :
    (plan.returning pose).outcome .strict plateau rover' =
      .unhindered rover' plan.start := by
  have hskipped := skipped_eq_zero plan .strict plateau rover (by decide)
  have hhalted := halted_eq_false plan .strict plateau rover (by decide)
  rw [outcome_returning h hr hskipped hhalted,
    wrapped_eq_zero plan .strict plateau rover (by decide)]
  rfl

theorem outcome_returning_wrap {pose : Pose} (h : plateau.Contains plan.start.position)
    (hr : (plan.outcome .wrap plateau rover).result = .ok pose) (rover' : Nat) :
    (plan.returning pose).outcome .wrap plateau rover' =
      { Outcome.unhindered rover' plan.start with
        wrapped := (plan.outcome .wrap plateau rover).wrapped } := by
  have hskipped := skipped_eq_zero plan .wrap plateau rover (by decide)
  have hhalted := halted_eq_false plan .wrap plateau rover (by decide)
  exact outcome_returning h hr hskipped hhalted rover'

end Plan

/-- Every trip that succeeds can be undone.  A rover without a plateau that carried out
its commands carries out the commands back and is as it was.  On a plateau a plan that
succeeds under the strict policy is undone under it, and every plan is undone under the
wrapping policy, with as many wrapped moves on the way back as on the way there. -/
theorem trips_undone :
    (∀ (r r' : Rover) (commands : List Command), r.executeAll commands = (r', none) →
      r'.executeAll (Command.back commands) = (r, none)) ∧
    ∀ (plateau : Plateau) (rover : Nat) (plan : Plan), plateau.Contains plan.start.position →
      (∀ pose, (plan.outcome .strict plateau rover).result = .ok pose →
        ((plan.returning pose).outcome .strict plateau rover).result = .ok plan.start) ∧
      ∃ pose, (plan.outcome .wrap plateau rover).result = .ok pose ∧
        ((plan.returning pose).outcome .wrap plateau rover).result = .ok plan.start ∧
        ((plan.returning pose).outcome .wrap plateau rover).wrapped =
          (plan.outcome .wrap plateau rover).wrapped := by
  refine ⟨fun r r' commands => Rover.executeAll_back, fun plateau rover plan h => ⟨?_, ?_⟩⟩
  · intro pose hr
    rw [Plan.outcome_returning_strict h hr]
    rfl
  · obtain ⟨pose, hr⟩ := Plan.result_ok plan .wrap plateau rover (by decide)
    have hback := Plan.outcome_returning_wrap h hr rover
    refine ⟨pose, hr, ?_, ?_⟩
    · rw [hback]
      rfl
    · rw [hback]

/-- To the end of the range and back, down a plateau of one column, and around it. -/
theorem trips_undone_narrow :
    let plateau : Plateau := { maxX := 0, maxY := 2147483647 }
    let r : Rover :=
      { id := 5, pose := { position := { x := 2147483646, y := 0 }, heading := .north } }
    let plan : Plan :=
      { start := { position := { x := 0, y := 2147483647 }, heading := .west }
        commands := [.move, .right, .move, .move] }
    let final : Pose := { position := { x := 0, y := 1 }, heading := .north }
    let straight : Plan := { plan with commands := [.left, .move] }
    let lower : Pose := { position := { x := 0, y := 2147483646 }, heading := .south }
    r.executeAll [.right, .move] =
        ({ r with pose := { position := { x := 2147483647, y := 0 }, heading := .east } }, none) ∧
      ({ r with pose := { position := { x := 2147483647, y := 0 }, heading := .east } } :
        Rover).executeAll (Command.back [.right, .move]) = (r, none) ∧
      plateau.Contains plan.start.position ∧
      (straight.outcome .strict plateau 5).result = .ok lower ∧
      ((straight.returning lower).outcome .strict plateau 5).result = .ok plan.start ∧
      (plan.outcome .wrap plateau 5).result = .ok final ∧
      (plan.outcome .wrap plateau 5).wrapped = 2 ∧
      ((plan.returning final).outcome .wrap plateau 5).result = .ok plan.start ∧
      ((plan.returning final).outcome .wrap plateau 5).wrapped = 2 := by
  intro plateau r plan final straight lower
  have hthere : r.executeAll [.right, .move] =
      ({ r with pose := { position := { x := 2147483647, y := 0 }, heading := .east } }, none) := by
    decide +kernel
  have hstart : plateau.Contains plan.start.position := by decide
  have hlower : (straight.outcome .strict plateau 5).result = .ok lower := by decide +kernel
  have hfinal : (plan.outcome .wrap plateau 5).result = .ok final := by decide +kernel
  have hcount : (plan.outcome .wrap plateau 5).wrapped = 2 := by decide +kernel
  obtain ⟨pose, hr, hback, hwrapped⟩ := (trips_undone.2 plateau 5 plan hstart).2
  rw [hfinal] at hr
  cases hr
  exact ⟨hthere, trips_undone.1 _ _ _ hthere, hstart, hlower,
    (trips_undone.2 plateau 5 straight hstart).1 lower hlower, hfinal, hcount, hback,
    hwrapped.trans hcount⟩

end RoverMission

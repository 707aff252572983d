/-
The ignoring policy as a clamped walk.

A clamped walk takes every move back to the nearest cell of the plateau, each
coordinate for itself.  A move that leads off the plateau is taken back to where it
was made, so a rover on the plateau that ignores such moves walks a clamped walk, and
skips the moves at which that stands still (`drive_ignore`).  What happens along one
axis has no part in what happens along the other (`clampedWalk_axis`).
-/
import RoverMission.Proofs.Policies

namespace RoverMission

/-- The nearest walker on the plateau, coordinate by coordinate. -/
def Plateau.clamped (plateau : Plateau) (w : Walker) : Walker :=
  { w with
    x := min (max w.x 0) plateau.maxX.toInt
    y := min (max w.y 0) plateau.maxY.toInt }

namespace Walker

variable {plateau plateau' : Plateau} {w w' : Walker}

/-- The walker after one command, a move being clamped. -/
def clampedFollow (plateau : Plateau) (w : Walker) : Command → Walker
  | .move => plateau.clamped (w.follow .move)
  | turn => w.follow turn

def clampedWalk (plateau : Plateau) (w : Walker) (commands : List Command) : Walker :=
  commands.foldl (clampedFollow plateau) w

theorem clampedWalk_cons (w : Walker) (k : Command) (commands : List Command) :
    w.clampedWalk plateau (k :: commands) =
      (w.clampedFollow plateau k).clampedWalk plateau commands := rfl

/-- The command is a move, and clamped it leads nowhere. -/
def Stalls (plateau : Plateau) (w : Walker) (k : Command) : Prop :=
  k = .move ∧ w.clampedFollow plateau k = w

instance (plateau : Plateau) (w : Walker) (k : Command) : Decidable (w.Stalls plateau k) :=
  inferInstanceAs (Decidable (_ ∧ _))

/-- How many commands of a clamped walk stall. -/
def stallCount (plateau : Plateau) : Walker → List Command → Nat
  | _, [] => 0
  | w, k :: commands =>
    (if w.Stalls plateau k then 1 else 0) + stallCount plateau (w.clampedFollow plateau k) commands

/-! ## Clamping a move -/

theorem clamped_of_on (h : w.On plateau) : plateau.clamped w = w := by
  obtain ⟨x, y, heading⟩ := w
  obtain ⟨⟨hx, hx'⟩, hy, hy'⟩ := h
  simp only [Plateau.width, Plateau.height] at hx hx' hy hy'
  have ex : min (max x 0) plateau.maxX.toInt = x := by omega
  have ey : min (max y 0) plateau.maxY.toInt = y := by omega
  simp only [Plateau.clamped, ex, ey]

/-- A move off the plateau is taken back to the cell it was made from. -/
theorem clamped_follow_of_not_on (h : w.On plateau) (hoff : ¬ (w.follow .move).On plateau) :
    plateau.clamped (w.follow .move) = w := by
  obtain ⟨x, y, heading⟩ := w
  simp only [On, follow, Plateau.width, Plateau.height] at h hoff
  -- One coordinate steps over its bound; the other one does not move.
  have ex : min (max (x + heading.step.1) 0) plateau.maxX.toInt = x := by
    cases heading <;> simp only [Heading.step] at hoff ⊢ <;> omega
  have ey : min (max (y + heading.step.2) 0) plateau.maxY.toInt = y := by
    cases heading <;> simp only [Heading.step] at hoff ⊢ <;> omega
  simp only [Plateau.clamped, follow, ex, ey]

theorem follow_move_ne (w : Walker) : w.follow .move ≠ w := by
  obtain ⟨x, y, heading⟩ := w
  intro he
  simp only [follow, Walker.mk.injEq] at he
  cases heading <;> simp only [Heading.step] at he <;> omega

theorem clampedFollow_of_on {k : Command} (hk : k = .move → (w.follow k).On plateau) :
    w.clampedFollow plateau k = w.follow k := by
  cases k with
  | left => rfl
  | right => rfl
  | move => exact clamped_of_on (hk rfl)

theorem not_stalls_of_on {k : Command} (hk : k = .move → (w.follow k).On plateau) :
    ¬ w.Stalls plateau k := by
  rintro ⟨rfl, he⟩
  rw [clampedFollow_of_on hk] at he
  exact follow_move_ne w he

/-! ## Headings and axes -/

theorem heading_clampedFollow (w : Walker) (k : Command) :
    (w.clampedFollow plateau k).heading = (w.follow k).heading := by
  cases k <;> rfl

theorem heading_clampedWalk (plateau : Plateau) (w : Walker) (commands : List Command) :
    (w.clampedWalk plateau commands).heading = (w.walk commands).heading := by
  induction commands generalizing w with
  | nil => rfl
  | cons k commands ih =>
    rw [clampedWalk_cons, walk_cons, ih, walk_eq, walk_eq (w.follow k)]
    simp only [heading_clampedFollow]

/-- Two clamped steps that look the same way agree along every axis along which they
start alike. -/
theorem clampedFollow_axis (plateau plateau' : Plateau) (hh : w.heading = w'.heading)
    (k : Command) :
    (plateau.maxX = plateau'.maxX → w.x = w'.x →
        (w.clampedFollow plateau k).x = (w'.clampedFollow plateau' k).x) ∧
      (plateau.maxY = plateau'.maxY → w.y = w'.y →
        (w.clampedFollow plateau k).y = (w'.clampedFollow plateau' k).y) := by
  cases k with
  | left => exact ⟨fun _ hx => hx, fun _ hy => hy⟩
  | right => exact ⟨fun _ hx => hx, fun _ hy => hy⟩
  | move =>
    refine ⟨fun hm hx => ?_, fun hm hy => ?_⟩
    · simp only [clampedFollow, Plateau.clamped, follow, hh, hm, hx]
    · simp only [clampedFollow, Plateau.clamped, follow, hh, hm, hy]

theorem clampedWalk_axis (plateau plateau' : Plateau) (hh : w.heading = w'.heading)
    (commands : List Command) :
    (plateau.maxX = plateau'.maxX → w.x = w'.x →
        (w.clampedWalk plateau commands).x = (w'.clampedWalk plateau' commands).x) ∧
      (plateau.maxY = plateau'.maxY → w.y = w'.y →
        (w.clampedWalk plateau commands).y = (w'.clampedWalk plateau' commands).y) := by
  induction commands generalizing w w' with
  | nil => exact ⟨fun _ hx => hx, fun _ hy => hy⟩
  | cons k commands ih =>
    have hk : (w.clampedFollow plateau k).heading = (w'.clampedFollow plateau' k).heading := by
      rw [heading_clampedFollow, heading_clampedFollow]
      cases k <;> simp only [follow, hh]
    obtain ⟨hx, hy⟩ := clampedFollow_axis plateau plateau' hh k
    obtain ⟨hxs, hys⟩ := ih hk
    exact ⟨fun hm h => hxs hm (hx hm h), fun hm h => hys hm (hy hm h)⟩

end Walker

namespace Journey

variable {plateau : Plateau} {rover : Nat} {j : Journey}

/-! ## Ignoring the edge -/

/-- A rover on the plateau that ignores the edge takes a clamped step, and skips it
if it stalls. -/
theorem step_ignore (rover : Nat) (h : j.ending = none) (hon : j.pose.walker.On plateau)
    (k : Command) :
    (step .ignore plateau rover j k).ending = none ∧
      (step .ignore plateau rover j k).pose.walker = j.pose.walker.clampedFollow plateau k ∧
      (step .ignore plateau rover j k).skipped =
        j.skipped + if j.pose.walker.Stalls plateau k then 1 else 0 := by
  rcases step_cases .ignore plateau rover j k with ⟨hover, -⟩ | ⟨-, hk, hs⟩ | ⟨-, rfl, hoff, hs⟩
  · exact absurd h hover
  · rw [hs, if_neg (Walker.not_stalls_of_on hk), Walker.clampedFollow_of_on hk]
    exact ⟨h, walker_pose_follow hk, rfl⟩
  · have hback : j.pose.walker.clampedFollow plateau .move = j.pose.walker :=
      Walker.clamped_follow_of_not_on hon hoff
    rw [hs, if_pos ⟨rfl, hback⟩, hback]
    exact ⟨h, rfl, rfl⟩

theorem drive_ignore (rover : Nat) (h : j.ending = none) (hon : j.pose.walker.On plateau)
    (commands : List Command) :
    (drive .ignore plateau rover j commands).ending = none ∧
      (drive .ignore plateau rover j commands).pose.walker =
        j.pose.walker.clampedWalk plateau commands ∧
      (drive .ignore plateau rover j commands).skipped =
        j.skipped + j.pose.walker.stallCount plateau commands := by
  induction commands generalizing j with
  | nil => exact ⟨h, rfl, rfl⟩
  | cons k commands ih =>
    obtain ⟨hending, hpose, hskipped⟩ := step_ignore rover h hon k
    have hnext : (step .ignore plateau rover j k).pose.walker.On plateau :=
      Plateau.contains_iff.1 (contains_step (Plateau.contains_iff.2 hon) k)
    obtain ⟨hover, hend, hcount⟩ := ih hending hnext
    rw [hpose] at hend hcount
    refine ⟨hover, hend, ?_⟩
    rw [drive_cons, hcount, hskipped, Walker.stallCount]
    omega

end Journey

namespace Plan

variable {plateau : Plateau} {plan : Plan} {rover : Nat}

/-- The outcome of a plan whose rover ignores the edge. -/
theorem outcome_ignore (plateau : Plateau) (rover : Nat) (plan : Plan)
    (h : plateau.Contains plan.start.position) :
    ∃ pose, (plan.outcome .ignore plateau rover).result = .ok pose ∧
      pose.walker = plan.start.walker.clampedWalk plateau plan.commands ∧
      (plan.outcome .ignore plateau rover).skipped =
        plan.start.walker.stallCount plateau plan.commands := by
  obtain ⟨hending, hpose, hskipped⟩ := Journey.drive_ignore (j := .start plan.start) rover rfl
    (Plateau.contains_iff.1 h) plan.commands
  rw [outcome_eq]
  refine ⟨_, Journey.result_outcome hending, hpose, ?_⟩
  exact hskipped.trans (Nat.zero_add _)

open Command in
/-- A rover that ignores the edge ends where the clamped walk ends, with its heading
turned by all quarter turns, and skips as many moves as the clamped walk stalls at.
Along each axis the end depends on nothing but the start and the bound of that axis,
besides the heading and the commands. -/
theorem outcome_ignore_eq_clamped_walk (plateau : Plateau) (rover : Nat) (plan : Plan)
    (h : plateau.Contains plan.start.position) :
    ∃ pose, (plan.outcome .ignore plateau rover).result = .ok pose ∧
      pose.heading = plan.start.heading.turned (quarterTurns plan.commands) ∧
      pose.walker = plan.start.walker.clampedWalk plateau plan.commands ∧
      (plan.outcome .ignore plateau rover).skipped =
        plan.start.walker.stallCount plateau plan.commands ∧
      ∀ (plateau' : Plateau) (start' : Pose), plateau'.Contains start'.position →
        start'.heading = plan.start.heading →
        ∃ pose', ({ plan with start := start' }.outcome .ignore plateau' rover).result =
            .ok pose' ∧
          (plateau'.maxX = plateau.maxX → start'.position.x = plan.start.position.x →
            pose'.position.x = pose.position.x) ∧
          (plateau'.maxY = plateau.maxY → start'.position.y = plan.start.position.y →
            pose'.position.y = pose.position.y) := by
  obtain ⟨pose, hr, hw, hskipped⟩ := outcome_ignore plateau rover plan h
  refine ⟨pose, hr, ?_, hw, hskipped, fun plateau' start' h' hh => ?_⟩
  · have hheading := Walker.heading_clampedWalk plateau plan.start.walker plan.commands
    rw [← hw, Walker.walk_eq] at hheading
    exact hheading
  · obtain ⟨pose', hr', hw', -⟩ := outcome_ignore plateau' rover { plan with start := start' } h'
    have hheading : start'.walker.heading = plan.start.walker.heading := hh
    obtain ⟨hx, hy⟩ := Walker.clampedWalk_axis plateau' plateau hheading plan.commands
    rw [← hw, ← hw'] at hx hy
    exact ⟨pose', hr', fun hm hs => Int32.toInt_inj.1 (hx hm (congrArg Int32.toInt hs)),
      fun hm hs => Int32.toInt_inj.1 (hy hm (congrArg Int32.toInt hs))⟩

/-- Along the far edge of the widest plateau and into its corner. -/
theorem outcome_ignore_eq_clamped_walk_far_corner :
    let plateau : Plateau := { maxX := 2147483647, maxY := 1 }
    let plan : Plan :=
      { start := { position := { x := 2147483647, y := 0 }, heading := .east }
        commands := [.move, .left, .move, .move] }
    let low : Pose := { position := { x := 0, y := 0 }, heading := .east }
    plateau.Contains plan.start.position ∧
      (Plateau.mk 0 1).Contains low.position ∧
      plan.start.walker.stallCount plateau plan.commands = 2 ∧
      (plan.outcome .ignore plateau 3).skipped = 2 ∧
      ∃ pose pose' : Pose, pose.walker = { x := 2147483647, y := 1, heading := .north } ∧
        (plan.outcome .ignore plateau 3).result = .ok pose ∧
        ({ plan with start := low }.outcome .ignore { maxX := 0, maxY := 1 } 3).result =
          .ok pose' ∧
        pose'.position.y = pose.position.y := by
  intro plateau plan low
  have hstart : plateau.Contains plan.start.position := by decide
  have hlow : (Plateau.mk 0 1).Contains low.position := by decide
  have hstalls : plan.start.walker.stallCount plateau plan.commands = 2 := by decide
  have hwalk : plan.start.walker.clampedWalk plateau plan.commands =
      { x := 2147483647, y := 1, heading := .north } := by decide
  obtain ⟨pose, hr, -, hw, hskipped, haxis⟩ := outcome_ignore_eq_clamped_walk plateau 3 plan hstart
  obtain ⟨pose', hr', -, hy⟩ := haxis { maxX := 0, maxY := 1 } low hlow rfl
  exact ⟨hstart, hlow, hstalls, hskipped.trans hstalls, pose, pose', hw.trans hwalk, hr, hr',
    hy rfl rfl⟩

end Plan
end RoverMission

/-
Walks around the torus.

Under the wrapping policy opposite edges of the plateau meet.  A journey is then
the image of a walk on the unbounded grid, and the walker that covers it differs
from it by whole turns around the torus (`Covers`).  Each wrapped move adds one
turn on one axis, which bounds the turns by the counter and gives both the same
parity.
-/
import RoverMission.Proofs.Policies

namespace RoverMission

namespace Walker

variable {plateau : Plateau} {w : Walker}

/-- A move off the plateau crosses exactly one edge. -/
theorem winding_of_not_on (h : w.On plateau) (hoff : ¬ (w.follow .move).On plateau) :
    ((w.follow .move).x / plateau.width).natAbs +
      ((w.follow .move).y / plateau.height).natAbs = 1 := by
  obtain ⟨x, y, heading⟩ := w
  obtain ⟨⟨hx, hx'⟩, hy, hy'⟩ := h
  simp only at hx hx' hy hy'
  have ex : x / plateau.width = 0 := Int.ediv_eq_zero_of_lt hx hx'
  have ey : y / plateau.height = 0 := Int.ediv_eq_zero_of_lt hy hy'
  have hw : plateau.width ≠ 0 := by omega
  have hh : plateau.height ≠ 0 := by omega
  have sw : plateau.width.sign = 1 := Int.sign_eq_one_of_pos (by omega)
  have sh : plateau.height.sign = 1 := Int.sign_eq_one_of_pos (by omega)
  -- The edge in front fixes the one coordinate that changes.
  cases heading with
  | north =>
    simp only [On, follow, Heading.step] at hoff ⊢
    have hedge : y + 1 = plateau.height := by omega
    simp [ex, hedge, Int.ediv_self hh]
  | east =>
    simp only [On, follow, Heading.step] at hoff ⊢
    have hedge : x + 1 = plateau.width := by omega
    simp [ey, hedge, Int.ediv_self hw]
  | south =>
    simp only [On, follow, Heading.step] at hoff ⊢
    have hedge : y + -1 = -1 := by omega
    simp [ex, hedge, Int.neg_one_ediv, sh]
  | west =>
    simp only [On, follow, Heading.step] at hoff ⊢
    have hedge : x + -1 = -1 := by omega
    simp [ey, hedge, Int.neg_one_ediv, sw]

end Walker

namespace Journey

/-- The walker is where the journey is, so many turns around the torus apart. -/
structure Covers (plateau : Plateau) (w : Walker) (j : Journey) (kx ky : Int) : Prop where
  ending : j.ending = none
  on : j.pose.walker.On plateau
  heading : w.heading = j.pose.walker.heading
  x : w.x = j.pose.walker.x + kx * plateau.width
  y : w.y = j.pose.walker.y + ky * plateau.height
  turns_le : kx.natAbs + ky.natAbs ≤ j.wrapped
  parity : (j.wrapped : Int) % 2 = (kx + ky) % 2

variable {plateau : Plateau} {rover : Nat} {w : Walker} {j : Journey} {kx ky : Int}

theorem covers_start {pose : Pose} (h : plateau.Contains pose.position) :
    Covers plateau pose.walker (start pose) 0 0 where
  ending := rfl
  on := Plateau.contains_iff.1 h
  heading := rfl
  x := by rw [Int.zero_mul, Int.add_zero, start]
  y := by rw [Int.zero_mul, Int.add_zero, start]
  turns_le := Nat.le_refl 0
  parity := rfl

/-- A command that keeps to the plateau moves the walker and the rover alike. -/
theorem covers_goTo (h : Covers plateau w j kx ky) {k : Command}
    (hk : k = .move → (j.pose.walker.follow k).On plateau) :
    Covers plateau (w.follow k) (j.goTo (j.pose.walker.follow k).pose) kx ky := by
  have hw : (j.goTo (j.pose.walker.follow k).pose).pose.walker = j.pose.walker.follow k :=
    walker_pose_follow hk
  have hx := h.x
  have hy := h.y
  have hh := h.heading
  refine ⟨h.ending, ?_, ?_, ?_, ?_, h.turns_le, h.parity⟩
  · rcases position_goTo j hk with hp | hon
    · rw [← Plateau.contains_iff, hp]
      exact Plateau.contains_iff.2 h.on
    · exact hon
  · rw [hw]
    cases k <;> simp only [Walker.follow, hh]
  · rw [hw]
    cases k <;> simp only [Walker.follow, hh] <;> omega
  · rw [hw]
    cases k <;> simp only [Walker.follow, hh] <;> omega

/-- A wrapped move takes the rover one turn further from the walker. -/
theorem covers_atEdge (h : Covers plateau w j kx ky)
    (hoff : ¬ (j.pose.walker.follow .move).On plateau) :
    Covers plateau (w.follow .move) (j.atEdge .wrap plateau rover)
      (kx + (j.pose.walker.follow .move).x / plateau.width)
      (ky + (j.pose.walker.follow .move).y / plateau.height) := by
  have hon := h.on
  have hs := Plateau.sound_of_contains (Plateau.contains_iff.2 hon)
  have hw : (j.atEdge .wrap plateau rover).pose.walker =
      plateau.wrapped (j.pose.walker.follow .move) := walker_atEdge_wrap hs j
  have hturn := Walker.winding_of_not_on hon hoff
  have hlen : (j.atEdge .wrap plateau rover).wrapped = j.wrapped + 1 := rfl
  have hx := h.x
  have hy := h.y
  have hle := h.turns_le
  have hpar := h.parity
  refine ⟨h.ending, ?_, ?_, ?_, ?_, ?_, ?_⟩
  · rw [hw]
    exact Plateau.wrapped_on hs _
  · rw [hw]
    exact h.heading
  · have hdiv := Int.emod_add_ediv_mul (j.pose.walker.follow .move).x plateau.width
    rw [hw, Int.add_mul]
    simp only [Plateau.wrapped, Walker.follow, h.heading] at hdiv ⊢
    omega
  · have hdiv := Int.emod_add_ediv_mul (j.pose.walker.follow .move).y plateau.height
    rw [hw, Int.add_mul]
    simp only [Plateau.wrapped, Walker.follow, h.heading] at hdiv ⊢
    omega
  · rw [hlen]
    omega
  · rw [hlen]
    omega

theorem covers_step (rover : Nat) (h : Covers plateau w j kx ky) (k : Command) :
    ∃ kx' ky', Covers plateau (w.follow k) (step .wrap plateau rover j k) kx' ky' := by
  rcases step_cases .wrap plateau rover j k with ⟨hover, -⟩ | ⟨-, hk, hs⟩ | ⟨-, rfl, hoff, hs⟩
  · exact absurd h.ending hover
  · rw [hs]
    exact ⟨kx, ky, covers_goTo h hk⟩
  · rw [hs]
    exact ⟨_, _, covers_atEdge h hoff⟩

theorem covers_drive (rover : Nat) (h : Covers plateau w j kx ky) (commands : List Command) :
    ∃ kx' ky', Covers plateau (w.walk commands) (drive .wrap plateau rover j commands) kx' ky' := by
  induction commands generalizing w j kx ky with
  | nil => exact ⟨kx, ky, h⟩
  | cons k commands ih =>
    obtain ⟨kx', ky', hk⟩ := covers_step rover h k
    exact ih hk

/-- The journey is where the walker is, taken around the torus. -/
theorem emod_of_covers (h : Covers plateau w j kx ky) :
    j.pose.walker.x = w.x % plateau.width ∧ j.pose.walker.y = w.y % plateau.height := by
  obtain ⟨⟨hx, hx'⟩, hy, hy'⟩ := h.on
  constructor
  · rw [h.x, Int.add_mul_emod_self_right, Int.emod_eq_of_lt hx hx']
  · rw [h.y, Int.add_mul_emod_self_right, Int.emod_eq_of_lt hy hy']

end Journey

open Command in
/-- Under the wrapping policy a rover walks around the torus.  It ends in a pose
whose heading counts the quarter turns and whose coordinates are the exact sums,
taken around the torus; the turns around it are at most the wrapped moves and
have the same parity. -/
theorem Plan.outcome_wrap_eq_torus_walk (plateau : Plateau) (rover : Nat) (plan : Plan)
    (h : plateau.Contains plan.start.position) :
    ∃ pose, (plan.outcome .wrap plateau rover).result = .ok pose ∧
      pose.heading = plan.start.heading.turned (quarterTurns plan.commands) ∧
      pose.position.x.toInt =
        (plan.start.position.x.toInt + (displacement plan.start.heading plan.commands).1) %
          (plateau.maxX.toInt + 1) ∧
      pose.position.y.toInt =
        (plan.start.position.y.toInt + (displacement plan.start.heading plan.commands).2) %
          (plateau.maxY.toInt + 1) ∧
      ∃ kx ky : Int,
        plan.start.position.x.toInt + (displacement plan.start.heading plan.commands).1 =
          pose.position.x.toInt + kx * (plateau.maxX.toInt + 1) ∧
        plan.start.position.y.toInt + (displacement plan.start.heading plan.commands).2 =
          pose.position.y.toInt + ky * (plateau.maxY.toInt + 1) ∧
        kx.natAbs + ky.natAbs ≤ (plan.outcome .wrap plateau rover).wrapped ∧
        ((plan.outcome .wrap plateau rover).wrapped : Int) % 2 = (kx + ky) % 2 := by
  obtain ⟨kx, ky, hc⟩ := Journey.covers_drive rover (Journey.covers_start h) plan.commands
  obtain ⟨hx, hy⟩ := Journey.emod_of_covers hc
  have hh := hc.heading
  have ex := hc.x
  have ey := hc.y
  rw [Walker.walk_eq] at hx hy hh ex ey
  rw [Plan.outcome_eq]
  exact ⟨_, Journey.result_outcome hc.ending, hh.symm, hx, hy, kx, ky, ex, ey, hc.turns_le,
    hc.parity⟩

/-- From the far corner of the widest plateau, one row high, east and then
north: both moves wrap, and the walker ends one turn away on each axis. -/
theorem Plan.outcome_wrap_eq_torus_walk_far_corner :
    let plateau : Plateau := { maxX := 2147483647, maxY := 0 }
    let plan : Plan :=
      { start := { position := { x := 2147483647, y := 0 }, heading := .east }
        commands := [.move, .left, .move] }
    plateau.Contains plan.start.position ∧
      ∃ pose, (plan.outcome .wrap plateau 1).result = .ok pose ∧ pose.heading = .north ∧
        pose.position.x.toInt = 0 ∧ pose.position.y.toInt = 0 ∧
        ∃ kx ky : Int, 2147483647 + 1 = pose.position.x.toInt + kx * 2147483648 ∧
          0 + 1 = pose.position.y.toInt + ky * 1 ∧
          kx.natAbs + ky.natAbs ≤ (plan.outcome .wrap plateau 1).wrapped ∧
          ((plan.outcome .wrap plateau 1).wrapped : Int) % 2 = (kx + ky) % 2 :=
  ⟨by decide, outcome_wrap_eq_torus_walk _ _ _ (by decide)⟩

end RoverMission

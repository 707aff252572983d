/-
The ground under a walker.

`Walker.On` says with exact integers what `Plateau.Contains` says of positions, and
`Walker.InRange` what it takes to be a position at all.  Coordinates of a plateau are
in range, so a walker whose next cell is on the plateau can always be followed, and
the cell in front of a rover is free exactly if the walker's next cell is on the
plateau (`free?_of_on`, `free?_of_not_on`).
-/
import Mathlib.Data.Nat.Find
import RoverMission.Journey
import RoverMission.Proofs.Walk

namespace RoverMission

namespace Plateau

/-- The number of columns. -/
def width (plateau : Plateau) : Int := plateau.maxX.toInt + 1

/-- The number of rows. -/
def height (plateau : Plateau) : Int := plateau.maxY.toInt + 1

theorem width_le (plateau : Plateau) : plateau.width ≤ 2147483648 := by
  have h := Int32.toInt_lt plateau.maxX
  unfold width
  omega

theorem height_le (plateau : Plateau) : plateau.height ≤ 2147483648 := by
  have h := Int32.toInt_lt plateau.maxY
  unfold height
  omega

end Plateau

namespace Walker

/-- The walker stands on the plateau. -/
def On (plateau : Plateau) (w : Walker) : Prop :=
  (0 ≤ w.x ∧ w.x < plateau.width) ∧ 0 ≤ w.y ∧ w.y < plateau.height

instance (plateau : Plateau) (w : Walker) : Decidable (w.On plateau) :=
  inferInstanceAs (Decidable ((_ ∧ _) ∧ _ ∧ _))

/-- The walker stands where a rover can stand. -/
def InRange (w : Walker) : Prop :=
  (-2147483648 ≤ w.x ∧ w.x ≤ 2147483647) ∧ -2147483648 ≤ w.y ∧ w.y ≤ 2147483647

theorem inRange_of_on {plateau : Plateau} {w : Walker} (h : w.On plateau) : w.InRange := by
  obtain ⟨⟨hx, hx'⟩, hy, hy'⟩ := h
  have hw := plateau.width_le
  have hh := plateau.height_le
  exact ⟨⟨by omega, by omega⟩, by omega, by omega⟩

/-- A walker in range is the walker of its pose. -/
theorem walker_pose_of_inRange {w : Walker} (h : w.InRange) : w.pose.walker = w := by
  obtain ⟨⟨hx, hx'⟩, hy, hy'⟩ := h
  have ex : (Int32.ofInt w.x).toInt = w.x := Int32.toInt_ofInt_of_le (by omega) (by omega)
  have ey : (Int32.ofInt w.y).toInt = w.y := Int32.toInt_ofInt_of_le (by omega) (by omega)
  simp only [pose, Pose.walker, ex, ey]

theorem walker_pose {plateau : Plateau} {w : Walker} (h : w.On plateau) : w.pose.walker = w :=
  walker_pose_of_inRange (inRange_of_on h)

end Walker

theorem Plateau.contains_iff {plateau : Plateau} {p : Pose} :
    plateau.Contains p.position ↔ p.walker.On plateau := by
  simp only [Plateau.Contains, Walker.On, Pose.walker, Int32.le_iff_toInt_le, Int32.toInt_zero,
    Plateau.width, Plateau.height]
  omega

namespace Journey

variable {plateau : Plateau} {pose : Pose}

/-- The cell in front is where the walker's next step leads. -/
theorem walker_moveTo_of_ahead? {p : Position} (h : pose.ahead? = some p) :
    (pose.moveTo p).walker = pose.walker.follow .move := by
  obtain ⟨hx, hy⟩ := Position.toInt_of_ahead? h
  simp only [Pose.moveTo, Pose.walker, Walker.follow, hx, hy]

theorem ahead?_of_inRange (h : (pose.walker.follow .move).InRange) :
    pose.ahead? = some (pose.walker.follow .move).pose.position := by
  obtain ⟨hx, hy⟩ := h
  have ex : Coordinate.ofInt? (pose.position.x.toInt + pose.heading.step.1) =
      some (Int32.ofInt (pose.position.x.toInt + pose.heading.step.1)) := if_pos hx
  have ey : Coordinate.ofInt? (pose.position.y.toInt + pose.heading.step.2) =
      some (Int32.ofInt (pose.position.y.toInt + pose.heading.step.2)) := if_pos hy
  rw [Pose.ahead?, Position.ahead?, ex, ey]
  rfl

/-- Only a cell out of range is not represented, and no plateau holds such a
cell. -/
theorem not_on_of_ahead?_eq_none (h : pose.ahead? = none) :
    ¬ (pose.walker.follow .move).On plateau := by
  intro hon
  rw [ahead?_of_inRange (Walker.inRange_of_on hon)] at h
  cases h

theorem free?_of_on (h : (pose.walker.follow .move).On plateau) :
    ∃ p, free? plateau pose = some p ∧ pose.moveTo p = (pose.walker.follow .move).pose := by
  cases ha : pose.ahead? with
  | none => exact absurd h (not_on_of_ahead?_eq_none ha)
  | some p =>
    have hw := walker_moveTo_of_ahead? ha
    have hc : plateau.Contains p := by
      have hp : plateau.Contains (pose.moveTo p).position := by
        rw [Plateau.contains_iff, hw]
        exact h
      exact hp
    refine ⟨p, ?_, ?_⟩
    · rw [free?, ha]
      simp [Option.filter, hc]
    · rw [← hw, Pose.pose_walker]

theorem free?_of_not_on (h : ¬ (pose.walker.follow .move).On plateau) :
    free? plateau pose = none := by
  cases hf : free? plateau pose with
  | none => rfl
  | some p =>
    have ha : pose.ahead? = some p := (Option.filter_eq_some_iff.1 hf).1
    have hc : plateau.Contains (pose.moveTo p).position := contains_of_free? hf
    rw [Plateau.contains_iff, walker_moveTo_of_ahead? ha] at hc
    exact absurd hc h

end Journey

/-! ## Steps across the edge -/

namespace Plateau

variable {plateau : Plateau}

theorem width_pos (h : plateau.Sound) : 0 < plateau.width := by
  have hx := Int32.le_iff_toInt_le.1 h.1
  rw [Int32.toInt_zero] at hx
  unfold width
  omega

theorem height_pos (h : plateau.Sound) : 0 < plateau.height := by
  have hy := Int32.le_iff_toInt_le.1 h.2
  rw [Int32.toInt_zero] at hy
  unfold height
  omega

/-- A plateau with a cell on it is sound. -/
theorem sound_of_contains {p : Position} (h : plateau.Contains p) : plateau.Sound :=
  ⟨Int32.le_trans h.1.1 h.1.2, Int32.le_trans h.2.1 h.2.2⟩

/-- A walker's next cell, taken around the torus. -/
def wrapped (plateau : Plateau) (w : Walker) : Walker :=
  { w with x := w.x % plateau.width, y := w.y % plateau.height }

theorem wrapped_on (h : plateau.Sound) (w : Walker) : (plateau.wrapped w).On plateau :=
  ⟨⟨Int.emod_nonneg _ (Int.ne_of_gt (width_pos h)), Int.emod_lt_of_pos _ (width_pos h)⟩,
    Int.emod_nonneg _ (Int.ne_of_gt (height_pos h)), Int.emod_lt_of_pos _ (height_pos h)⟩

theorem moveTo_wrapStep (pose : Pose) :
    pose.moveTo (plateau.wrapStep pose.position pose.heading) =
      (plateau.wrapped (pose.walker.follow .move)).pose := rfl

end Plateau

/-! ## Walks that meet the edge -/

namespace Walker

variable {plateau : Plateau} {w : Walker} {k : Command} {commands : List Command} {i : Nat}

/-- The command at an index is a move that leads the walker off the plateau. -/
def LeavesAt (plateau : Plateau) (w : Walker) (commands : List Command) (i : Nat) : Prop :=
  commands[i]? = some .move ∧ ¬ (w.walk (commands.take (i + 1))).On plateau

instance : Decidable (w.LeavesAt plateau commands i) := inferInstanceAs (Decidable (_ ∧ _))

theorem leavesAt_zero :
    w.LeavesAt plateau (k :: commands) 0 ↔ k = .move ∧ ¬ (w.follow k).On plateau := by
  simp [LeavesAt, walk_cons, walk_nil]

theorem leavesAt_succ :
    w.LeavesAt plateau (k :: commands) (i + 1) ↔ (w.follow k).LeavesAt plateau commands i := by
  simp [LeavesAt, walk_cons]

theorem lt_length_of_leavesAt (h : w.LeavesAt plateau commands i) : i < commands.length := by
  obtain ⟨hi, -⟩ := h
  exact (List.getElem?_eq_some_iff.1 hi).1

/-- No command is a move that leads the walker off the plateau. -/
def Clear (plateau : Plateau) (w : Walker) (commands : List Command) : Prop :=
  ∀ i, ¬ w.LeavesAt plateau commands i

theorem clear_nil : w.Clear plateau [] := fun _ hi =>
  absurd (lt_length_of_leavesAt hi) (Nat.not_lt_zero _)

theorem clear_cons :
    w.Clear plateau (k :: commands) ↔
      (k = .move → (w.follow k).On plateau) ∧ (w.follow k).Clear plateau commands := by
  constructor
  · intro h
    refine ⟨fun hk => ?_, fun i => ?_⟩
    · have h0 := h 0
      rw [leavesAt_zero] at h0
      by_contra hoff
      exact h0 ⟨hk, hoff⟩
    · have hi := h (i + 1)
      rwa [leavesAt_succ] at hi
  · rintro ⟨hk, hrest⟩ i
    cases i with
    | zero =>
      rw [leavesAt_zero]
      exact fun h => h.2 (hk h.1)
    | succ i =>
      rw [leavesAt_succ]
      exact hrest i

theorem clear_append {a b : List Command} :
    w.Clear plateau (a ++ b) ↔ w.Clear plateau a ∧ (w.walk a).Clear plateau b := by
  induction a generalizing w with
  | nil => exact ⟨fun h => ⟨clear_nil, h⟩, And.right⟩
  | cons k a ih => rw [List.cons_append, clear_cons, clear_cons, ih, walk_cons, and_assoc]

theorem clear_singleton : w.Clear plateau [k] ↔ (k = .move → (w.follow k).On plateau) := by
  rw [clear_cons]
  exact ⟨And.left, fun h => ⟨h, clear_nil⟩⟩

/-- The command at an index is the first move that leads the walker off the
plateau. -/
structure FirstLeavesAt (plateau : Plateau) (w : Walker) (commands : List Command) (i : Nat) :
    Prop where
  leaves : w.LeavesAt plateau commands i
  first : ∀ i' < i, ¬ w.LeavesAt plateau commands i'

/-- The commands before the first move off the plateau are clear. -/
theorem clear_take (h : w.FirstLeavesAt plateau commands i) :
    w.Clear plateau (commands.take i) := by
  intro i' hi'
  have hlt : i' < i := by
    have := lt_length_of_leavesAt hi'
    rw [List.length_take] at this
    omega
  refine h.first i' hlt ?_
  obtain ⟨hk, hoff⟩ := hi'
  rw [List.getElem?_take_of_lt hlt] at hk
  rw [List.take_take, Nat.min_eq_left hlt] at hoff
  exact ⟨hk, hoff⟩

/-- Commands are clear, or there is a first move that leaves the plateau. -/
theorem clear_or_firstLeavesAt (plateau : Plateau) (w : Walker) (commands : List Command) :
    w.Clear plateau commands ∨ ∃ i, w.FirstLeavesAt plateau commands i := by
  by_cases h : ∃ i, w.LeavesAt plateau commands i
  · exact Or.inr ⟨Nat.find h, Nat.find_spec h, fun _ => Nat.find_min h⟩
  · exact Or.inl fun i hi => h ⟨i, hi⟩

end Walker
end RoverMission

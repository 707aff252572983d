/-
Rovers that only the range of coordinates bounds.

Without a plateau a rover follows a walker for as long as the walker's coordinates
are in range.  A command is carried out if it leads to such coordinates, and so are
all commands of a path that stays in range (`executeAll_of_inRange`).  The first command
that leads out of range is refused, and the rover stays where the commands before it
led (`executeAll_of_leavesRangeAt`).
-/
import RoverMission.Rover
import RoverMission.Proofs.Driving

namespace RoverMission

namespace Walker

instance (w : Walker) : Decidable w.InRange := inferInstanceAs (Decidable ((_ ∧ _) ∧ _ ∧ _))

theorem inRange_walker (p : Pose) : p.walker.InRange := by
  have hx := Int32.le_toInt p.position.x
  have hx' := Int32.toInt_lt p.position.x
  have hy := Int32.le_toInt p.position.y
  have hy' := Int32.toInt_lt p.position.y
  exact ⟨⟨hx, Int.le_of_lt_add_one hx'⟩, hy, Int.le_of_lt_add_one hy'⟩

/-- The command at an index is the first that leads the walker out of range. -/
structure LeavesRangeAt (w : Walker) (commands : List Command) (i : Nat) : Prop where
  lt_length : i < commands.length
  outside : ¬ (w.walk (commands.take (i + 1))).InRange
  inside : ∀ n ≤ i, (w.walk (commands.take n)).InRange

theorem LeavesRangeAt.inside_take {w : Walker} {commands : List Command} {i : Nat}
    (h : w.LeavesRangeAt commands i) (n : Nat) :
    (w.walk ((commands.take i).take n)).InRange := by
  rw [List.take_take]
  exact h.inside _ (Nat.min_le_right n i)

/-- A path stays in range, or there is a first command that leads out of it. -/
theorem inRange_or_leavesRangeAt {w : Walker} (h : w.InRange) (commands : List Command) :
    (∀ n, (w.walk (commands.take n)).InRange) ∨ ∃ i, w.LeavesRangeAt commands i := by
  by_cases hpath : ∃ n, ¬ (w.walk (commands.take n)).InRange
  · right
    have hout := Nat.find_spec hpath
    have hmin : ∀ n < Nat.find hpath, (w.walk (commands.take n)).InRange := fun n hn =>
      Decidable.of_not_not (Nat.find_min hpath hn)
    generalize Nat.find hpath = first at hout hmin
    cases first with
    | zero => exact absurd h hout
    | succ i =>
      refine ⟨i, ?_, hout, fun n hn => hmin n (Nat.lt_succ_of_le hn)⟩
      -- Behind the last command the path goes nowhere.
      by_contra hlength
      rw [Nat.not_lt] at hlength
      rw [List.take_of_length_le (by omega)] at hout
      have hlast := hmin i (Nat.lt_succ_self i)
      rw [List.take_of_length_le hlength] at hlast
      exact hout hlast
  · left
    intro n
    by_contra hn
    exact hpath ⟨n, hn⟩

end Walker

namespace Rover

variable {r : Rover}

theorem execute_of_inRange {k : Command} (h : (r.pose.walker.follow k).InRange) (i : Nat) :
    r.execute k i = .ok { r with pose := (r.pose.walker.follow k).pose } := by
  cases k with
  | left =>
    rw [← Journey.walker_turnLeft]
    rfl
  | right =>
    rw [← Journey.walker_turnRight]
    rfl
  | move =>
    rw [execute, Journey.ahead?_of_inRange h]
    rfl

theorem executeFrom_of_inRange {commands : List Command}
    (h : ∀ n, (r.pose.walker.walk (commands.take n)).InRange) (i : Nat) :
    r.executeFrom i commands =
      ({ r with pose := (r.pose.walker.walk commands).pose }, none) := by
  induction commands generalizing r i with
  | nil =>
    rw [Walker.walk_nil, Pose.pose_walker]
    rfl
  | cons k commands ih =>
    have hk : (r.pose.walker.follow k).InRange := h 1
    have hw := Walker.walker_pose_of_inRange hk
    have hrec := ih (r := { r with pose := (r.pose.walker.follow k).pose })
      (fun n => by
        show ((r.pose.walker.follow k).pose.walker.walk (commands.take n)).InRange
        rw [hw]
        exact h (n + 1)) (i + 1)
    rw [executeFrom, execute_of_inRange hk]
    refine hrec.trans ?_
    simp only [hw, Walker.walk_cons]

/-- Commands whose path stays in range are all carried out, and lead where they lead
a walker. -/
theorem executeAll_of_inRange {commands : List Command}
    (h : ∀ n, (r.pose.walker.walk (commands.take n)).InRange) :
    r.executeAll commands = ({ r with pose := (r.pose.walker.walk commands).pose }, none) :=
  executeFrom_of_inRange h 1

theorem execute_of_not_inRange {k : Command} (h : ¬ (r.pose.walker.follow k).InRange) (i : Nat) :
    r.execute k i = .error (.outOfBounds r.id i r.pose) := by
  cases k with
  | left => exact absurd (Walker.inRange_walker r.pose) h
  | right => exact absurd (Walker.inRange_walker r.pose) h
  | move =>
    cases ha : r.pose.ahead? with
    | none => rw [execute, ha]
    | some p =>
      rw [← Journey.walker_moveTo_of_ahead? ha] at h
      exact absurd (Walker.inRange_walker _) h

/-- The first command that leads out of range is refused where the commands before it
led. -/
theorem executeAll_of_leavesRangeAt {commands : List Command} {i : Nat}
    (h : r.pose.walker.LeavesRangeAt commands i) :
    r.executeAll commands =
      ({ r with pose := (r.pose.walker.walk (commands.take i)).pose },
        some (.outOfBounds r.id (i + 1) (r.pose.walker.walk (commands.take i)).pose)) := by
  have hbefore := executeAll_of_inRange h.inside_take
  have hlt := h.lt_length
  have hlength : (commands.take i).length = i := List.length_take_of_le (Nat.le_of_lt hlt)
  have hout := h.outside
  rw [Walker.walk_take_succ (List.getElem?_eq_getElem hlt),
    ← Walker.walker_pose_of_inRange (h.inside i (Nat.le_refl i))] at hout
  have hrefused := execute_of_not_inRange
    (r := { r with pose := (r.pose.walker.walk (commands.take i)).pose }) hout (1 + i)
  have hsplit : commands.take i ++ commands[i] :: commands.drop (i + 1) = commands := by
    rw [List.getElem_cons_drop, List.take_append_drop]
  have hall := executeFrom_append r 1 (commands.take i) (commands[i] :: commands.drop (i + 1))
  rw [executeAll] at hbefore
  rw [hsplit, hbefore, hlength] at hall
  refine hall.trans ?_
  show executeFrom _ (1 + i) (commands[i] :: commands.drop (i + 1)) = _
  rw [executeFrom, hrefused, Nat.add_comm 1 i]

open Command in
/-- All commands are carried out exactly if every point of the path is in range.  The
rover then stands at the exact sum of the unit steps, its heading turned by all quarter
turns.  Otherwise the fault names the first command whose point is out of range and the
pose in front of it, and the rover is left in that pose, as if the commands before had
been all. -/
theorem executeAll_exact (r : Rover) (commands : List Command) :
    ((∃ r', r.executeAll commands = (r', none)) ↔
      ∀ n ≤ commands.length, (r.pose.walker.walk (commands.take n)).InRange) ∧
    (∀ r', r.executeAll commands = (r', none) →
      r'.id = r.id ∧
      r'.pose.walker =
        { x := r.pose.position.x.toInt + (displacement r.pose.heading commands).1
          y := r.pose.position.y.toInt + (displacement r.pose.heading commands).2
          heading := r.pose.heading.turned (quarterTurns commands) }) ∧
    ∀ r' fault, r.executeAll commands = (r', some fault) →
      ∃ i, r.pose.walker.LeavesRangeAt commands i ∧
        fault = .outOfBounds r.id (i + 1) r'.pose ∧
        r'.id = r.id ∧
        r'.pose.walker = r.pose.walker.walk (commands.take i) ∧
        r.executeAll (commands.take i) = (r', none) := by
  rcases Walker.inRange_or_leavesRangeAt (Walker.inRange_walker r.pose) commands with
    hpath | ⟨i, hi⟩
  · have hall := executeAll_of_inRange hpath
    refine ⟨⟨fun _ n _ => hpath n, fun _ => ⟨_, hall⟩⟩, fun r' hr => ?_, fun r' fault hr => ?_⟩
    · rw [hall] at hr
      cases hr
      have hend := hpath commands.length
      rw [List.take_length] at hend
      exact ⟨rfl, (Walker.walker_pose_of_inRange hend).trans (Walker.walk_eq _ _)⟩
    · rw [hall] at hr
      cases hr
  · have hrefused := executeAll_of_leavesRangeAt hi
    refine ⟨⟨fun ⟨r', hr⟩ => ?_, fun hpath => ?_⟩, fun r' hr => ?_, fun r' fault hr => ?_⟩
    · rw [hrefused] at hr
      cases hr
    · exact absurd (hpath (i + 1) hi.lt_length) hi.outside
    · rw [hrefused] at hr
      cases hr
    · rw [hrefused] at hr
      cases hr
      refine ⟨i, hi, rfl, rfl, Walker.walker_pose_of_inRange (hi.inside i (Nat.le_refl i)), ?_⟩
      exact executeAll_of_inRange hi.inside_take

/-- To the far end of one axis, and from the low end of the other out of range. -/
theorem executeAll_exact_corner :
    let r : Rover :=
      { id := 4
        pose := { position := { x := 2147483646, y := -2147483648 }, heading := .east } }
    let corner : Rover :=
      { id := 4
        pose := { position := { x := 2147483647, y := -2147483648 }, heading := .south } }
    r.executeAll [.move, .right] = (corner, none) ∧
      corner.pose.walker = { x := 2147483646 + 1, y := -2147483648 + 0, heading := .south } ∧
      r.executeAll [.move, .right, .move, .left] =
        (corner, some (.outOfBounds 4 3 corner.pose)) ∧
      r.pose.walker.LeavesRangeAt [.move, .right, .move, .left] 2 := by
  intro r corner
  have hok : r.executeAll [.move, .right] = (corner, none) := by decide +kernel
  have hrefused : r.executeAll [.move, .right, .move, .left] =
      (corner, some (.outOfBounds 4 3 corner.pose)) := by decide +kernel
  obtain ⟨-, hexact, -⟩ := executeAll_exact r [.move, .right]
  obtain ⟨-, -, hleaves⟩ := executeAll_exact r [.move, .right, .move, .left]
  obtain ⟨i, hi, hfault, -, -, -⟩ := hleaves corner _ hrefused
  cases hfault
  exact ⟨hok, (hexact corner hok).2, hrefused, hi⟩

end Rover
end RoverMission

/-
Walks on the unbounded grid.

A walker is a pose whose coordinates are integers: nothing stops it, so every
command has its exact effect.  What a rover does on a plateau is measured against
where the same commands lead a walker.

`walk_eq` gives the end of a walk in closed form.  The heading counts quarter
turns and the position adds up the unit steps of the moves (`displacement`).
-/
import Mathlib.Data.Int.Init
import Mathlib.Logic.Function.Iterate
import RoverMission.Mission

namespace RoverMission

structure Walker where
  x : Int
  y : Int
  heading : Heading
  deriving DecidableEq

namespace Walker

/-- The walker after one command. -/
def follow (w : Walker) : Command → Walker
  | .left => { w with heading := w.heading.left }
  | .right => { w with heading := w.heading.right }
  | .move => { w with x := w.x + w.heading.step.1, y := w.y + w.heading.step.2 }

def walk (w : Walker) (commands : List Command) : Walker := commands.foldl follow w

theorem walk_nil (w : Walker) : w.walk [] = w := rfl

theorem walk_cons (w : Walker) (k : Command) (commands : List Command) :
    w.walk (k :: commands) = (w.follow k).walk commands := rfl

theorem walk_append (w : Walker) (a b : List Command) :
    w.walk (a ++ b) = (w.walk a).walk b := by
  simp [walk]

theorem walk_take_succ {w : Walker} {commands : List Command} {i : Nat} {k : Command}
    (hk : commands[i]? = some k) :
    w.walk (commands.take (i + 1)) = (w.walk (commands.take i)).follow k := by
  rw [List.take_add_one, hk, walk_append]
  rfl

/-- The pose with a walker's coordinates, as far as they are in range. -/
def pose (w : Walker) : Pose where
  position := { x := Int32.ofInt w.x, y := Int32.ofInt w.y }
  heading := w.heading

end Walker

/-- The walker that starts where a rover stands. -/
def Pose.walker (p : Pose) : Walker where
  x := p.position.x.toInt
  y := p.position.y.toInt
  heading := p.heading

@[simp] theorem Pose.pose_walker (p : Pose) : p.walker.pose = p := by
  simp [Pose.walker, Walker.pose]

/-! ## The closed form of a walk -/

namespace Heading

/-- A heading after so many quarter turns clockwise; a negative number turns
it the other way. -/
def turned (h : Heading) : Int → Heading
  | .ofNat n => right^[n] h
  | .negSucc n => left^[n + 1] h

@[simp] theorem turned_zero (h : Heading) : h.turned 0 = h := rfl

theorem turned_add_one (h : Heading) (n : Int) : h.turned (n + 1) = (h.turned n).right := by
  cases n with
  | ofNat n => exact Function.iterate_succ_apply' right n h
  | negSucc n =>
    have hl : h.turned (.negSucc n) = (left^[n] h).left := Function.iterate_succ_apply' left n h
    rw [hl, right_left]
    cases n <;> rfl

theorem turned_sub_one (h : Heading) (n : Int) : h.turned (n - 1) = (h.turned n).left := by
  have hn := turned_add_one h (n - 1)
  rw [Int.sub_add_cancel] at hn
  rw [hn, left_right]

/-- Turning may be done first or last. -/
theorem turned_right (h : Heading) (n : Int) : h.right.turned n = h.turned (n + 1) := by
  induction n with
  | zero => rfl
  | succ n ih => rw [turned_add_one, ih, ← turned_add_one]
  | pred n ih =>
    rw [turned_sub_one, ih, ← turned_sub_one]
    congr 1
    omega

theorem turned_left (h : Heading) (n : Int) : h.left.turned n = h.turned (n - 1) := by
  have hr := turned_right h.left (n - 1)
  rw [right_left, Int.sub_add_cancel] at hr
  exact hr.symm

end Heading

namespace Command

/-- Left for right and right for left. -/
def exchanged : Command → Command
  | left => right
  | right => left
  | move => move

/-- The quarter turns clockwise that commands add up to. -/
def quarterTurns (commands : List Command) : Int :=
  (commands.count .right : Int) - commands.count .left

/-- The sum of the unit steps of all moves, for a rover that looks along a
heading before the first command. -/
def displacement : Heading → List Command → Int × Int
  | _, [] => (0, 0)
  | h, .left :: commands => displacement h.left commands
  | h, .right :: commands => displacement h.right commands
  | h, .move :: commands =>
    (h.step.1 + (displacement h commands).1, h.step.2 + (displacement h commands).2)

end Command

open Command in
/-- Where a walk ends. -/
theorem Walker.walk_eq (w : Walker) (commands : List Command) :
    w.walk commands =
      { x := w.x + (displacement w.heading commands).1
        y := w.y + (displacement w.heading commands).2
        heading := w.heading.turned (quarterTurns commands) } := by
  induction commands generalizing w with
  | nil => simp [walk_nil, displacement, quarterTurns]
  | cons k commands ih =>
    rw [walk_cons, ih]
    cases k with
    | left =>
      have hq : quarterTurns (.left :: commands) = quarterTurns commands - 1 := by
        simp [quarterTurns]
        omega
      simp only [follow, displacement]
      rw [hq, Heading.turned_left]
    | right =>
      have hq : quarterTurns (.right :: commands) = quarterTurns commands + 1 := by
        simp [quarterTurns]
        omega
      simp only [follow, displacement]
      rw [hq, Heading.turned_right]
    | move =>
      have hq : quarterTurns (.move :: commands) = quarterTurns commands := by
        simp [quarterTurns]
      simp only [follow, displacement]
      rw [hq, Int.add_assoc, Int.add_assoc]

end RoverMission

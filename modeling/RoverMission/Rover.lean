/-
A rover without a plateau.

Nothing but the range of coordinates bounds such a rover.  A command that would
leave the range is refused, and the rover stays where the commands before it
led.
-/
import RoverMission.Command
import RoverMission.Fault

namespace RoverMission

structure Rover where
  id : Nat
  pose : Pose
  deriving DecidableEq

namespace Rover

def turnLeft (r : Rover) : Rover := { r with pose := r.pose.turnLeft }

def turnRight (r : Rover) : Rover := { r with pose := r.pose.turnRight }

def moveTo (r : Rover) (p : Position) : Rover := { r with pose := r.pose.moveTo p }

/-- Carry out the command that stands at a given place, counted from one. -/
def execute (r : Rover) (k : Command) (instruction : Nat) : Except Fault Rover :=
  match k with
  | .left => .ok r.turnLeft
  | .right => .ok r.turnRight
  | .move =>
    match r.pose.ahead? with
    | some p => .ok (r.moveTo p)
    | none => .error (.outOfBounds r.id instruction r.pose)

/-- Carry out commands numbered from `instruction` on until one is refused. -/
def executeFrom (r : Rover) : (instruction : Nat) → List Command → Rover × Option Fault
  | _, [] => (r, none)
  | instruction, k :: commands =>
    match r.execute k instruction with
    | .ok next => next.executeFrom (instruction + 1) commands
    | .error fault => (r, some fault)

/-- The rover after all commands, and why not all of them were carried out. -/
def executeAll (r : Rover) (commands : List Command) : Rover × Option Fault :=
  r.executeFrom 1 commands

theorem executeFrom_append (r : Rover) (i : Nat) (a b : List Command) :
    r.executeFrom i (a ++ b) =
      match r.executeFrom i a with
      | (next, none) => next.executeFrom (i + a.length) b
      | stopped => stopped := by
  induction a generalizing r i with
  | nil => rfl
  | cons k a ih =>
    simp only [List.cons_append, executeFrom, List.length_cons]
    cases r.execute k i with
    | error fault => rfl
    | ok next =>
      show next.executeFrom (i + 1) (a ++ b) = _
      rw [ih]
      have h : i + 1 + a.length = i + (a.length + 1) := by omega
      rw [h]

end Rover
end RoverMission

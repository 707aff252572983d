/-
Positions and poses.

A pose is all that can be seen of a rover: where it stands and where it looks.
It has two written forms, fields separated by blanks for missions and reports,
and a bracketed one for diagnostics.
-/
import RoverMission.Heading
import RoverMission.Text.Numeral

namespace RoverMission

structure Position where
  x : Coordinate
  y : Coordinate
  deriving DecidableEq

structure Pose where
  position : Position
  heading : Heading
  deriving DecidableEq

namespace Position

/-- The cell one step away, if both of its coordinates are in range. -/
def ahead? (p : Position) (h : Heading) : Option Position :=
  match Coordinate.ofInt? (p.x.toInt + h.step.1),
      Coordinate.ofInt? (p.y.toInt + h.step.2) with
  | some x, some y => some { x, y }
  | _, _ => none

theorem toInt_of_ahead? {p q : Position} {h : Heading} (e : p.ahead? h = some q) :
    q.x.toInt = p.x.toInt + h.step.1 ∧
      q.y.toInt = p.y.toInt + h.step.2 := by
  rw [ahead?] at e
  split at e
  · rename_i x y hx hy
    cases e
    exact ⟨Coordinate.toInt_of_ofInt? hx, Coordinate.toInt_of_ofInt? hy⟩
  · cases e

end Position

namespace Pose

def turnLeft (p : Pose) : Pose := { p with heading := p.heading.left }

def turnRight (p : Pose) : Pose := { p with heading := p.heading.right }

def moveTo (p : Pose) (q : Position) : Pose := { p with position := q }

/-- The cell in front, if its coordinates are in range. -/
def ahead? (p : Pose) : Option Position := p.position.ahead? p.heading

/-- The form of mission and report lines. -/
def text (p : Pose) : Text :=
  Numeral.ofCoordinate p.position.x ++ " " ++ Numeral.ofCoordinate p.position.y ++ " "
    ++ [p.heading.letter]

/-- The form used in diagnostics. -/
def bracketed (p : Pose) : Text :=
  "(" ++ Numeral.ofCoordinate p.position.x ++ "," ++ Numeral.ofCoordinate p.position.y ++ ","
    ++ [p.heading.letter] ++ ")"

end Pose
end RoverMission

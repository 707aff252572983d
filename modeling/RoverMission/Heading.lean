/-
Compass headings and their quarter turns.
-/
import RoverMission.Text

namespace RoverMission

inductive Heading
  | north
  | east
  | south
  | west
  deriving DecidableEq

namespace Heading

def left : Heading → Heading
  | north => west
  | west => south
  | south => east
  | east => north

def right : Heading → Heading
  | north => east
  | east => south
  | south => west
  | west => north

def opposite : Heading → Heading
  | north => south
  | south => north
  | east => west
  | west => east

/-- The unit step along a heading: eastward, then northward. -/
def step : Heading → Int × Int
  | north => (0, 1)
  | east => (1, 0)
  | south => (0, -1)
  | west => (-1, 0)

def letter : Heading → Char
  | north => 'N'
  | east => 'E'
  | south => 'S'
  | west => 'W'

def ofLetter? : Char → Option Heading
  | 'N' => some north
  | 'E' => some east
  | 'S' => some south
  | 'W' => some west
  | _ => none

/-- A heading is written as its letter alone. -/
def ofText? : Text → Option Heading
  | [c] => ofLetter? c
  | _ => none

@[simp] theorem right_left (h : Heading) : h.left.right = h := by cases h <;> rfl

@[simp] theorem left_right (h : Heading) : h.right.left = h := by cases h <;> rfl

theorem left_left (h : Heading) : h.left.left = h.opposite := by cases h <;> rfl

theorem step_opposite (h : Heading) :
    h.opposite.step = (-h.step.1, -h.step.2) := by cases h <;> rfl

theorem ofText?_letter (h : Heading) : ofText? [h.letter] = some h := by cases h <;> rfl

theorem eq_letter_of_ofText? {t : Text} {h : Heading} (e : ofText? t = some h) :
    t = [h.letter] := by
  unfold ofText? at e
  split at e
  · unfold ofLetter? at e
    split at e <;> cases e <;> rfl
  · cases e

end Heading
end RoverMission

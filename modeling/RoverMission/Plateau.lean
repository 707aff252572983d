/-
The plateau.

A plateau is the grid between the origin and its far corner, both included.
`Plateau.Sound` says that the far corner is not negative; every plateau of a
mission is built by `ofCorner?`, which refuses any other.
-/
import RoverMission.Pose

namespace RoverMission

structure Plateau where
  maxX : Coordinate
  maxY : Coordinate
  deriving DecidableEq

namespace Plateau

def Sound (plateau : Plateau) : Prop := 0 ≤ plateau.maxX ∧ 0 ≤ plateau.maxY

instance (plateau : Plateau) : Decidable plateau.Sound :=
  inferInstanceAs (Decidable (_ ∧ _))

def ofCorner? (x y : Coordinate) : Option Plateau :=
  if x < 0 ∨ y < 0 then none else some { maxX := x, maxY := y }

def Contains (plateau : Plateau) (p : Position) : Prop :=
  (0 ≤ p.x ∧ p.x ≤ plateau.maxX) ∧ 0 ≤ p.y ∧ p.y ≤ plateau.maxY

instance (plateau : Plateau) (p : Position) : Decidable (plateau.Contains p) :=
  inferInstanceAs (Decidable ((_ ∧ _) ∧ _ ∧ _))

/-- One step on the torus that the plateau becomes when opposite edges meet. -/
def wrapStep (plateau : Plateau) (p : Position) (h : Heading) : Position where
  x := Int32.ofInt ((p.x.toInt + h.step.1) % (plateau.maxX.toInt + 1))
  y := Int32.ofInt ((p.y.toInt + h.step.2) % (plateau.maxY.toInt + 1))

theorem sound_of_ofCorner? {x y : Coordinate} {plateau : Plateau}
    (h : ofCorner? x y = some plateau) : plateau.Sound := by
  rw [ofCorner?] at h
  split at h
  · cases h
  · rename_i hn
    cases h
    rw [not_or] at hn
    exact ⟨Int32.not_lt.1 hn.1, Int32.not_lt.1 hn.2⟩

end Plateau
end RoverMission

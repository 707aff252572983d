/-
Missions: a plateau and one plan per rover.
-/
import RoverMission.Command
import RoverMission.Plateau

namespace RoverMission

structure Plan where
  start : Pose
  commands : List Command
  deriving DecidableEq

structure Mission where
  plateau : Plateau
  plans : List Plan
  deriving DecidableEq

namespace Mission

/-- A mission whose rovers start on its plateau and have something to do: what
a mission text can describe. -/
def WellFormed (m : Mission) : Prop :=
  m.plateau.Sound ∧ ∀ plan ∈ m.plans, m.plateau.Contains plan.start.position ∧ plan.commands ≠ []

instance (m : Mission) : Decidable m.WellFormed := inferInstanceAs (Decidable (_ ∧ _))

end Mission
end RoverMission

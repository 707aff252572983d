/-
Writing missions.

The canonical text of a mission has one line for the plateau and two for each
rover, numbers without superfluous signs and zeros, and single spaces.
-/
import RoverMission.Mission

namespace RoverMission

def Plateau.line (plateau : Plateau) : Text :=
  Numeral.ofCoordinate plateau.maxX ++ " " ++ Numeral.ofCoordinate plateau.maxY

def Plan.lines (plan : Plan) : List Text := [plan.start.text, Command.letters plan.commands]

namespace Mission

def lines (m : Mission) : List Text := m.plateau.line :: m.plans.flatMap Plan.lines

def text (m : Mission) : Text := m.lines.flatMap fun line => line ++ "\n"

end Mission
end RoverMission

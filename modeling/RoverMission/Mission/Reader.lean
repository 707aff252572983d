/-
Reading mission texts.

The content lines of a mission text are its plateau line and then, rover by
rover, a start line and an instruction line.  The plateau line is checked
first, then that the other lines pair up, then the pairs in order, so the fault
reported is the first in that order and depends on nothing behind it.
-/
import RoverMission.Mission
import RoverMission.Logged
import RoverMission.Text.Blank

namespace RoverMission
namespace Mission

/-- The plateau with a given far corner. -/
def plateauOf (x y : Coordinate) : Except Fault Plateau :=
  match Plateau.ofCorner? x y with
  | some plateau => .ok plateau
  | none => .error (.mission (.negativeCorner x y))

def readPlateau (line : Text) : Except Fault Plateau :=
  match Text.words line with
  | [x, y] =>
    match Numeral.coordinate? x, Numeral.coordinate? y with
    | some x, some y => plateauOf x y
    | _, _ => .error (.mission (.plateauLine line))
  | _ => .error (.mission (.plateauLine line))

def readStart (rover : Nat) (line : Text) : Except Fault Pose :=
  match Text.words line with
  | [x, y, heading] =>
    match Numeral.coordinate? x, Numeral.coordinate? y with
    | some x, some y =>
      match Heading.ofText? heading with
      | some heading => .ok { position := { x, y }, heading }
      | none => .error (.mission (.startHeading rover heading))
    | _, _ => .error (.mission (.startLine rover line))
  | _ => .error (.mission (.startLine rover line))

def readInstructions (rover : Nat) (line : Text) : Except Fault (List Command) :=
  match Command.ofLetters line with
  | .ok commands => .ok commands
  | .error _ => .error (.instructions rover line)

def readPlan (plateau : Plateau) (rover : Nat) (startLine instructionLine : Text) :
    Except Fault Plan := do
  let start ← readStart rover startLine
  let commands ← readInstructions rover instructionLine
  if plateau.Contains start.position then
    .ok { start, commands }
  else
    .error (.mission (.startOutside rover start.position plateau))

/-- The plans of the rovers from number `rover` on. -/
def readPlans (plateau : Plateau) : (rover : Nat) → List Text → Except Fault (List Plan)
  | rover, startLine :: instructionLine :: lines => do
    let plan ← readPlan plateau rover startLine instructionLine
    let plans ← readPlans plateau (rover + 1) lines
    .ok (plan :: plans)
  | _, _ => .ok []

def ofLines : List Text → Except Fault Mission
  | [] => .error (.mission .empty)
  | plateauLine :: roverLines => do
    let plateau ← readPlateau plateauLine
    if roverLines.length % 2 = 0 then
      let plans ← readPlans plateau 1 roverLines
      .ok { plateau, plans }
    else
      .error (.mission .unpairedLine)

/-- The mission that a text describes, or the first fault in it. -/
def ofText (t : Text) : Except Fault Mission := ofLines (Text.contentLines t)

/-- Read a mission and tell of it. -/
def read (t : Text) : Attempt Mission := do
  let m ← Attempt.ofExcept (ofText t)
  Attempt.record (.missionRead m.plateau m.plans.length)
  return m

end Mission
end RoverMission

/-
Journeys: a rover driven through its plan on a plateau.

A journey is the state of a rover between two commands.  Each command takes it
one step further (`Journey.step`) until it ends, by halting at the edge or by a
fault; from then on commands change nothing.  Driving is a left fold of `step`,
so a plan may be cut anywhere and driven piece by piece (`drive_append`).
-/
import RoverMission.Mission
import RoverMission.Logged

namespace RoverMission

/-- Why a journey is over before its commands are. -/
inductive Ending
  | halted
  | failed (fault : Fault)
  deriving DecidableEq

structure Journey where
  pose : Pose
  /-- How many commands have been read. -/
  read : Nat := 0
  skipped : Nat := 0
  wrapped : Nat := 0
  ending : Option Ending := none
  /-- The events so far, the latest first. -/
  reported : List Event := []
  deriving DecidableEq

namespace Journey

/-- A journey before its first command. -/
def start (pose : Pose) : Journey := { pose }

/-- Read one command that leads to a pose. -/
def goTo (j : Journey) (pose : Pose) : Journey := { j with pose, read := j.read + 1 }

/-- What a policy makes of a move that would leave the plateau. -/
def atEdge (policy : BoundaryPolicy) (plateau : Plateau) (rover : Nat) (j : Journey) : Journey :=
  match policy with
  | .strict =>
    { j.goTo j.pose with ending := some (.failed (.outOfBounds rover (j.read + 1) j.pose)) }
  | .ignore =>
    { j.goTo j.pose with
      skipped := j.skipped + 1
      reported := .moveSkipped rover (j.read + 1) j.pose :: j.reported }
  | .stop => { j.goTo j.pose with ending := some .halted }
  | .wrap =>
    { j.goTo (j.pose.moveTo (plateau.wrapStep j.pose.position j.pose.heading)) with
      wrapped := j.wrapped + 1 }

/-- The cell in front, if it is on the plateau. -/
def free? (plateau : Plateau) (pose : Pose) : Option Position :=
  pose.ahead?.filter fun p => plateau.Contains p

def step (policy : BoundaryPolicy) (plateau : Plateau) (rover : Nat) (j : Journey)
    (k : Command) : Journey :=
  match j.ending with
  | some _ => j
  | none =>
    match k with
    | .left => j.goTo j.pose.turnLeft
    | .right => j.goTo j.pose.turnRight
    | .move =>
      match free? plateau j.pose with
      | some p => j.goTo (j.pose.moveTo p)
      | none => j.atEdge policy plateau rover

def drive (policy : BoundaryPolicy) (plateau : Plateau) (rover : Nat) (j : Journey)
    (commands : List Command) : Journey :=
  commands.foldl (step policy plateau rover) j

variable {policy : BoundaryPolicy} {plateau : Plateau} {rover : Nat}

theorem drive_nil (j : Journey) : drive policy plateau rover j [] = j := rfl

theorem drive_cons (j : Journey) (k : Command) (commands : List Command) :
    drive policy plateau rover j (k :: commands) =
      drive policy plateau rover (step policy plateau rover j k) commands := rfl

theorem drive_append (j : Journey) (a b : List Command) :
    drive policy plateau rover j (a ++ b) =
      drive policy plateau rover (drive policy plateau rover j a) b := by
  simp [drive]

theorem drive_of_ending {j : Journey} {e : Ending} (h : j.ending = some e)
    (commands : List Command) : drive policy plateau rover j commands = j := by
  induction commands with
  | nil => rfl
  | cons k commands ih =>
    have hs : step policy plateau rover j k = j := by simp [step, h]
    rw [drive_cons, hs, ih]

theorem contains_of_free? {pose : Pose} {p : Position} (h : free? plateau pose = some p) :
    plateau.Contains p := by
  simpa using (Option.filter_eq_some_iff.1 h).2

end Journey
end RoverMission

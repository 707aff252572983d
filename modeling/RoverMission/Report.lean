/-
Outcomes and reports.

The outcome of a plan is where its rover ended or why it failed, and how often
the plateau's edge interfered.  A report holds the outcomes of a mission in
rover order.  When errors are collected there is one outcome per plan; otherwise
the first failing rover's fault is all that comes of the mission.
-/
import RoverMission.Journey

namespace RoverMission

structure Outcome where
  rover : Nat
  result : Except Fault Pose
  skipped : Nat := 0
  wrapped : Nat := 0
  halted : Bool := false

structure Report where
  outcomes : List Outcome

namespace Journey

/-- What has come of a journey so far. -/
def outcome (rover : Nat) (j : Journey) : Outcome where
  rover
  result :=
    match j.ending with
    | some (.failed fault) => .error fault
    | _ => .ok j.pose
  skipped := j.skipped
  wrapped := j.wrapped
  halted := j.ending == some .halted

end Journey

namespace Outcome

def pose? (o : Outcome) : Option Pose := o.result.toOption

def fault? (o : Outcome) : Option Fault :=
  match o.result with
  | .ok _ => none
  | .error fault => some fault

/-- Drive one rover through its plan. -/
def ofPlan (policy : BoundaryPolicy) (plateau : Plateau) (rover : Nat) (plan : Plan) :
    Logged Outcome :=
  let j := Journey.drive policy plateau rover (.start plan.start) plan.commands
  ⟨j.outcome rover, j.reported.reverse⟩

/-- The event that tells of an outcome. -/
def event (o : Outcome) : Event :=
  match o.result with
  | .ok pose => .roverFinished o.rover pose o.skipped o.wrapped o.halted
  | .error fault => .roverFailed o.rover fault

end Outcome

namespace Report

def finalPoses (report : Report) : List Pose := report.outcomes.filterMap Outcome.pose?

def failures (report : Report) : List Fault := report.outcomes.filterMap Outcome.fault?

def hasFailures (report : Report) : Bool := !report.failures.isEmpty

/-- The outcomes of the rovers from number `rover` on. -/
def outcomesFrom (policy : BoundaryPolicy) (mode : ErrorMode) (plateau : Plateau) :
    (rover : Nat) → List Plan → Attempt (List Outcome)
  | _, [] => pure []
  | rover, plan :: plans => do
    let outcome ← ExceptT.lift (Outcome.ofPlan policy plateau rover plan)
    match outcome.fault?, mode with
    | some fault, .failFast => throw fault
    | _, _ => Attempt.record outcome.event
    let outcomes ← outcomesFrom policy mode plateau (rover + 1) plans
    return outcome :: outcomes

/-- Run a mission, rover by rover. -/
def ofMission (policy : BoundaryPolicy) (mode : ErrorMode) (m : Mission) : Attempt Report := do
  let outcomes ← outcomesFrom policy mode m.plateau 1 m.plans
  return { outcomes }

end Report
end RoverMission

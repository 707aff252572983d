/-
Deliveries: a mission run for a writer.

A mission is read, run and rendered before the writer is touched, so a mission
that fails leaves the writer as it was.  Only a report that has been written and
flushed is the result of a run.
-/
import RoverMission.Mission.Reader
import RoverMission.Report.Rendering

namespace RoverMission

/-- What an output with the given room takes of some pieces, and the fault of the
first piece that does not fit. -/
def Piece.deliver (room : Option Nat) (pieces : List Piece) : List UInt8 × Option Fault :=
  let (o, fault) := handAll Output.writer { room } pieces
  (o.taken, fault)

/-- Write a report and flush. -/
def Report.writeTo {σ : Type} (w : Writer σ) (s : σ) (format : OutputFormat) (report : Report)
    (cutting : Cutting := .whole) : σ × Option Fault :=
  match Piece.handAll w s (Piece.ofReport format report cutting) with
  | (s, some fault) => (s, some fault)
  | (s, none) =>
    let (s, cause) := w.flush s
    (s, cause.map .io)

/-- What an output was given and what came of the run. -/
structure Delivery where
  output : List UInt8
  result : Except Fault Report

namespace Delivery

/-- Read a mission and run it. -/
def attempt (settings : Settings) (label : Text) (source : Except Fault Text) : Attempt Report := do
  Attempt.record (.reading label)
  let t ← Attempt.ofExcept source
  let m ← Mission.read t
  Attempt.record (.running m.plans.length settings.policy settings.errorMode)
  Report.ofMission settings.policy settings.errorMode m

/-- Run a mission and write its report. -/
def runOn {σ : Type} (w : Writer σ) (s : σ) (settings : Settings) (label : Text)
    (source : Except Fault Text) (cutting : Cutting := .whole) :
    Logged (σ × Except Fault Report) := do
  match ← (attempt settings label source).run with
  | .error fault => return (s, .error fault)
  | .ok report =>
    match report.writeTo w s settings.format cutting with
    | (s, some fault) => return (s, .error fault)
    | (s, none) =>
      Logged.record (.finished report.outcomes.length report.failures.length)
      return (s, .ok report)

/-- Run a mission and write its report to an output with the given room. -/
def run (settings : Settings) (room : Option Nat) (label : Text) (source : Except Fault Text) :
    Logged Delivery := do
  let (o, result) ← runOn Output.writer { room } settings label source
  return { output := o.taken, result }

end Delivery
end RoverMission

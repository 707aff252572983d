/-
The program.

A run is a function of what the program can see: its arguments, standard input,
the files and the variables of the environment.  Flags are read first, then the
configuration file they name; only then does logging begin, and the settings are
checked before the mission is read.  Events are filtered last, so the log never
has a say in anything else.
-/
import RoverMission.Delivery
import RoverMission.Config.Loading
import RoverMission.Filter
import RoverMission.Log
import RoverMission.Flags.Reader

namespace RoverMission

structure World where
  arguments : List Text
  stdin : ByteArray
  files : Text → Except IoFault ByteArray
  -- Quoted, as Mathlib reserves the bare word.
  «variables» : Text → Option Text

/-- What a run leaves behind, the log apart. -/
structure Exit where
  code : Nat
  stdout : List UInt8 := []
  /-- Messages to the operator, each for a line of its own. -/
  messages : List Text := []
  deriving DecidableEq

namespace Program

/-- What comes of a run. -/
inductive Result
  | usage (fault : UsageFault)
  | finished (exit : Exit) (log : Log)
  deriving DecidableEq

/-- The configuration that the flags ask for; without one nothing is set. -/
def config (files : Text → Except IoFault ByteArray) (lookup : Text → Option Text)
    (flags : Flags) : Except Fault Config :=
  match flags.config with
  | none => .ok {}
  | some path => Config.load files lookup path

def failed (fault : Fault) : Exit := { code := fault.exitCode, messages := [fault.operatorLine] }

/-- Tell of a fault and leave. -/
def fail (fault : Fault) : Logged Exit := do
  Logged.record (.failed fault)
  Logged.record (.suggested fault)
  return failed fault

def settings (flags : Flags) (config : Config) : Settings :=
  Settings.layered [config.layer, flags.layer]

/-- The text of a mission source. -/
def sourceText (stdin : ByteArray) (files : Text → Except IoFault ByteArray) :
    Source → Except Fault Text
  | .stdin => (Source.decode stdin).mapError .io
  | .file path => Source.fileText files path

/-- The mission source of a run whose settings pass their checks. -/
def source (flags : Flags) (config : Config) : Except Fault Source := do
  flags.check
  config.check
  return Source.ofArgument flags.input

/-- Run with flags and a configuration. -/
def perform (flags : Flags) (config : Config) (read : Source → Except Fault Text) :
    Logged Exit := do
  Logged.record (.configured flags)
  match source flags config with
  | .error fault => fail fault
  | .ok source =>
    let d ← Delivery.run (settings flags config) none source.label (read source)
    match d.result with
    | .error fault => return { ← fail fault with stdout := d.output }
    | .ok report =>
      return {
        code := if report.hasFailures then 1 else 0
        stdout := d.output
        messages := report.failures.map Fault.operatorLine }

def logVariable : Text := "RUST_LOG"

/-- Run the program. -/
def run (w : World) : Result :=
  match Flags.ofArguments w.arguments with
  | .error fault => .usage fault
  | .ok flags =>
    match config w.files w.«variables» flags with
    | .error fault => .finished (failed fault) { json := false, events := [] }
    | .ok config =>
      let performed := perform flags config (sourceText w.stdin w.files)
      let operator := w.«variables» logVariable
      let filter := Filter.inForce operator flags.verbose config.logLevel
      .finished performed.value {
        json := config.jsonLogs
        notices := Filter.notices operator flags.verbose config.logLevel
        events := performed.events.filter filter.passes }

end Program
end RoverMission

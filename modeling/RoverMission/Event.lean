/-
Events: what is worth telling about a run.

An event says what happened; its level, the part of the program it comes from
and its wording follow from that.
-/
import RoverMission.Flags
import RoverMission.Text.Inspect

namespace RoverMission

inductive Level
  | trace
  | debug
  | info
  | warn
  | error
  deriving DecidableEq

/-- The parts of the program that report events. -/
inductive Origin
  | program
  | engine
  | reader
  | runner
  deriving DecidableEq

inductive Event
  | configured (flags : Flags)
  | failed (fault : Fault)
  | suggested (fault : Fault)
  | reading (source : Text)
  | missionRead (plateau : Plateau) (rovers : Nat)
  | running (rovers : Nat) (policy : BoundaryPolicy) (mode : ErrorMode)
  | moveSkipped (rover instruction : Nat) (pose : Pose)
  | roverFinished (rover : Nat) (pose : Pose) (skipped wrapped : Nat) (halted : Bool)
  | roverFailed (rover : Nat) (fault : Fault)
  | finished (rovers failures : Nat)
  deriving DecidableEq

def Level.name : Level → Text
  | trace => "TRACE"
  | debug => "DEBUG"
  | info => "INFO"
  | warn => "WARN"
  | error => "ERROR"

/-- Detail of a level: errors have the least, traces the most. -/
def Level.detail : Level → Nat
  | error => 1
  | warn => 2
  | info => 3
  | debug => 4
  | trace => 5

/-- The name by which log directives select the events of an origin. -/
def Origin.target : Origin → Text
  | program => "mars_rover"
  | engine => "mars_rover::core::engine"
  | reader => "mars_rover::core::parser"
  | runner => "mars_rover::core::runner"

def Flags.inspect (flags : Flags) : Text :=
  Inspect.record "CliConfig"
    [("strict", Inspect.bool flags.strict),
     ("ignore_oob", Inspect.bool flags.ignoreOob),
     ("stop_on_oob", Inspect.bool flags.stopOnOob),
     ("wrap", Inspect.bool flags.wrap),
     ("fail_fast", Inspect.bool flags.failFast),
     ("collect_errors", Inspect.bool flags.collectErrors),
     ("input", Inspect.optional (flags.input.map Inspect.text)),
     ("config", Inspect.optional (flags.config.map Inspect.text)),
     ("format", Inspect.optional (flags.format.map OutputFormat.label)),
     ("verbose", Inspect.bool flags.verbose)]

namespace Event

/-- The names of the fields that an event has. -/
def fields : List Text := ["message"]

def level : Event → Level
  | configured _ | failed _ | suggested _ => .debug
  | missionRead _ _ | roverFinished _ _ _ _ _ | roverFailed _ _ => .debug
  | reading _ | running _ _ _ | finished _ _ => .info
  | moveSkipped _ _ _ => .trace

def origin : Event → Origin
  | configured _ | failed _ | suggested _ => .program
  | reading _ | running _ _ _ | finished _ _ => .engine
  | missionRead _ _ => .reader
  | moveSkipped _ _ _ | roverFinished _ _ _ _ _ | roverFailed _ _ => .runner

def message : Event → Text
  | configured flags => "CLI config: " ++ flags.inspect
  | failed fault =>
    "Mission failed: " ++ fault.message ++ " (Category: " ++ fault.category.name
      ++ ", Severity: " ++ fault.severity.name ++ ")"
  | suggested fault => "Recovery suggestion: " ++ fault.suggestion
  | reading source => "Reading mission from " ++ source
  | missionRead plateau rovers =>
    "Parsed mission: plateau " ++ Numeral.ofCoordinate plateau.maxX ++ "x"
      ++ Numeral.ofCoordinate plateau.maxY ++ ", " ++ Numeral.ofNat rovers ++ " rover(s)"
  | running rovers policy mode =>
    "Running " ++ Numeral.ofNat rovers ++ " rover(s) with policy " ++ policy.label
      ++ ", error mode " ++ mode.label
  | moveSkipped rover instruction pose =>
    "Rover #" ++ Numeral.ofNat rover ++ " skipping move " ++ Numeral.ofNat instruction
      ++ " at " ++ pose.text
  | roverFinished rover pose skipped wrapped halted =>
    "Rover #" ++ Numeral.ofNat rover ++ " finished at " ++ pose.text ++ " (skipped: "
      ++ Numeral.ofNat skipped ++ ", wrapped: " ++ Numeral.ofNat wrapped ++ ", halted: "
      ++ Inspect.bool halted ++ ")"
  | roverFailed rover fault => "Rover #" ++ Numeral.ofNat rover ++ " failed: " ++ fault.message
  | finished rovers failures =>
    "Mission finished: " ++ Numeral.ofNat rovers ++ " rover(s), " ++ Numeral.ofNat failures
      ++ " failure(s)"

end Event
end RoverMission

/-
Configuration files.

A configuration says for the mission, the output and the log what is to be the
default; every setting may be left out.  It is the lowest layer of settings.
-/
import RoverMission.Flags

namespace RoverMission

structure Config where
  policy : Option BoundaryPolicy := none
  errorMode : Option ErrorMode := none
  format : Option OutputFormat := none
  logLevel : Option Text := none
  logFormat : Option Text := none
  deriving DecidableEq

namespace Config

def layer (config : Config) : Layer where
  policy := config.policy
  errorMode := config.errorMode
  format := config.format

/-- Whether log lines are to be JSON. -/
def jsonLogs (config : Config) : Bool := config.logFormat == some "json".toList

/-- The level and the form of the log have to be known ones. -/
def check (config : Config) : Except Fault Unit := do
  if let some level := config.logLevel then checkOneOf "logging.level" level logLevels
  if let some format := config.logFormat then checkOneOf "logging.format" format logFormats

end Config
end RoverMission

/-
Writing configurations.

A configuration is written as one table for each section, with the settings that
are made and nothing else.
-/
import RoverMission.Config
import RoverMission.Toml.Quoted

namespace RoverMission
namespace Config

def entry (name value : Text) : Text := name ++ " = \"" ++ Toml.escape value ++ "\"\n"

def optionalEntry (name : Text) (value : Option Text) : Text := (value.map (entry name)).getD []

def header (name : Text) : Text := "[" ++ name ++ "]\n"

/-- The text of a configuration file that makes the settings of a configuration. -/
def text (config : Config) : Text :=
  header "mission"
    ++ optionalEntry "boundary_policy" (config.policy.map BoundaryPolicy.name)
    ++ optionalEntry "error_mode" (config.errorMode.map ErrorMode.name)
    ++ header "output"
    ++ optionalEntry "format" (config.format.map OutputFormat.name)
    ++ header "logging"
    ++ optionalEntry "level" config.logLevel
    ++ optionalEntry "format" config.logFormat

end Config
end RoverMission

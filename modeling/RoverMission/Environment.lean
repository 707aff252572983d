/-
The environment of a run.

The environment is a list of definitions, each a name, an equals sign and a
value.  A variable is looked up by its name and the equals sign behind it, so a
name may itself reach beyond the first equals sign of a definition.
-/
import RoverMission.Text

namespace RoverMission

abbrev Environment := List Text

namespace Environment

def definition (name value : Text) : Text := name ++ '=' :: value

/-- The value of a variable, by the first definition that has one. -/
def lookup (environment : Environment) (name : Text) : Option Text :=
  environment.findSome? (Text.after? (name ++ ['=']))

theorem lookup_definition (name value : Text) (environment : Environment) :
    lookup (definition name value :: environment) name = some value := by
  have h : definition name value = (name ++ ['=']) ++ value := by simp [definition]
  rw [lookup, List.findSome?_cons, h, Text.after?_append]

end Environment
end RoverMission

/-
Inspection texts: the form in which values are shown to a developer.

A record is its name and its fields between braces, an optional value is
wrapped, and a text stands between double quotes with every character escaped
that could not be told apart by looking at it.
-/
import RoverMission.Text
import RoverMission.Text.Printable
import RoverMission.Text.Combining

namespace RoverMission
namespace Inspect

/-- A character between double quotes. -/
def character (c : Char) : Text :=
  if c = '\x00' then "\\0"
  else if c = '\t' then "\\t"
  else if c = '\r' then "\\r"
  else if c = '\n' then "\\n"
  else if c = '\\' ∨ c = '"' then ['\\', c]
  else if Text.isPrintable c && !Text.isCombining c then [c]
  else "\\u\x7b" ++ Nat.toDigits 16 c.toNat ++ "\x7d"

def text (t : Text) : Text := "\"" ++ t.flatMap character ++ "\""

def bool : Bool → Text
  | true => "true"
  | false => "false"

def optional : Option Text → Text
  | none => "None"
  | some shown => "Some(" ++ shown ++ ")"

def record (name : Text) (fields : List (Text × Text)) : Text :=
  name ++ " \x7b " ++ Text.joined ", " (fields.map fun f => f.1 ++ ": " ++ f.2) ++ " \x7d"

end Inspect
end RoverMission

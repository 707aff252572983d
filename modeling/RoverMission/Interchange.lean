/-
JSON forms of the domain's values.

A name of an enumeration is a string, or an object with that name as its only
key and null behind it.  A structure is an object or the list of its fields.
Positions, poses and plateaus need every field and ignore other keys; the
sections of a configuration default what is missing and refuse other keys.
-/
import RoverMission.Config
import RoverMission.Json.Reader
import RoverMission.Text.Inspect

namespace RoverMission
namespace Interchange

/-- The name of an alternative. -/
def choiceName? : Json → Option Text
  | .string inside => Json.unescape inside
  | .object [(inside, .null)] => Json.unescape inside
  | _ => none

def choice? {α : Type} (ofName? : Text → Option α) (v : Json) : Option α :=
  (choiceName? v).bind ofName?

/-- Members with their names read. -/
def members? (members : List (Text × Json)) : Option (List (Text × Json)) :=
  members.mapM fun m => do return (← Json.unescape m.1, m.2)

/-- The values of a structure's fields, which all have to be there once. -/
def fields? (names : List Text) : Json → Option (List Json)
  | .array items => if items.length = names.length then some items else none
  | .object members => do
    let members ← members? members
    names.mapM fun name =>
      match members.filter (·.1 == name) with
      | [m] => some m.2
      | _ => none
  | _ => none

/-- The values of a structure's fields as far as they are there; no others may
be. -/
def optionalFields? (names : List Text) : Json → Option (List (Option Json))
  | .array items =>
    if items.length ≤ names.length then
      some (items.map some ++ List.replicate (names.length - items.length) none)
    else
      none
  | .object members => do
    let members ← members? members
    if members.all fun m => names.contains m.1 then
      names.mapM fun name =>
        match members.filter (·.1 == name) with
        | [] => some none
        | [m] => some (some m.2)
        | _ => none
    else
      none
  | _ => none

/-- A setting that may be left out or null. -/
def setting? {α : Type} (read : Json → Option α) : Option Json → Option (Option α)
  | none => some none
  | some .null => some none
  | some v => (read v).map some

def inspectSetting {α : Type} (text : α → Text) (a : Option α) : Text :=
  Inspect.optional (a.map text)

end Interchange

open Interchange

namespace Heading

def ofJson? (v : Json) : Option Heading := choice? ofText? v

def toJson (h : Heading) : Json := .ofText [h.letter]

def inspect (h : Heading) : Text := [h.letter]

end Heading

namespace BoundaryPolicy

def ofJson? (v : Json) : Option BoundaryPolicy := choice? ofName? v

def toJson (policy : BoundaryPolicy) : Json := .ofText policy.name

end BoundaryPolicy

namespace ErrorMode

def ofJson? (v : Json) : Option ErrorMode := choice? ofName? v

def toJson (mode : ErrorMode) : Json := .ofText mode.name

end ErrorMode

namespace OutputFormat

def ofJson? (v : Json) : Option OutputFormat := choice? ofName? v

def toJson (format : OutputFormat) : Json := .ofText format.name

end OutputFormat

namespace Position

def ofJson? (v : Json) : Option Position := do
  match ← fields? ["x", "y"] v with
  | [x, y] => return { x := ← x.coordinate?, y := ← y.coordinate? }
  | _ => none

def toJson (p : Position) : Json := .record [("x", .ofInt p.x.toInt), ("y", .ofInt p.y.toInt)]

def inspect (p : Position) : Text :=
  Inspect.record "Position" [("x", Numeral.ofCoordinate p.x), ("y", Numeral.ofCoordinate p.y)]

end Position

namespace Pose

def ofJson? (v : Json) : Option Pose := do
  match ← fields? ["position", "heading"] v with
  | [position, heading] =>
    return { position := ← Position.ofJson? position, heading := ← Heading.ofJson? heading }
  | _ => none

def toJson (p : Pose) : Json :=
  .record [("position", p.position.toJson), ("heading", p.heading.toJson)]

def inspect (p : Pose) : Text :=
  Inspect.record "Pose" [("position", p.position.inspect), ("heading", p.heading.inspect)]

end Pose

namespace Plateau

/-- The corner is not looked at: a plateau read from JSON may be unsound. -/
def ofJson? (v : Json) : Option Plateau := do
  match ← fields? ["max_x", "max_y"] v with
  | [x, y] => return { maxX := ← x.coordinate?, maxY := ← y.coordinate? }
  | _ => none

def toJson (plateau : Plateau) : Json :=
  .record [("max_x", .ofInt plateau.maxX.toInt), ("max_y", .ofInt plateau.maxY.toInt)]

def inspect (plateau : Plateau) : Text :=
  Inspect.record "Plateau"
    [("max_x", Numeral.ofCoordinate plateau.maxX), ("max_y", Numeral.ofCoordinate plateau.maxY)]

end Plateau

namespace Config

/-- The fields of a section, none of them set if the section is left out. -/
def section? (names : List Text) : Option Json → Option (List (Option Json))
  | none => some (names.map fun _ => none)
  | some v => optionalFields? names v

def ofJson? (v : Json) : Option Config := do
  match ← optionalFields? ["mission", "output", "logging"] v with
  | [mission, output, logging] =>
    match ← section? ["boundary_policy", "error_mode"] mission, ← section? ["format"] output,
        ← section? ["level", "format"] logging with
    | [policy, errorMode], [format], [logLevel, logFormat] =>
      return {
        policy := ← setting? BoundaryPolicy.ofJson? policy
        errorMode := ← setting? ErrorMode.ofJson? errorMode
        format := ← setting? OutputFormat.ofJson? format
        logLevel := ← setting? Json.text? logLevel
        logFormat := ← setting? Json.text? logFormat }
    | _, _, _ => none
  | _ => none

def toJson (config : Config) : Json :=
  .record
    [("mission", .record
      [("boundary_policy", .ofOption (config.policy.map BoundaryPolicy.toJson)),
       ("error_mode", .ofOption (config.errorMode.map ErrorMode.toJson))]),
     ("output", .record [("format", .ofOption (config.format.map OutputFormat.toJson))]),
     ("logging", .record
      [("level", .ofOption (config.logLevel.map Json.ofText)),
       ("format", .ofOption (config.logFormat.map Json.ofText))])]

def inspect (config : Config) : Text :=
  Inspect.record "TomlConfig"
    [("mission", Inspect.record "MissionSection"
      [("boundary_policy", inspectSetting BoundaryPolicy.label config.policy),
       ("error_mode", inspectSetting ErrorMode.label config.errorMode)]),
     ("output", Inspect.record "OutputSection"
      [("format", inspectSetting OutputFormat.label config.format)]),
     ("logging", Inspect.record "LoggingSection"
      [("level", inspectSetting Inspect.text config.logLevel),
       ("format", inspectSetting Inspect.text config.logFormat)])]

end Config
end RoverMission

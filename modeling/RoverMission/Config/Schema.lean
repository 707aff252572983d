/-
The schema of configuration documents.

A section is a table whose keys are looked at in the order of their names, or a
list of values for its fields in their own order.  A choice is the name of one
alternative, or a table with that name as its only key and nothing in it.  Names
that the schema does not have are complained about; everything else that does
not fit is refused without a complaint of its own.
-/
import RoverMission.Config
import RoverMission.Toml

namespace RoverMission
namespace Schema

/-- A value refused, with a complaint if a name is at fault. -/
abbrev Refusable (α : Type) := Except (Option Complaint) α

/-- A setting of a section and how its value changes a configuration. -/
structure Field where
  name : Text
  set : Config → Toml → Refusable Config

def fieldNames (fields : List Field) : List Text := fields.map Field.name

/-- The key that a date or time shows where a table is expected. -/
def dateTimeKey : Text := "$__toml_private_datetime"

def setMember (fields : List Field) (config : Config) (member : Text × Toml) : Refusable Config :=
  match fields.find? (·.name == member.1) with
  | some field => field.set config member.2
  | none => .error (some (.unknownField member.1 (fieldNames fields)))

/-- Members in the order of their names. -/
def sorted (members : List (Text × Toml)) : List (Text × Toml) :=
  members.mergeSort fun a b => !decide (b.1 < a.1)

def readMembers (fields : List Field) (config : Config) (members : List (Text × Toml)) :
    Refusable Config :=
  (sorted members).foldlM (setMember fields) config

theorem readMembers_singleton (fields : List Field) (config : Config) (member : Text × Toml) :
    readMembers fields config [member] = setMember fields config member := by
  rw [readMembers, sorted, List.mergeSort_singleton, List.foldlM_cons]
  exact bind_pure _

def readSection (fields : List Field) (config : Config) : Toml → Refusable Config
  | .table members => readMembers fields config members
  | .array items => (fields.zip items).foldlM (fun config f => f.1.set config f.2) config
  | .dateTime _ => .error (some (.unknownField dateTimeKey (fieldNames fields)))
  | _ => .error none

def variant {α : Type} (all : List α) (name : α → Text) (t : Text) : Refusable α :=
  match all.find? (name · == t) with
  | some a => .ok a
  | none => .error (some (.unknownVariant t (all.map name)))

def readChoice {α : Type} (all : List α) (name : α → Text) : Toml → Refusable α
  | .string t => variant all name t
  | .table [(t, content)] => do
    let a ← variant all name t
    match content with
    | .table [] => return a
    | .array [] => return a
    | _ => throw none
  | _ => .error none

def readText : Toml → Refusable Text
  | .string t => .ok t
  | _ => .error none

def missionFields : List Field :=
  [{ name := "boundary_policy"
     set := fun config v => return { config with
       policy := some (← readChoice BoundaryPolicy.all BoundaryPolicy.name v) } },
   { name := "error_mode"
     set := fun config v => return { config with
       errorMode := some (← readChoice ErrorMode.all ErrorMode.name v) } }]

def outputFields : List Field :=
  [{ name := "format"
     set := fun config v => return { config with
       format := some (← readChoice OutputFormat.all OutputFormat.name v) } }]

def loggingFields : List Field :=
  [{ name := "level", set := fun config v => return { config with logLevel := some (← readText v) } },
   { name := "format"
     set := fun config v => return { config with logFormat := some (← readText v) } }]

def sections : List Field :=
  [{ name := "mission", set := readSection missionFields },
   { name := "output", set := readSection outputFields },
   { name := "logging", set := readSection loggingFields }]

/-- The configuration that the members of a document give. -/
def readDocument (members : List (Text × Toml)) : Refusable Config :=
  readMembers sections {} members

end Schema
end RoverMission

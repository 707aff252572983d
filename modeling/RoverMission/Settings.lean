/-
Run settings and their layers.

A layer says for each setting what it is, or nothing.  Layers are laid over the
defaults from the lowest to the highest, so the highest layer that says
something decides (`layered_append`).
-/
import RoverMission.Text

namespace RoverMission

/-- What becomes of a move that would leave the plateau. -/
inductive BoundaryPolicy
  | strict
  | ignore
  | stop
  | wrap
  deriving DecidableEq

/-- Whether the first failing rover ends the mission. -/
inductive ErrorMode
  | failFast
  | collect
  deriving DecidableEq

inductive OutputFormat
  | text
  | json
  | csv
  deriving DecidableEq

namespace BoundaryPolicy

def all : List BoundaryPolicy := [strict, ignore, stop, wrap]

def name : BoundaryPolicy → Text
  | strict => "strict"
  | ignore => "ignore-oob"
  | stop => "stop-on-oob"
  | wrap => "wrap"

/-- The form in which a policy is shown in log messages. -/
def label : BoundaryPolicy → Text
  | strict => "Strict"
  | ignore => "IgnoreOob"
  | stop => "StopOnOob"
  | wrap => "Wrap"

def ofName? (t : Text) : Option BoundaryPolicy := all.find? (·.name == t)

theorem ofName?_name (policy : BoundaryPolicy) : ofName? policy.name = some policy := by
  cases policy <;> decide

end BoundaryPolicy

namespace ErrorMode

def all : List ErrorMode := [failFast, collect]

def name : ErrorMode → Text
  | failFast => "fail-fast"
  | collect => "collect-errors"

def label : ErrorMode → Text
  | failFast => "FailFast"
  | collect => "CollectErrors"

def ofName? (t : Text) : Option ErrorMode := all.find? (·.name == t)

theorem ofName?_name (mode : ErrorMode) : ofName? mode.name = some mode := by
  cases mode <;> decide

end ErrorMode

namespace OutputFormat

def all : List OutputFormat := [text, json, csv]

def name : OutputFormat → Text
  | text => "text"
  | json => "json"
  | csv => "csv"

def label : OutputFormat → Text
  | text => "Text"
  | json => "Json"
  | csv => "Csv"

def ofName? (t : Text) : Option OutputFormat := all.find? (·.name == t)

theorem ofName?_name (format : OutputFormat) : ofName? format.name = some format := by
  cases format <;> decide

end OutputFormat

structure Settings where
  policy : BoundaryPolicy := .strict
  errorMode : ErrorMode := .failFast
  format : OutputFormat := .text
  deriving DecidableEq

/-- What one source of settings says; `none` leaves a setting to lower layers. -/
structure Layer where
  policy : Option BoundaryPolicy := none
  errorMode : Option ErrorMode := none
  format : Option OutputFormat := none
  deriving DecidableEq

namespace Settings

def overlay (settings : Settings) (layer : Layer) : Settings where
  policy := layer.policy.getD settings.policy
  errorMode := layer.errorMode.getD settings.errorMode
  format := layer.format.getD settings.format

/-- The settings that layers give, lowest layer first. -/
def layered (layers : List Layer) : Settings := layers.foldl overlay {}

theorem layered_append (lower upper : List Layer) :
    layered (lower ++ upper) = upper.foldl overlay (layered lower) := by
  simp [layered]

end Settings
end RoverMission

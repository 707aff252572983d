/-
Command line flags.

The flags are kept as they were given, one field each, so that several policies
may be set at once in a value built by hand.  As a layer of settings the first
of them in the order of the fields counts.
-/
import RoverMission.Settings
import RoverMission.Fault

namespace RoverMission

structure Flags where
  strict : Bool := false
  ignoreOob : Bool := false
  stopOnOob : Bool := false
  wrap : Bool := false
  failFast : Bool := false
  collectErrors : Bool := false
  input : Option Text := none
  config : Option Text := none
  format : Option OutputFormat := none
  verbose : Bool := false
  deriving DecidableEq

namespace Flags

def policy? (flags : Flags) : Option BoundaryPolicy :=
  if flags.strict then some .strict
  else if flags.ignoreOob then some .ignore
  else if flags.stopOnOob then some .stop
  else if flags.wrap then some .wrap
  else none

def errorMode? (flags : Flags) : Option ErrorMode :=
  if flags.collectErrors then some .collect
  else if flags.failFast then some .failFast
  else none

def layer (flags : Flags) : Layer where
  policy := flags.policy?
  errorMode := flags.errorMode?
  format := flags.format

end Flags

/-- A path has at least one character and no NUL. -/
def checkPath (field path : Text) : Except Fault Unit :=
  if path = [] then .error (.setting field path .emptyPath)
  else if '\x00' ∈ path then .error (.setting field path .nulInPath)
  else .ok ()

def logLevels : List Text := ["trace", "debug", "info", "warn", "error"]

def logFormats : List Text := ["compact", "json"]

def checkOneOf (field value : Text) (allowed : List Text) : Except Fault Unit :=
  if value ∈ allowed then .ok () else .error (.setting field value (.notOneOf allowed))

namespace Flags

def check (flags : Flags) : Except Fault Unit := do
  if let some path := flags.input then checkPath "input" path
  if let some path := flags.config then checkPath "config" path

end Flags
end RoverMission

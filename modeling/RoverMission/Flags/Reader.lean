/-
Reading command line arguments.

Arguments are first taken apart into requests, which are then granted from left
to right until one is refused.  An option takes the value attached to it, or
else the next argument; a value that is an argument of its own is requested only
when the next known switch or option comes, or at the end, so an argument that
cannot be read at all is reported before it.  A switch turns off the switches that
it overrides, and of repeated options the last one counts.
-/
import RoverMission.Flags

namespace RoverMission

/-- Why arguments give no flags. -/
inductive UsageFault
  | unknownArgument
  | invalidValue
  | tooManyValues
  | help
  deriving DecidableEq

/-- Asking for help is no mistake. -/
def UsageFault.exitCode : UsageFault → Nat
  | help => 0
  | _ => 2

/-- Arguments that take no value. -/
inductive Switch
  | policy (policy : BoundaryPolicy)
  | mode (mode : ErrorMode)
  | verbose
  | help
  deriving DecidableEq

/-- Arguments that take a value. -/
inductive Valued
  | input
  | config
  | format
  deriving DecidableEq

namespace Switch

def ofName? (t : Text) : Option Switch :=
  if t = "verbose".toList then some verbose
  else if t = "help".toList then some help
  else
    match BoundaryPolicy.ofName? t, ErrorMode.ofName? t with
    | some p, _ => some (policy p)
    | none, some m => some (mode m)
    | none, none => none

def ofLetter? : Char → Option Switch
  | 'v' => some verbose
  | 'h' => some help
  | _ => none

/-- The switches that a switch overrides, as each one lists them. -/
def overrides : Switch → List Switch
  | policy .strict => [policy .ignore, policy .stop, policy .wrap]
  | policy .ignore => [policy .strict, policy .stop, policy .wrap]
  | policy .stop => [policy .strict, policy .ignore, policy .wrap]
  | policy .wrap => [policy .strict, policy .ignore, policy .stop]
  | mode .failFast => [mode .collect]
  | mode .collect => [mode .failFast]
  | verbose => []
  | help => []

end Switch

namespace Valued

def ofName? (t : Text) : Option Valued :=
  if t = "input".toList then some input
  else if t = "config".toList then some config
  else if t = "format".toList then some format
  else none

def ofLetter? : Char → Option Valued
  | 'i' => some input
  | 'c' => some config
  | 'f' => some format
  | _ => none

end Valued

namespace Flags

/-- Flags with one switch on or off; there is no flag for help. -/
def put (flags : Flags) (on : Bool) : Switch → Flags
  | .policy .strict => { flags with strict := on }
  | .policy .ignore => { flags with ignoreOob := on }
  | .policy .stop => { flags with stopOnOob := on }
  | .policy .wrap => { flags with wrap := on }
  | .mode .failFast => { flags with failFast := on }
  | .mode .collect => { flags with collectErrors := on }
  | .verbose => { flags with verbose := on }
  | .help => flags

/-- An option set to a value, which may not be empty. -/
def assign (flags : Flags) (option : Valued) (value : Text) : Except UsageFault Flags :=
  if value = [] then .error .invalidValue
  else
    match option with
    | .input => .ok { flags with input := some value }
    | .config => .ok { flags with config := some value }
    | .format =>
      match OutputFormat.ofName? value with
      | some format => .ok { flags with format := some format }
      | none => .error .invalidValue

/-- A switch comes on, and those that it overrides go off. -/
def turnOn (flags : Flags) : Switch → Except UsageFault Flags
  | .help => .error .help
  | s => .ok ((s.overrides.foldl (put · false) flags).put true s)

/-- What arguments ask for, one thing after the other. -/
inductive Request
  | switch (s : Switch)
  | assign (option : Valued) (value : Text)
  | refuse (fault : UsageFault)
  deriving DecidableEq

/-- Flags after one more request. -/
def grant (flags : Flags) : Request → Except UsageFault Flags
  | .switch s => flags.turnOn s
  | .assign option value => flags.assign option value
  | .refuse fault => .error fault

/-- The last option, if no value was attached to it, and the argument that came
after it as its value. -/
abbrev Awaited := Option (Valued × Option Text)

namespace Request

/-- What an option without an attached value comes to. -/
def settle : Awaited → List Request
  | none => []
  | some (_, none) => [refuse .invalidValue]
  | some (option, some value) => [assign option value]

/-- The requests of an argument that begins with two dashes, without them. -/
def ofLong (awaited : Awaited) (argument : Text) : List Request × Awaited :=
  let (name, value) := Text.run (· != '=') argument
  match Switch.ofName? name, Valued.ofName? name, value with
  | some s, _, [] => (settle awaited ++ [switch s], none)
  | some _, _, _ => ([refuse .tooManyValues], none)
  | none, some option, [] => (settle awaited, some (option, none))
  | none, some option, _ :: value => (settle awaited ++ [assign option value], none)
  | none, none, _ => ([refuse .unknownArgument], none)

/-- The requests of an argument that begins with one dash, without it: switches,
of which the last may be an option with the rest as its value. -/
def ofShort (awaited : Awaited) : Text → List Request × Awaited
  | [] => ([], awaited)
  | c :: rest =>
    match Switch.ofLetter? c, Valued.ofLetter? c with
    | some s, _ =>
      let (requests, awaited') := ofShort none rest
      (settle awaited ++ switch s :: requests, awaited')
    | none, some option =>
      match rest with
      | [] => (settle awaited, some (option, none))
      | '=' :: value => (settle awaited ++ [assign option value], none)
      | value => (settle awaited ++ [assign option value], none)
    | none, none => ([refuse .unknownArgument], none)

/-- An argument that can only be a value. -/
def ofValue (awaited : Awaited) (argument : Text) : List Request × Awaited :=
  match awaited with
  | some (option, none) => ([], some (option, some argument))
  | _ => ([refuse .unknownArgument], none)

def ofArgument (awaited : Awaited) : Text → List Request × Awaited
  | '-' :: '-' :: rest => ofLong awaited rest
  | '-' :: c :: rest => ofShort awaited (c :: rest)
  | plain => ofValue awaited plain

/-- The requests of arguments; two dashes alone may only be the last one. -/
def ofArguments (awaited : Awaited) : List Text → List Request
  | [] => settle awaited
  | [['-', '-']] => settle awaited
  | ['-', '-'] :: _ => [refuse .unknownArgument]
  | argument :: rest =>
    let (requests, awaited') := ofArgument awaited argument
    requests ++ ofArguments awaited' rest

end Request

/-- The flags that command line arguments give. -/
def ofArguments (arguments : List Text) : Except UsageFault Flags :=
  (Request.ofArguments none arguments).foldlM grant {}

end Flags
end RoverMission

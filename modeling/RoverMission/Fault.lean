/-
Faults.

A fault is the cause for which a mission or the program fails.  Causes are kept
apart by what went wrong, and `Fault.message` is the one place where their
wording stands.  The category decides severity, exit code and the heading of the
line an operator reads.
-/
import RoverMission.Json.Message
import RoverMission.Plateau

namespace RoverMission

/-- Why a file or an output could not be used. -/
inductive IoFault
  | notFound
  | isDirectory
  | notDirectory
  | notUtf8
  | nulInPath
  | nameTooLong
  | outputFull
  | other (message : Text)
  deriving DecidableEq

/-- Why a mission text is no mission. -/
inductive MissionFault
  | empty
  | plateauLine (line : Text)
  | negativeCorner (x y : Coordinate)
  | unpairedLine
  | startLine (rover : Nat) (line : Text)
  | startHeading (rover : Nat) (word : Text)
  | startOutside (rover : Nat) (start : Position) (plateau : Plateau)
  | heading (word : Text)
  | other (message : Text)
  deriving DecidableEq

/-- A name that a configuration schema does not have. -/
inductive Complaint
  | unknownField (name : Text) (expected : List Text)
  | unknownVariant (name : Text) (expected : List Text)
  deriving DecidableEq

/-- Why a configuration could not be loaded. -/
inductive ConfigFault
  | unreadable (path : Text) (cause : IoFault)
  | malformed (complaint : Option Complaint)
  | other (message : Text)
  deriving DecidableEq

/-- Why the value of a setting is refused. -/
inductive SettingFault
  | emptyPath
  | nulInPath
  | notOneOf (allowed : List Text)
  | other (reason : Text)
  deriving DecidableEq

inductive Fault
  | command (letter : Char)
  | instructions (rover : Nat) (line : Text)
  | outOfBounds (rover instruction : Nat) (pose : Pose)
  | mission (cause : MissionFault)
  | config (cause : ConfigFault)
  | setting (field value : Text) (cause : SettingFault)
  | io (cause : IoFault)
  | jsonOutput (cause : IoFault)
  | csvOutput (cause : IoFault)
  deriving DecidableEq

def IoFault.message : IoFault → Text
  | notFound => "No such file or directory (os error 2)"
  | isDirectory => "Is a directory (os error 21)"
  | notDirectory => "Not a directory (os error 20)"
  | notUtf8 => "stream did not contain valid UTF-8"
  | nulInPath => "file name contained an unexpected NUL byte"
  | nameTooLong => "File name too long (os error 36)"
  | outputFull => "disk full"
  | other message => message

def MissionFault.message : MissionFault → Text
  | empty => "Input cannot be empty"
  | plateauLine line => "Plateau line invalid (expected \"X Y\"): \"" ++ line ++ "\""
  | negativeCorner x y =>
    "Plateau coordinates must be non-negative: " ++ Numeral.ofCoordinate x ++ " "
      ++ Numeral.ofCoordinate y
  | unpairedLine =>
    "Rover specifications must come in pairs (position line + instructions line)"
  | startLine rover line =>
    "Rover #" ++ Numeral.ofNat rover ++ " position invalid (expected \"X Y HEADING\"): \""
      ++ line ++ "\""
  | startHeading rover word =>
    "Rover #" ++ Numeral.ofNat rover ++ " invalid heading (expected N, E, S, or W): \""
      ++ word ++ "\""
  | startOutside rover start plateau =>
    "Rover #" ++ Numeral.ofNat rover ++ " start out of bounds: ("
      ++ Numeral.ofCoordinate start.x ++ "," ++ Numeral.ofCoordinate start.y
      ++ ") > plateau (" ++ Numeral.ofCoordinate plateau.maxX ++ ","
      ++ Numeral.ofCoordinate plateau.maxY ++ ")"
  | heading word => "invalid heading (expected N, E, S, or W): \"" ++ word ++ "\""
  | other message => message

namespace Complaint

def quoted (name : Text) : Text := "`" ++ name ++ "`"

/-- One name stands alone, two are joined by a word, more are listed. -/
def alternatives : List Text → Text
  | [a] => quoted a
  | [a, b] => quoted a ++ " or " ++ quoted b
  | names => "one of " ++ Text.joined ", " (names.map quoted)

def message : Complaint → Text
  | unknownField name expected =>
    "unknown field " ++ quoted name ++ ", expected " ++ alternatives expected
  | unknownVariant name expected =>
    "unknown variant " ++ quoted name ++ ", expected " ++ alternatives expected

end Complaint

def ConfigFault.message : ConfigFault → Text
  | unreadable path cause => "cannot read '" ++ path ++ "': " ++ cause.message
  | malformed complaint =>
    "TOML parsing error: " ++ (complaint.map Complaint.message).getD []
  | other message => message

def SettingFault.message : SettingFault → Text
  | emptyPath => "Path cannot be empty"
  | nulInPath => "Path contains null bytes"
  | notOneOf allowed => "Valid values: " ++ Text.joined ", " allowed
  | other reason => reason

namespace Fault

/-- The fault of an output in JSON that failed with a message. -/
def ofJsonMessage (message : Text) : Fault :=
  .jsonOutput (.other (Json.Message.ofText message).toText)

inductive Category
  | input
  | execution
  | configuration
  | system
  deriving DecidableEq

inductive Severity
  | medium
  | high
  | critical
  deriving DecidableEq

def message : Fault → Text
  | command letter => "Invalid command '" ++ [letter] ++ "' (expected L, R, or M)"
  | instructions rover line =>
    "Rover #" ++ Numeral.ofNat rover ++ " invalid instructions (expected only L, R, M): \""
      ++ line ++ "\""
  | outOfBounds rover instruction pose =>
    "Rover #" ++ Numeral.ofNat rover ++ " instruction " ++ Numeral.ofNat instruction
      ++ " out of bounds from " ++ pose.bracketed
  | mission cause => cause.message
  | config cause => "Configuration error: " ++ cause.message
  | setting field value cause =>
    "Invalid value for '" ++ field ++ "': '" ++ value ++ "' (" ++ cause.message ++ ")"
  | io cause => "IO error: " ++ cause.message
  | jsonOutput cause => "Serialization error: " ++ cause.message
  | csvOutput cause => "CSV output error: " ++ cause.message

def category : Fault → Category
  | command _ | instructions _ _ | mission _ => .input
  | outOfBounds _ _ _ => .execution
  | config _ | setting _ _ _ => .configuration
  | io _ | jsonOutput _ | csvOutput _ => .system

def Category.name : Category → Text
  | input => "Input"
  | execution => "Execution"
  | configuration => "Configuration"
  | system => "System"

def Category.severity : Category → Severity
  | input | execution => .high
  | configuration => .medium
  | system => .critical

def Severity.name : Severity → Text
  | medium => "Medium"
  | high => "High"
  | critical => "Critical"

def severity (fault : Fault) : Severity := fault.category.severity

/-- Configuration faults count as wrong usage of the program. -/
def exitCode (fault : Fault) : Nat :=
  match fault.category with
  | .configuration => 2
  | _ => 1

/-- What the line for the operator begins with. -/
def Category.caption : Category → Text
  | input => "Parse Error"
  | execution => "Execution Error"
  | configuration => "Config Error"
  | system => "Input Error"

/-- The line shown to the operator. -/
def operatorLine (fault : Fault) : Text := fault.category.caption ++ ": " ++ fault.message

/-- What the operator may try next. -/
def suggestion : Fault → Text
  | command _ | instructions _ _ => "Instruction lines may only contain L, R and M"
  | outOfBounds _ _ _ =>
    "Fix the instructions or rerun with --ignore-oob, --stop-on-oob or --wrap"
  | mission _ =>
    "Expect a plateau line \"X Y\" followed by pairs of \"X Y HEADING\" and instruction lines"
  | config _ | setting _ _ _ => "Check the configuration file and command line options"
  | io _ => "Check that the input file exists and is readable"
  | jsonOutput _ | csvOutput _ => "Try another --format or check that stdout is writable"

end Fault
end RoverMission

/-
The command line.

Only what the program may look at is read: the configuration file, the variables
it refers to, and the mission once the settings have passed their checks.
-/
import RoverMission.Program

namespace RoverMission
namespace CommandLine

def ioFault : IO.Error → IoFault
  | .noFileOrDirectory _ _ _ => .notFound
  | .inappropriateType _ number details => ofNumber number details
  | .invalidArgument _ number details => ofNumber number details
  | .illegalOperation number details => ofNumber number details
  | .permissionDenied _ number details => ofNumber number details
  | .otherError number details => ofNumber number details
  | e => .other (toString e).toList
where
  ofNumber (number : UInt32) (details : String) : IoFault :=
    let number := if number < 0x80000000 then number else 0 - number
    if number = 20 then .notDirectory
    else if number = 21 then .isDirectory
    else if number = 36 then .nameTooLong
    else .other (details.toList ++ " (os error " ++ Numeral.ofNat number.toNat ++ ")")

/-- The content of the file at a path, or why it cannot be read. -/
def fetch (path : Text) : IO (Except IoFault ByteArray) := do
  if '\x00' ∈ path then return .error .nulInPath
  try
    return .ok (← IO.FS.readBinFile (String.ofList path))
  catch e =>
    return .error (ioFault e)

/-- The values of variables, as far as they are set. -/
def fetchVariables (names : List Text) : IO (List (Text × Text)) :=
  names.filterMapM fun name => do
    return (← IO.getEnv (String.ofList name)).map fun v => (name, v.toList)

/-- The world of a run with the given flags. -/
def world (arguments : List Text) (flags : Flags) : IO World := do
  let configFile ← flags.config.mapM fun path => return (path, ← fetch path)
  let names := match configFile with
    | some (_, .ok content) => Substitution.names ((Text.ofUtf8? content).getD [])
    | _ => []
  let set ← fetchVariables (Program.logVariable :: names)
  let value name := set.lookup name
  let files := configFile.toList
  let visible (files : List (Text × Except IoFault ByteArray)) (path : Text) :=
    (files.lookup path).getD (.error .notFound)
  let seen : World := { arguments, stdin := .empty, files := visible files, «variables» := value }
  match Program.config seen.files value flags >>= Program.source flags with
  | .ok .stdin => return { seen with stdin := ← (← IO.getStdin).readBinToEnd }
  | .ok (.file path) => return { seen with files := visible ((path, ← fetch path) :: files) }
  | .error _ => return seen

def usageLines : List String :=
  ["Usage: rover-mission [OPTIONS]",
   "",
   "Options:",
   "      --strict            Fail on out-of-bounds moves (default)",
   "      --ignore-oob        Skip out-of-bounds moves",
   "      --stop-on-oob       Stop a rover at its first out-of-bounds move",
   "      --wrap              Wrap around the plateau edges",
   "      --fail-fast         Stop on the first rover error (default)",
   "      --collect-errors    Keep running the remaining rovers after an error",
   "  -i, --input <FILE>      Mission file to read; stdin when omitted or a dash",
   "  -c, --config <FILE>     TOML file with default settings",
   "  -f, --format <FORMAT>   Output format: text, json or csv",
   "  -v, --verbose           Enable verbose output",
   "  -h, --help              Print help"]

def run (arguments : List Text) : IO UInt32 := do
  let stdout ← IO.getStdout
  let stderr ← IO.getStderr
  let w ← match Flags.ofArguments arguments with
    | .ok flags => world arguments flags
    | .error _ =>
      pure
        { arguments
          stdin := .empty
          files := fun _ => .error .notFound
          «variables» := fun _ => none }
  match Program.run w with
  | .usage fault =>
    let out := if fault.exitCode = 0 then stdout else stderr
    for line in usageLines do
      out.putStrLn line
    return fault.exitCode.toUInt32
  | .finished exit log =>
    for notice in log.notices do
      stderr.putStrLn (String.ofList notice)
    for e in log.events do
      stderr.putStrLn (String.ofList (log.line e))
    stdout.write ⟨exit.stdout.toArray⟩
    stdout.flush
    for message in exit.messages do
      stderr.putStrLn (String.ofList message)
    return exit.code.toUInt32

end CommandLine
end RoverMission

def main (arguments : List String) : IO UInt32 :=
  RoverMission.CommandLine.run (arguments.map String.toList)

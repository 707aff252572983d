/-
Where mission text comes from.

A path names standard input when it is a lone dash, up to slashes and single
dots behind it.  With a part in front of the dash it names a file.
-/
import RoverMission.Fault

namespace RoverMission

inductive Source
  | stdin
  | file (path : Text)
  deriving DecidableEq

namespace Source

def isDash (path : Text) : Bool :=
  match Text.cut (· == '/') path with
  | first :: rest => first == ['-'] && rest.all fun part => part == [] || part == ['.']
  | [] => false

def ofArgument : Option Text → Source
  | none => stdin
  | some path => if isDash path then stdin else file path

/-- The name of a source in log messages. -/
def label : Source → Text
  | stdin => "stdin"
  | file path => path

/-- The text of a file's content. -/
def decode (content : ByteArray) : Except IoFault Text :=
  match Text.ofUtf8? content with
  | some t => .ok t
  | none => .error .notUtf8

theorem decode_utf8 (t : Text) : decode ⟨(Text.utf8 t).toArray⟩ = .ok t := by
  rw [decode, Text.ofUtf8?_utf8]

/-- The text of the file at a path, from a reader of files. -/
def fileText (files : Text → Except IoFault ByteArray) (path : Text) : Except Fault Text :=
  (files path >>= decode).mapError .io

theorem ofArgument_dash : ofArgument (some ['-']) = stdin := by decide

end Source
end RoverMission

/-
A working directory of files.

The directory holds files and empty directories by name.  A path is followed
part by part: single dots and empty parts stay in a directory, double dots leave
it, and nothing can be found behind a file.  A part has at most 255 bytes and a
path at most 4095.
-/
import RoverMission.Fault

namespace RoverMission

inductive Entry
  | file (content : ByteArray)
  | directory

/-- Entries by name; the first entry of a name counts. -/
abbrev Files := List (Text × Entry)

namespace Files

/-- Where a path has led. -/
inductive Place
  | working
  | inside
  | outside
  | file (content : ByteArray)

def nameLimit : Nat := 255

def pathLimit : Nat := 4095

/-- Why there is nothing of a name in a directory. -/
def absent (name : Text) : IoFault :=
  if nameLimit < (Text.utf8 name).length then .nameTooLong else .notFound

def enter (files : Files) (place : Place) (part : Text) : Except IoFault Place :=
  match place with
  | .file _ => .error .notDirectory
  | .working =>
    if part = [] ∨ part = ['.'] then .ok .working
    else if part = ['.', '.'] then .ok .outside
    else
      match files.lookup part with
      | some (.file content) => .ok (.file content)
      | some .directory => .ok .inside
      | none => .error (absent part)
  | .inside =>
    if part = [] ∨ part = ['.'] then .ok .inside
    else if part = ['.', '.'] then .ok .working
    else .error (absent part)
  | .outside =>
    if part = [] ∨ part = ['.'] ∨ part = ['.', '.'] then .ok .outside
    else .error (absent part)

/-- The content of the file at a path. -/
def read (files : Files) (path : Text) : Except IoFault ByteArray := do
  if '\x00' ∈ path then throw .nulInPath
  if pathLimit < (Text.utf8 path).length then throw .nameTooLong
  if path = [] then throw .notFound
  let start := if path.head? = some '/' then Place.outside else .working
  match ← (Text.cut (· == '/') path).foldlM (enter files) start with
  | .file content => return content
  | _ => throw .isDirectory

end Files
end RoverMission

/-
Messages about JSON.

A message may name the place it is about, as "key expected at line 3 column 14"
does.  Line zero is no place, and a message about it is shown without.
-/
import RoverMission.Text.Numeral

namespace RoverMission
namespace Json

structure Message where
  text : Text
  line : Nat := 0
  column : Nat := 0
  deriving DecidableEq

namespace Message

/-- What stands in front of the last occurrence of `part`, and behind it. -/
def aroundLast? (part : Text) : Text → Option (Text × Text)
  | [] => none
  | c :: t =>
    match aroundLast? part t with
    | some (front, back) => some (c :: front, back)
    | none => (Text.after? part (c :: t)).map fun back => ([], back)

/-- Places count in 64 bits. -/
def ordinal? (t : Text) : Option Nat := do
  let n ← Numeral.toNat? t
  if n < UInt64.size then return n else none

/-- Line and column, if a text consists of them behind "at line". -/
def place? (t : Text) : Option (Nat × Nat) := do
  let (line, t) := Text.run Char.isDigit t
  let column ← Text.after? " column " t
  return (← ordinal? line, ← ordinal? column)

/-- A message whose place, if it has one, is its end. -/
def ofText (t : Text) : Message :=
  match aroundLast? " at line " t with
  | none => { text := t }
  | some (text, place) =>
    match place? place with
    | some (line, column) => { text, line, column }
    | none => { text := t }

def toText (m : Message) : Text :=
  if m.line = 0 then m.text
  else
    m.text ++ " at line " ++ Numeral.ofNat m.line ++ " column " ++ Numeral.ofNat m.column

end Message
end Json
end RoverMission

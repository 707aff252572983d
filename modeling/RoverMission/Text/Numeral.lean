/-
Decimal numerals.

Numbers are written in decimal without leading zeros, negative ones after a
minus sign.  Readers accept more: one sign of either kind and leading zeros.
`toInt?_ofInt` and `coordinate?_ofCoordinate` say that what is written is read
back.
-/
import RoverMission.Text
import RoverMission.Coordinate

namespace RoverMission
namespace Numeral

def ofNat (n : Nat) : Text := Nat.toDigits 10 n

def ofInt : Int → Text
  | .ofNat n => ofNat n
  | .negSucc n => '-' :: ofNat (n + 1)

def ofCoordinate (c : Coordinate) : Text := ofInt c.toInt

/-- A text without the one sign that it may begin with. -/
def withoutSign : Text → Text
  | '+' :: t => t
  | '-' :: t => t
  | t => t

/-- The number that one or more ASCII digits spell. -/
def toNat? (t : Text) : Option Nat :=
  if !t.isEmpty && t.all Char.isDigit then some (Nat.ofDigitChars 10 t 0) else none

/-- The number that digits spell after at most one sign. -/
def toInt? : Text → Option Int
  | '-' :: t => (toNat? t).map fun n => -(n : Int)
  | '+' :: t => (toNat? t).map fun n => (n : Int)
  | t => (toNat? t).map fun n => (n : Int)

def coordinate? (t : Text) : Option Coordinate := (toInt? t).bind Coordinate.ofInt?

theorem ofNat_ne_nil (n : Nat) : ofNat n ≠ [] := Nat.toDigits_ne_nil

theorem isDigit_of_mem_ofNat {n : Nat} {c : Char} (h : c ∈ ofNat n) : c.isDigit = true :=
  Nat.isDigit_of_mem_toDigits (by decide) (by decide) h

theorem toNat?_ofNat (n : Nat) : toNat? (ofNat n) = some n := by
  have hd : (ofNat n).all Char.isDigit = true :=
    List.all_eq_true.2 fun _ h => isDigit_of_mem_ofNat h
  have he : (ofNat n).isEmpty = false := by simpa using ofNat_ne_nil n
  simp only [toNat?, he, hd, Bool.not_false, Bool.and_self, if_true, Option.some.injEq]
  exact Nat.ofDigitChars_ten_toDigits

theorem toInt?_of_digits {t : Text} (hd : ∀ c ∈ t, c.isDigit = true) :
    toInt? t = (toNat? t).map fun n => (n : Int) := by
  unfold toInt?
  split
  · exact absurd (hd '-' (by simp)) (by decide)
  · exact absurd (hd '+' (by simp)) (by decide)
  · rfl

theorem toInt?_ofInt (n : Int) : toInt? (ofInt n) = some n := by
  cases n with
  | ofNat n =>
    rw [ofInt, toInt?_of_digits fun _ h => isDigit_of_mem_ofNat h, toNat?_ofNat]
    rfl
  | negSucc n =>
    rw [ofInt, toInt?, toNat?_ofNat]
    rfl

theorem coordinate?_ofCoordinate (c : Coordinate) : coordinate? (ofCoordinate c) = some c := by
  simp [coordinate?, ofCoordinate, toInt?_ofInt, Coordinate.ofInt?_toInt]

end Numeral
end RoverMission

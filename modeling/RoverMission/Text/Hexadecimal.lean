/-
Hexadecimal numerals.

Readers take digits of both cases; digits are written in lower case.
-/
import RoverMission.Text

namespace RoverMission
namespace Hexadecimal

def digit? (c : Char) : Option Nat :=
  if c.isDigit then some (c.toNat - '0'.toNat)
  else if 'a' ≤ c ∧ c ≤ 'f' then some (c.toNat - 'a'.toNat + 10)
  else if 'A' ≤ c ∧ c ≤ 'F' then some (c.toNat - 'A'.toNat + 10)
  else none

/-- The number that digits spell. -/
def toNat? (t : Text) : Option Nat :=
  t.foldl (fun sum c => do return 16 * (← sum) + (← digit? c)) (some 0)

/-- The character with the number that digits spell; surrogates are no
characters. -/
def char? (digits : Text) : Option Char := do
  let n ← toNat? digits
  if n < 0xd800 ∨ (0xdfff < n ∧ n < 0x110000) then return Char.ofNat n else none

/-- Two digits. -/
def pair (n : Nat) : Text := [Nat.digitChar (n / 16 % 16), Nat.digitChar (n % 16)]

/-- Two digits behind two zeros spell the number of an ASCII character. -/
theorem toNat?_pair {n : Nat} (h : n < 0x80) :
    ∃ x y, pair n = [x, y] ∧ toNat? ['0', '0', x, y] = some n := by
  refine ⟨_, _, rfl, ?_⟩
  revert n
  decide

theorem char?_pair {c : Char} (h : c.toNat < 0x80) :
    ∃ x y, pair c.toNat = [x, y] ∧ char? ['0', '0', x, y] = some c := by
  obtain ⟨x, y, hpair, hn⟩ := toNat?_pair h
  refine ⟨x, y, hpair, ?_⟩
  rw [char?, hn]
  show (if _ then _ else _) = _
  rw [if_pos (Or.inl (by omega)), Char.ofNat_toNat]
  rfl

end Hexadecimal
end RoverMission

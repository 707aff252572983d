/-
Grid coordinates.

A coordinate is a 32-bit signed integer.  Steps are computed on integers and
come back as a coordinate only when the result is in range (`ofInt?`), so no
step ever wraps around silently.
-/

namespace RoverMission

abbrev Coordinate := Int32

namespace Coordinate

/-- The coordinate of an integer that is in range. -/
def ofInt? (n : Int) : Option Coordinate :=
  if -2147483648 ≤ n ∧ n ≤ 2147483647 then some (Int32.ofInt n) else none

theorem ofInt?_toInt (c : Coordinate) : ofInt? c.toInt = some c := by
  have h₁ := Int32.le_toInt c
  have h₂ := Int32.toInt_lt c
  rw [ofInt?, if_pos ⟨by omega, by omega⟩, Int32.ofInt_toInt]

theorem toInt_of_ofInt? {n : Int} {c : Coordinate} (h : ofInt? n = some c) :
    c.toInt = n := by
  rw [ofInt?] at h
  split at h
  · cases h
    rename_i hr
    exact Int32.toInt_ofInt_of_le (by omega) (by omega)
  · exact absurd h (by simp)

theorem ofInt?_eq_none_iff {n : Int} :
    ofInt? n = none ↔ n < -2147483648 ∨ 2147483647 < n := by
  rw [ofInt?]
  split <;> simp <;> omega

end Coordinate
end RoverMission

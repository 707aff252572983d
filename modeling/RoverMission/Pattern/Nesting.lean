/-
Nesting of patterns.

Patterns may not nest too deep, so readers of patterns keep the height of what
they have read.  A single item adds no height to the row it stands in; a row of
several items is one higher than its highest item.
-/

namespace RoverMission
namespace Pattern

/-- The greatest height of a pattern. -/
def heightLimit : Nat := 250

/-- Items side by side: their number, the height of the last one, and the
greatest height of the others. -/
structure Row where
  count : Nat := 0
  others : Nat := 0
  last : Nat := 0
  deriving DecidableEq

namespace Row

def push (r : Row) (height : Nat) : Row :=
  { count := r.count + 1, others := max r.others r.last, last := height }

/-- Repeat the last item. -/
def raise (r : Row) : Row := { r with last := r.last + 1 }

def height (r : Row) : Nat := if r.count ≤ 1 then r.last else max r.others r.last + 1

theorem height_push_empty (n : Nat) : (({} : Row).push n).height = n := by
  simp [push, height]

end Row
end Pattern
end RoverMission

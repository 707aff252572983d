/-
Messages of one line.

A fault that a mission text is refused for quotes a trimmed line of it or a word of
one, and the fault of a rover names numbers and a heading.  So no line feed gets into
the message of either, whatever the text is, and the operator reads it on one line.
-/
import RoverMission.Proofs.Layout
import RoverMission.Proofs.Reading

namespace RoverMission

theorem Text.newline_not_mem_append {s t : Text} (hs : '\n' ∉ s) (ht : '\n' ∉ t) :
    '\n' ∉ s ++ t := by
  rw [List.mem_append, not_or]
  exact ⟨hs, ht⟩

/-- Wording on both sides of something quoted. -/
theorem Text.newline_not_mem_append₃ {front quoted back : Text} (hfront : '\n' ∉ front)
    (hquoted : '\n' ∉ quoted) (hback : '\n' ∉ back) : '\n' ∉ front ++ quoted ++ back :=
  newline_not_mem_append (newline_not_mem_append hfront hquoted) hback

theorem Numeral.newline_not_mem_ofInt (n : Int) : '\n' ∉ ofInt n :=
  Field.newline_not_mem_of_isWord (isWord_of_spells (spells_ofInt n))

theorem Numeral.newline_not_mem_ofNat (n : Nat) : '\n' ∉ ofNat n :=
  newline_not_mem_ofInt (.ofNat n)

theorem Numeral.newline_not_mem_ofCoordinate (c : Coordinate) : '\n' ∉ ofCoordinate c :=
  newline_not_mem_ofInt c.toInt

open Text (newline_not_mem_append newline_not_mem_append₃)
open Numeral (newline_not_mem_ofNat newline_not_mem_ofCoordinate)

theorem Pose.newline_not_mem_bracketed (p : Pose) : '\n' ∉ p.bracketed := by
  have hx := newline_not_mem_ofCoordinate p.position.x
  have hy := newline_not_mem_ofCoordinate p.position.y
  have hletter : '\n' ∉ [p.heading.letter] := by
    cases p.heading <;> decide
  exact newline_not_mem_append₃
    (newline_not_mem_append₃ (newline_not_mem_append₃ (by decide) hx (by decide)) hy (by decide))
    hletter (by decide)

namespace Fault

theorem newline_not_mem_operatorLine {fault : Fault} (h : '\n' ∉ fault.message) :
    '\n' ∉ fault.operatorLine := by
  have hcaption : '\n' ∉ fault.category.caption := by
    cases fault.category <;> decide
  exact newline_not_mem_append₃ hcaption (by decide) h

theorem newline_not_mem_outOfBounds (rover instruction : Nat) (pose : Pose) :
    '\n' ∉ (outOfBounds rover instruction pose).message := by
  have hrover := newline_not_mem_ofNat rover
  have hinstruction := newline_not_mem_ofNat instruction
  exact newline_not_mem_append
    (newline_not_mem_append₃ (newline_not_mem_append₃ (by decide) hrover (by decide))
      hinstruction (by decide))
    (Pose.newline_not_mem_bracketed pose)

theorem newline_not_mem_of_refusal {lines : List Text} {fault : Fault}
    (hlines : ∀ line ∈ lines, '\n' ∉ line) (h : Mission.Refusal lines fault) :
    '\n' ∉ fault.message := by
  cases h with
  | empty => decide
  | unpairedLine => decide
  | plateauLine h =>
    exact newline_not_mem_append₃ (by decide) (hlines _ h) (by decide)
  | negativeCorner x y =>
    have hx := newline_not_mem_ofCoordinate x
    have hy := newline_not_mem_ofCoordinate y
    exact newline_not_mem_append (newline_not_mem_append₃ (by decide) hx (by decide)) hy
  | startLine rover h =>
    have hrover := newline_not_mem_ofNat rover
    exact newline_not_mem_append₃ (newline_not_mem_append₃ (by decide) hrover (by decide))
      (hlines _ h) (by decide)
  | startHeading rover h hword =>
    have hrover := newline_not_mem_ofNat rover
    have hquoted := Text.newline_not_mem_of_mem_words hword
    exact newline_not_mem_append₃ (newline_not_mem_append₃ (by decide) hrover (by decide))
      hquoted (by decide)
  | startOutside rover start plateau =>
    have hrover := newline_not_mem_ofNat rover
    have hc := newline_not_mem_ofCoordinate
    exact newline_not_mem_append₃ (newline_not_mem_append₃ (newline_not_mem_append₃
      (newline_not_mem_append₃ (newline_not_mem_append₃ (by decide) hrover (by decide))
        (hc start.x) (by decide)) (hc start.y) (by decide)) (hc plateau.maxX) (by decide))
      (hc plateau.maxY) (by decide)
  | instructions rover h =>
    have hrover := newline_not_mem_ofNat rover
    exact newline_not_mem_append₃ (newline_not_mem_append₃ (by decide) hrover (by decide))
      (hlines _ h) (by decide)

theorem newline_not_mem_of_ofText {t : Text} {fault : Fault}
    (h : Mission.ofText t = .error fault) : '\n' ∉ fault.operatorLine :=
  newline_not_mem_operatorLine (newline_not_mem_of_refusal
    (fun _ => Text.newline_not_mem_of_mem_contentLines) (Mission.refusal_of_ofText h))

end Fault
end RoverMission

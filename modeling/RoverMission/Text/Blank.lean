/-
White space.

The blank characters are those with the Unicode property White_Space: the 25
code points below.  Mission texts may be laid out with any of them, so trimming
and splitting into words go by this class and not by ASCII.
-/
import RoverMission.Text

namespace RoverMission
namespace Text

def isBlank (c : Char) : Bool :=
  let n := c.toNat
  (0x9 ≤ n && n ≤ 0xd) || n == 0x20 || n == 0x85 || n == 0xa0 || n == 0x1680
    || (0x2000 ≤ n && n ≤ 0x200a) || n == 0x2028 || n == 0x2029 || n == 0x202f
    || n == 0x205f || n == 0x3000

/-- The white space of ASCII is blank. -/
theorem isBlank_of_isWhitespace {c : Char} (h : c.isWhitespace = true) : isBlank c = true := by
  simp only [Char.isWhitespace, Bool.or_eq_true, decide_eq_true_eq] at h
  rcases h with ((h | h) | h) | h <;> subst h <;> decide

/-- A text without the blanks at its two ends. -/
def trim (t : Text) : Text := ((t.dropWhile isBlank).reverse.dropWhile isBlank).reverse

/-- The maximal runs of characters that are not blank. -/
def words (t : Text) : List Text := (cut isBlank t).filter (!·.isEmpty)

theorem words_nil : words [] = [] := rfl

theorem words_cons_blank {c : Char} (h : isBlank c = true) (t : Text) :
    words (c :: t) = words t := by
  simp [words, cut_cons, h]

/-- The trimmed lines of a text that are not blank throughout. -/
def contentLines (t : Text) : List Text := ((lines t).map trim).filter (!·.isEmpty)

end Text
end RoverMission

/-
Rover commands and their letters.
-/
import RoverMission.Text

namespace RoverMission

inductive Command
  | left
  | right
  | move
  deriving DecidableEq

namespace Command

def letter : Command → Char
  | left => 'L'
  | right => 'R'
  | move => 'M'

def ofLetter? : Char → Option Command
  | 'L' => some left
  | 'R' => some right
  | 'M' => some move
  | _ => none

/-- The commands that a line of letters spells; the first letter that is no
command otherwise. -/
def ofLetters (t : Text) : Except Char (List Command) :=
  t.mapM fun c => (ofLetter? c).elim (.error c) .ok

def letters (commands : List Command) : Text := commands.map letter

theorem ofLetter?_letter (k : Command) : ofLetter? k.letter = some k := by cases k <;> rfl

theorem ofLetters_letters (commands : List Command) : ofLetters (letters commands) = .ok commands := by
  induction commands with
  | nil => rfl
  | cons k rest ih =>
    rw [ofLetters, letters, List.map_cons, List.mapM_cons, ofLetter?_letter]
    rw [ofLetters, letters] at ih
    rw [ih]
    rfl

end Command
end RoverMission

/-
Layouts of a mission.

What a mission text says is a list of rows of fields, numbers and words: a row
for the plateau and two for each rover.  How it is laid out is left open.  Numbers
may have a sign and leading zeros, fields stand apart by blanks, lines are padded
with blanks, blank lines stand anywhere and lines end in either way
(`Field.LaidOut`).  `forall₂_of_laidOut` says that all this freedom is gone once a
text is cut into its lines that are not blank and these into words.
-/
import Mathlib.Data.List.Forall2
import RoverMission.Mission.Printer
import RoverMission.Proofs.Words

namespace RoverMission

/-! ## Numerals -/

namespace Numeral

/-- One or more ASCII digits. -/
def IsDigits (t : Text) : Prop := t ≠ [] ∧ ∀ c ∈ t, c.isDigit = true

/-- The numerals of a number: digits after at most one sign. -/
inductive Spells : Text → Int → Prop
  | unsigned {digits : Text} (h : IsDigits digits) : Spells digits (Nat.ofDigitChars 10 digits 0)
  | plus {digits : Text} (h : IsDigits digits) :
    Spells ('+' :: digits) (Nat.ofDigitChars 10 digits 0)
  | minus {digits : Text} (h : IsDigits digits) :
    Spells ('-' :: digits) (-Nat.ofDigitChars 10 digits 0)

theorem toNat?_eq_some_iff {t : Text} {n : Nat} :
    toNat? t = some n ↔ IsDigits t ∧ Nat.ofDigitChars 10 t 0 = n := by
  simp [toNat?, IsDigits]

theorem toInt?_eq_some_iff {t : Text} {n : Int} : toInt? t = some n ↔ Spells t n := by
  constructor
  · intro h
    unfold toInt? at h
    split at h
    · rename_i digits
      cases hk : toNat? digits <;> rw [hk] at h <;> cases h
      obtain ⟨hd, rfl⟩ := toNat?_eq_some_iff.1 hk
      exact .minus hd
    · rename_i digits
      cases hk : toNat? digits <;> rw [hk] at h <;> cases h
      obtain ⟨hd, rfl⟩ := toNat?_eq_some_iff.1 hk
      exact .plus hd
    · cases hk : toNat? t <;> rw [hk] at h <;> cases h
      obtain ⟨hd, rfl⟩ := toNat?_eq_some_iff.1 hk
      exact .unsigned hd
  · intro h
    cases h with
    | unsigned hd => rw [toInt?_of_digits hd.2, toNat?_eq_some_iff.2 ⟨hd, rfl⟩]; rfl
    | plus hd => rw [toInt?, toNat?_eq_some_iff.2 ⟨hd, rfl⟩]; rfl
    | minus hd => rw [toInt?, toNat?_eq_some_iff.2 ⟨hd, rfl⟩]; rfl

theorem coordinate?_eq_some_iff {t : Text} {c : Coordinate} :
    coordinate? t = some c ↔ Spells t c.toInt := by
  rw [coordinate?, Option.bind_eq_some_iff]
  constructor
  · rintro ⟨n, hn, hc⟩
    rw [Coordinate.toInt_of_ofInt? hc]
    exact toInt?_eq_some_iff.1 hn
  · intro h
    exact ⟨c.toInt, toInt?_eq_some_iff.2 h, Coordinate.ofInt?_toInt c⟩

theorem spells_ofInt (n : Int) : Spells (ofInt n) n := toInt?_eq_some_iff.1 (toInt?_ofInt n)

theorem isBlank_of_isDigit {c : Char} (h : c.isDigit = true) : Text.isBlank c = false := by
  have hn : 48 ≤ c.toNat ∧ c.toNat ≤ 57 := by
    simpa [Char.isDigit, UInt32.le_iff_toNat_le] using h
  simp [Text.isBlank]
  omega

theorem isWord_of_spells {t : Text} {n : Int} (h : Spells t n) : t.IsWord := by
  have hdigits : ∀ {digits : Text}, IsDigits digits → Text.IsWord digits :=
    fun hd => ⟨hd.1, fun c hc => isBlank_of_isDigit (hd.2 c hc)⟩
  have hsigned : ∀ {sign : Char} {digits : Text}, Text.isBlank sign = false → IsDigits digits →
      Text.IsWord (sign :: digits) := fun hs hd =>
    ⟨by simp, List.forall_mem_cons.2 ⟨hs, (hdigits hd).2⟩⟩
  cases h with
  | unsigned hd => exact hdigits hd
  | plus hd => exact hsigned (by decide) hd
  | minus hd => exact hsigned (by decide) hd

end Numeral

/-! ## Fields -/

/-- What stands between two blanks of a mission text. -/
inductive Field
  | number (c : Coordinate)
  | word (w : Text)

namespace Field

/-- The words that a field may be written as. -/
def SpelledBy : Field → Text → Prop
  | number c, t => Numeral.Spells t c.toInt
  | word w, t => t = w

/-- A field that is written as words only. -/
def Solid (field : Field) : Prop := ∀ t, field.SpelledBy t → t.IsWord

theorem solid_number (c : Coordinate) : (number c).Solid := fun _ => Numeral.isWord_of_spells

theorem solid_word {w : Text} (h : w.IsWord) : (word w).Solid := fun t ht => by
  rw [SpelledBy] at ht
  rwa [ht]

/-- Blanks that end no line. -/
def IsPadding (t : Text) : Prop := t.IsBlank ∧ '\n' ∉ t

instance (t : Text) : Decidable (IsPadding t) := inferInstanceAs (Decidable (_ ∧ _))

/-- The ways to end a line. -/
def IsLineEnd (t : Text) : Prop := t = "\n".toList ∨ t = "\r\n".toList

/-- Fields with padding behind them, which is not empty between two. -/
inductive InRow : List Field → Text → Prop
  | nil : InRow [] []
  | cons {field : Field} {fields : List Field} {w gap rest : Text} (hw : field.SpelledBy w)
    (hgap : IsPadding gap) (hne : fields ≠ [] → gap ≠ []) (hrest : InRow fields rest) :
    InRow (field :: fields) (w ++ gap ++ rest)

/-- Texts that show rows of fields, each on a line of its own. -/
inductive LaidOut : List (List Field) → Text → Prop
  | nil : LaidOut [] []
  | line {pad t eol rest : Text} {row : List Field} {rows : List (List Field)}
    (hpad : IsPadding pad) (hrow : InRow row t) (heol : IsLineEnd eol) (hrest : LaidOut rows rest) :
    LaidOut (row :: rows) (pad ++ t ++ eol ++ rest)
  | blankLine {pad eol rest : Text} {rows : List (List Field)} (hpad : IsPadding pad)
    (heol : IsLineEnd eol) (hrest : LaidOut rows rest) : LaidOut rows (pad ++ eol ++ rest)
  | lastLine {pad t : Text} {row : List Field} (hpad : IsPadding pad) (hrow : InRow row t) :
    LaidOut [row] (pad ++ t)
  | lastBlankLine {pad : Text} (hpad : IsPadding pad) : LaidOut [] pad

/-- A line whose words spell the fields of a row. -/
def Shown (row : List Field) (line : Text) : Prop :=
  List.Forall₂ SpelledBy row (Text.words line)

/-! ## Reading a layout -/

theorem isPadding_append {pad pad' : Text} (h : IsPadding pad) (h' : IsPadding pad') :
    IsPadding (pad ++ pad') := by
  refine ⟨fun c hc => ?_, fun hn => ?_⟩
  · exact (List.mem_append.1 hc).elim (h.1 c) (h'.1 c)
  · exact (List.mem_append.1 hn).elim h.2 h'.2

theorem newline_not_mem_of_isWord {w : Text} (h : w.IsWord) : '\n' ∉ w := fun hn =>
  absurd (h.2 '\n' hn) (by decide)

/-- A carriage return in front of a line feed is one more blank on the line. -/
theorem exists_of_isLineEnd {eol : Text} (h : IsLineEnd eol) :
    ∃ pad, IsPadding pad ∧ eol = pad ++ ['\n'] := by
  rcases h with rfl | rfl
  · exact ⟨[], by decide, rfl⟩
  · exact ⟨['\r'], by decide, rfl⟩

theorem newline_not_mem_of_inRow {row : List Field} {t : Text} (hs : ∀ field ∈ row, field.Solid)
    (h : InRow row t) : '\n' ∉ t := by
  induction h with
  | nil => exact List.not_mem_nil
  | cons hw hgap _ _ ih =>
    obtain ⟨hfield, hfields⟩ := List.forall_mem_cons.1 hs
    rw [List.mem_append, List.mem_append, not_or, not_or]
    exact ⟨⟨newline_not_mem_of_isWord (hfield _ hw), hgap.2⟩, ih hfields⟩

theorem shown_of_inRow {row : List Field} {t : Text} (hs : ∀ field ∈ row, field.Solid)
    (h : InRow row t) : Shown row t := by
  induction h with
  | nil => exact .nil
  | @cons field fields w gap rest hw hgap hne hrest ih =>
    obtain ⟨hfield, hfields⟩ := List.forall_mem_cons.1 hs
    have hword := Text.words_of_isWord (hfield _ hw)
    rw [Shown]
    cases gap with
    | nil =>
      -- Only the last field may have no gap behind it.
      have hlast : fields = [] := Classical.byContradiction fun hn => hne hn rfl
      subst hlast
      cases hrest
      rw [List.append_nil, List.append_nil, hword]
      exact .cons hw .nil
    | cons s gap =>
      obtain ⟨hblank, hgap'⟩ := Text.isBlank_cons.1 hgap.1
      have hwords : Text.words (w ++ s :: gap ++ rest) = w :: Text.words rest := by
        rw [List.append_assoc, List.cons_append,
          Text.words_append_cons hblank, hword, Text.words_blank_append hgap']
        rfl
      rw [hwords]
      exact .cons hw (ih hfields)

theorem shown_pads_iff {row : List Field} {pad t pad' : Text} (hpad : IsPadding pad)
    (hpad' : IsPadding pad') : Shown row (pad ++ t ++ pad') ↔ Shown row t := by
  rw [Shown, List.append_assoc, Text.words_blank_append hpad.1, Text.words_append_blank hpad'.1,
    Shown]

theorem not_isBlank_of_shown {row : List Field} {line : Text} (hne : row ≠ [])
    (h : Shown row line) : ¬ line.IsBlank := by
  intro hblank
  rw [Shown, Text.words_of_isBlank hblank, List.forall₂_nil_right_iff] at h
  exact hne h

theorem inkedLines_of_inRow {row : List Field} {pad t pad' : Text} (hne : row ≠ [])
    (hs : ∀ field ∈ row, field.Solid) (hpad : IsPadding pad) (hpad' : IsPadding pad')
    (h : InRow row t) :
    Text.inkedLines (pad ++ t ++ pad') = [pad ++ t ++ pad'] ∧ Shown row (pad ++ t ++ pad') := by
  have hshown : Shown row (pad ++ t ++ pad') :=
    (shown_pads_iff hpad hpad').2 (shown_of_inRow hs h)
  have hline : '\n' ∉ pad ++ t ++ pad' := by
    rw [List.mem_append, List.mem_append, not_or, not_or]
    exact ⟨⟨hpad.2, newline_not_mem_of_inRow hs h⟩, hpad'.2⟩
  rw [Text.inkedLines_of_forall hline, if_neg (not_isBlank_of_shown hne hshown)]
  exact ⟨rfl, hshown⟩

theorem inkedLines_of_isPadding {pad : Text} (h : IsPadding pad) : Text.inkedLines pad = [] := by
  rw [Text.inkedLines_of_forall h.2, if_pos h.1]

theorem forall₂_of_laidOut {rows : List (List Field)} {t : Text} (h : LaidOut rows t)
    (hs : ∀ row ∈ rows, row ≠ [] ∧ ∀ field ∈ row, field.Solid) :
    List.Forall₂ Shown rows (Text.inkedLines t) := by
  induction h with
  | nil => exact .nil
  | line hpad hrow heol _ ih =>
    obtain ⟨⟨hne, hfields⟩, hrows⟩ := List.forall_mem_cons.1 hs
    obtain ⟨cr, hcr, rfl⟩ := exists_of_isLineEnd heol
    obtain ⟨hinked, hshown⟩ := inkedLines_of_inRow hne hfields hpad hcr hrow
    rw [← List.append_assoc, List.append_assoc, List.singleton_append, Text.inkedLines_append,
      hinked]
    exact .cons hshown (ih hrows)
  | blankLine hpad heol _ ih =>
    obtain ⟨cr, hcr, rfl⟩ := exists_of_isLineEnd heol
    rw [← List.append_assoc, List.append_assoc, List.singleton_append, Text.inkedLines_append,
      inkedLines_of_isPadding (isPadding_append hpad hcr)]
    exact ih hs
  | lastLine hpad hrow =>
    obtain ⟨⟨hne, hfields⟩, -⟩ := List.forall_mem_cons.1 hs
    have hend : IsPadding [] := by decide
    obtain ⟨hinked, hshown⟩ := inkedLines_of_inRow hne hfields hpad hend hrow
    rw [List.append_nil] at hinked hshown
    rw [hinked]
    exact .cons hshown .nil
  | lastBlankLine hpad =>
    rw [inkedLines_of_isPadding hpad]
    exact .nil

end Field

/-! ## The rows of a mission -/

def Plateau.row (plateau : Plateau) : List Field := [.number plateau.maxX, .number plateau.maxY]

def Pose.row (p : Pose) : List Field :=
  [.number p.position.x, .number p.position.y, .word [p.heading.letter]]

def Plan.rows (plan : Plan) : List (List Field) :=
  [plan.start.row, [.word (Command.letters plan.commands)]]

def Mission.rows (m : Mission) : List (List Field) := m.plateau.row :: m.plans.flatMap Plan.rows

/-! ## Canonical lines -/

theorem Heading.isWord_letter (h : Heading) : Text.IsWord [h.letter] := by
  cases h <;> decide

namespace Command

theorem isBlank_letter (k : Command) : Text.isBlank k.letter = false := by
  cases k <;> rfl

theorem isWord_letters {commands : List Command} (h : commands ≠ []) :
    (letters commands).IsWord := by
  refine ⟨by simpa [letters] using h, fun c hc => ?_⟩
  obtain ⟨k, -, rfl⟩ := List.mem_map.1 hc
  exact isBlank_letter k

end Command

namespace Field

theorem solid_of_mem_plateau_row {plateau : Plateau} : ∀ field ∈ plateau.row, field.Solid := by
  intro field hmem
  simp only [Plateau.row, List.mem_cons, List.not_mem_nil, or_false] at hmem
  rcases hmem with rfl | rfl <;> exact solid_number _

theorem solid_of_mem_pose_row {p : Pose} : ∀ field ∈ p.row, field.Solid := by
  intro field hmem
  simp only [Pose.row, List.mem_cons, List.not_mem_nil, or_false] at hmem
  rcases hmem with rfl | rfl | rfl
  · exact solid_number _
  · exact solid_number _
  · exact solid_word p.heading.isWord_letter

theorem inRow_plateau (plateau : Plateau) : InRow plateau.row plateau.line := by
  have hspace : IsPadding " ".toList := by decide
  have hend : IsPadding [] := by decide
  have h : InRow plateau.row (Numeral.ofCoordinate plateau.maxX ++ " ".toList ++
      (Numeral.ofCoordinate plateau.maxY ++ [] ++ [])) :=
    .cons (Numeral.spells_ofInt _) hspace (by simp)
      (.cons (Numeral.spells_ofInt _) hend (by simp) .nil)
  rwa [List.append_nil, List.append_nil] at h

theorem inRow_pose (p : Pose) : InRow p.row p.text := by
  have hspace : IsPadding " ".toList := by decide
  have hend : IsPadding [] := by decide
  have h : InRow p.row (Numeral.ofCoordinate p.position.x ++ " ".toList ++
      (Numeral.ofCoordinate p.position.y ++ " ".toList ++ ([p.heading.letter] ++ [] ++ []))) :=
    .cons (Numeral.spells_ofInt _) hspace (by simp)
      (.cons (Numeral.spells_ofInt _) hspace (by simp) (.cons rfl hend (by simp) .nil))
  rw [List.append_nil, List.append_nil] at h
  simpa only [Pose.text, List.append_assoc] using h

theorem shown_plateau (plateau : Plateau) : Shown plateau.row plateau.line :=
  shown_of_inRow solid_of_mem_plateau_row (inRow_plateau plateau)

theorem shown_pose (p : Pose) : Shown p.row p.text :=
  shown_of_inRow solid_of_mem_pose_row (inRow_pose p)

theorem inRow_letters (commands : List Command) :
    InRow [.word (Command.letters commands)] (Command.letters commands) := by
  have hend : IsPadding [] := by decide
  have h : InRow [.word (Command.letters commands)] (Command.letters commands ++ [] ++ []) :=
    .cons rfl hend (by simp) .nil
  rwa [List.append_nil, List.append_nil] at h

theorem laidOut_flatMap {rows : List (List Field)} {lines : List Text}
    (h : List.Forall₂ InRow rows lines) :
    LaidOut rows (lines.flatMap fun line => line ++ "\n") := by
  have hnone : IsPadding [] := by decide
  induction h with
  | nil => exact .nil
  | cons hrow _ ih => exact .line hnone hrow (Or.inl rfl) ih

end Field

namespace Mission

theorem forall₂_inRow_lines (m : Mission) : List.Forall₂ Field.InRow m.rows m.lines := by
  refine .cons (Field.inRow_plateau m.plateau) ?_
  induction m.plans with
  | nil => exact .nil
  | cons plan plans ih =>
    rw [List.flatMap_cons, List.flatMap_cons]
    exact .cons (Field.inRow_pose plan.start) (.cons (Field.inRow_letters plan.commands) ih)

/-- The canonical text of a mission is one of its layouts. -/
theorem laidOut_text (m : Mission) : Field.LaidOut m.rows m.text :=
  Field.laidOut_flatMap m.forall₂_inRow_lines

theorem solid_of_mem_rows {m : Mission} (h : ∀ plan ∈ m.plans, plan.commands ≠ []) :
    ∀ row ∈ m.rows, row ≠ [] ∧ ∀ field ∈ row, field.Solid := by
  intro row hmem
  rcases List.mem_cons.1 hmem with rfl | hmem
  · exact ⟨List.cons_ne_nil _ _, Field.solid_of_mem_plateau_row⟩
  · obtain ⟨plan, hplan, hrow⟩ := List.mem_flatMap.1 hmem
    simp only [Plan.rows, List.mem_cons, List.not_mem_nil, or_false] at hrow
    rcases hrow with rfl | rfl
    · exact ⟨List.cons_ne_nil _ _, Field.solid_of_mem_pose_row⟩
    · refine ⟨List.cons_ne_nil _ _, fun field hfield => ?_⟩
      rw [List.mem_singleton.1 hfield]
      exact Field.solid_word (Command.isWord_letters (h plan hplan))

theorem forall₂_shown_lines {m : Mission} (h : ∀ plan ∈ m.plans, plan.commands ≠ []) :
    List.Forall₂ Field.Shown m.rows m.lines :=
  ((List.forall₂_and_left m.rows m.lines).2 ⟨solid_of_mem_rows h, m.forall₂_inRow_lines⟩).imp
    fun _ _ hrow => Field.shown_of_inRow hrow.1.2 hrow.2

end Mission
end RoverMission

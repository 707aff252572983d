/-
Reading what is written.

A text is read as a mission if and only if the mission is well-formed and the
lines of the text that are not blank show the mission's rows, one by one
(`ofText_eq_ok_iff`).  So every layout of a well-formed mission is read as that
mission, a text that is read is a layout of nothing else, and a mission that is
not well-formed cannot be read from what is written of it.
-/
import RoverMission.Proofs.Layout
import RoverMission.Proofs.Reading

namespace RoverMission
namespace Mission

open RoverMission.Field

/-! ## Reading a line -/

theorem shown_trim_iff {row : List Field} {line : Text} :
    Shown row line.trim ↔ Shown row line := by
  rw [Shown, Text.words_trim, Shown]

theorem plateauOf_eq_ok_iff {x y : Coordinate} {plateau : Plateau} :
    plateauOf x y = .ok plateau ↔ plateau = { maxX := x, maxY := y } ∧ plateau.Sound := by
  constructor
  · intro h
    unfold plateauOf at h
    split at h
    · rename_i hcorner
      cases h
      refine ⟨?_, Plateau.sound_of_ofCorner? hcorner⟩
      rw [Plateau.ofCorner?] at hcorner
      split at hcorner <;> cases hcorner
      rfl
    · cases h
  · rintro ⟨rfl, hx, hy⟩
    have hneg : ¬ (x < 0 ∨ y < 0) := not_or.2 ⟨Int32.not_lt.2 hx, Int32.not_lt.2 hy⟩
    rw [plateauOf, Plateau.ofCorner?, if_neg hneg]

theorem readPlateau_eq_ok_iff {line : Text} {plateau : Plateau} :
    readPlateau line = .ok plateau ↔ plateau.Sound ∧ Shown plateau.row line := by
  rw [Shown, Plateau.row]
  constructor
  · intro h
    unfold readPlateau at h
    split at h
    · rename_i x y hwords
      split at h
      · rename_i a b ha hb
        obtain ⟨rfl, hs⟩ := plateauOf_eq_ok_iff.1 h
        rw [hwords]
        exact ⟨hs, .cons (Numeral.coordinate?_eq_some_iff.1 ha)
          (.cons (Numeral.coordinate?_eq_some_iff.1 hb) .nil)⟩
      · cases h
    · cases h
  · rintro ⟨hs, h⟩
    obtain ⟨x, _, hx, h₁, hwords⟩ := List.forall₂_cons_left_iff.1 h
    obtain ⟨y, _, hy, h₂, rfl⟩ := List.forall₂_cons_left_iff.1 h₁
    rw [List.forall₂_nil_left_iff.1 h₂] at hwords
    simp only [readPlateau, hwords, Numeral.coordinate?_eq_some_iff.2 hx,
      Numeral.coordinate?_eq_some_iff.2 hy]
    exact plateauOf_eq_ok_iff.2 ⟨rfl, hs⟩

theorem readStart_eq_ok_iff {rover : Nat} {line : Text} {p : Pose} :
    readStart rover line = .ok p ↔ Shown p.row line := by
  rw [Shown, Pose.row]
  constructor
  · intro h
    unfold readStart at h
    split at h
    · rename_i x y heading hwords
      split at h
      · rename_i a b ha hb
        split at h
        · rename_i d hd
          cases h
          rw [hwords]
          exact .cons (Numeral.coordinate?_eq_some_iff.1 ha)
            (.cons (Numeral.coordinate?_eq_some_iff.1 hb)
              (.cons (Heading.eq_letter_of_ofText? hd) .nil))
        · cases h
      · cases h
    · cases h
  · intro h
    obtain ⟨x, _, hx, h₁, hwords⟩ := List.forall₂_cons_left_iff.1 h
    obtain ⟨y, _, hy, h₂, rfl⟩ := List.forall₂_cons_left_iff.1 h₁
    obtain ⟨heading, _, hd, h₃, rfl⟩ := List.forall₂_cons_left_iff.1 h₂
    rw [List.forall₂_nil_left_iff.1 h₃] at hwords
    have hd : heading = [p.heading.letter] := hd
    simp only [readStart, hwords, Numeral.coordinate?_eq_some_iff.2 hx,
      Numeral.coordinate?_eq_some_iff.2 hy, hd, Heading.ofText?_letter]

theorem readInstructions_eq_ok_iff {rover : Nat} {line : Text} {commands : List Command}
    (hline : ¬ line.IsBlank) :
    readInstructions rover line.trim = .ok commands ↔
      commands ≠ [] ∧ Shown [.word (Command.letters commands)] line := by
  have hne : line.trim ≠ [] := mt Text.trim_eq_nil_iff.1 hline
  constructor
  · intro h
    have hcommands := ne_nil_of_readInstructions hne h
    unfold readInstructions at h
    split at h
    · rename_i hletters
      cases h
      refine ⟨hcommands, shown_trim_iff.1 ?_⟩
      rw [← Command.letters_of_ofLetters hletters, Shown,
        Text.words_of_isWord (Command.isWord_letters hcommands)]
      exact .cons rfl .nil
    · cases h
  · rintro ⟨-, h⟩
    obtain ⟨w, _, hw, h₁, hwords⟩ := List.forall₂_cons_left_iff.1 h
    rw [List.forall₂_nil_left_iff.1 h₁] at hwords
    have hw : w = Command.letters commands := hw
    rw [Text.trim_of_words hwords, hw, readInstructions, Command.ofLetters_letters]

/-! ## Reading the rovers -/

variable {plateau : Plateau} {rover : Nat}

theorem readPlan_eq_ok_iff {startLine line : Text} {plan : Plan} (hline : ¬ line.IsBlank) :
    readPlan plateau rover startLine.trim line.trim = .ok plan ↔
      (plateau.Contains plan.start.position ∧ plan.commands ≠ []) ∧
        List.Forall₂ Shown plan.rows [startLine, line] := by
  constructor
  · intro h
    obtain ⟨start, hstart, h⟩ := exists_of_bind_eq_ok h
    obtain ⟨commands, hcommands, h⟩ := exists_of_bind_eq_ok h
    obtain ⟨hne, hshown⟩ := (readInstructions_eq_ok_iff hline).1 hcommands
    split at h
    · rename_i hcontains
      cases h
      exact ⟨⟨hcontains, hne⟩,
        .cons (shown_trim_iff.1 (readStart_eq_ok_iff.1 hstart)) (.cons hshown .nil)⟩
    · cases h
  · rintro ⟨⟨hcontains, hne⟩, h⟩
    obtain ⟨hstart, h⟩ := List.forall₂_cons.1 h
    obtain ⟨hcommands, -⟩ := List.forall₂_cons.1 h
    rw [readPlan, readStart_eq_ok_iff.2 (shown_trim_iff.2 hstart)]
    show (readInstructions rover line.trim >>= _) = _
    rw [(readInstructions_eq_ok_iff hline).2 ⟨hne, hcommands⟩]
    exact if_pos hcontains

theorem shown_of_readPlans : ∀ {rover : Nat} {lines : List Text} {plans : List Plan},
    (∀ line ∈ lines, ¬ line.IsBlank) → lines.length % 2 = 0 →
    readPlans plateau rover (lines.map Text.trim) = .ok plans →
    List.Forall₂ Shown (plans.flatMap Plan.rows) lines
  | _, [], plans, _, _, h => by
    cases h
    exact .nil
  | _, [_], _, _, heven, _ => absurd heven (by simp)
  | rover, startLine :: line :: lines, plans, hlines, heven, h => by
    obtain ⟨-, hlines⟩ := List.forall_mem_cons.1 hlines
    obtain ⟨hline, hlines⟩ := List.forall_mem_cons.1 hlines
    obtain ⟨plan, hplan, h⟩ := exists_of_bind_eq_ok h
    obtain ⟨rest, hrest, h⟩ := exists_of_bind_eq_ok h
    cases h
    obtain ⟨-, hshown⟩ := (readPlan_eq_ok_iff hline).1 hplan
    have heven' : lines.length % 2 = 0 := by
      rw [List.length_cons, List.length_cons] at heven
      omega
    rw [List.flatMap_cons]
    exact List.rel_append hshown (shown_of_readPlans hlines heven' hrest)

theorem readPlans_of_shown {plans : List Plan} {lines : List Text}
    (hplans : ∀ plan ∈ plans, plateau.Contains plan.start.position ∧ plan.commands ≠ [])
    (hlines : ∀ line ∈ lines, ¬ line.IsBlank)
    (h : List.Forall₂ Shown (plans.flatMap Plan.rows) lines) :
    lines.length % 2 = 0 ∧ ∀ rover,
      readPlans plateau rover (lines.map Text.trim) = .ok plans := by
  induction plans generalizing lines with
  | nil =>
    cases h
    exact ⟨rfl, fun rover => rfl⟩
  | cons plan plans ih =>
    obtain ⟨hplan, hplans⟩ := List.forall_mem_cons.1 hplans
    rw [List.flatMap_cons] at h
    obtain ⟨startLine, _, hstart, h₁, rfl⟩ := List.forall₂_cons_left_iff.1 h
    obtain ⟨line, rest, hcommands, h₂, rfl⟩ := List.forall₂_cons_left_iff.1 h₁
    obtain ⟨-, hlines⟩ := List.forall_mem_cons.1 hlines
    obtain ⟨hline, hlines⟩ := List.forall_mem_cons.1 hlines
    obtain ⟨heven, hrest⟩ := ih hplans hlines h₂
    refine ⟨?_, fun rover => ?_⟩
    · rw [List.length_cons, List.length_cons]
      omega
    · have hfirst : readPlan plateau rover startLine.trim line.trim = .ok plan :=
        (readPlan_eq_ok_iff hline).2 ⟨hplan, .cons hstart (.cons hcommands .nil)⟩
      rw [List.map_cons, List.map_cons, readPlans, hfirst]
      show (readPlans plateau (rover + 1) (rest.map Text.trim) >>= _) = _
      rw [hrest]
      rfl

/-! ## Reading a text -/

theorem not_isBlank_of_mem_inkedLines {t line : Text} (h : line ∈ Text.inkedLines t) :
    ¬ line.IsBlank := by
  simpa using (List.mem_filter.1 h).2

theorem ofText_eq_ok_iff {t : Text} {m : Mission} :
    ofText t = .ok m ↔ m.WellFormed ∧ List.Forall₂ Shown m.rows (Text.inkedLines t) := by
  have hlines : ∀ line ∈ Text.inkedLines t, ¬ line.IsBlank :=
    fun _ => not_isBlank_of_mem_inkedLines
  constructor
  · intro h
    refine ⟨wellFormed_of_ofText h, ?_⟩
    rw [ofText, Text.contentLines_eq] at h
    cases hinked : Text.inkedLines t with
    | nil =>
      rw [hinked] at h
      cases h
    | cons plateauLine lines =>
      rw [hinked] at h hlines
      obtain ⟨plateau, hplateau, h⟩ := exists_of_bind_eq_ok h
      split at h
      · rename_i heven
        rw [List.length_map] at heven
        obtain ⟨plans, hplans, h⟩ := exists_of_bind_eq_ok h
        cases h
        exact .cons (shown_trim_iff.1 (readPlateau_eq_ok_iff.1 hplateau).2)
          (shown_of_readPlans (List.forall_mem_cons.1 hlines).2 heven hplans)
      · cases h
  · rintro ⟨⟨hs, hplans⟩, h⟩
    obtain ⟨plateauLine, lines, hplateau, h₁, hinked⟩ := List.forall₂_cons_left_iff.1 h
    rw [hinked] at hlines
    obtain ⟨heven, hread⟩ := readPlans_of_shown hplans (List.forall_mem_cons.1 hlines).2 h₁
    have hfirst : readPlateau plateauLine.trim = .ok m.plateau :=
      readPlateau_eq_ok_iff.2 ⟨hs, shown_trim_iff.2 hplateau⟩
    rw [ofText, Text.contentLines_eq, hinked, List.map_cons, ofLines, hfirst]
    show (if (lines.map Text.trim).length % 2 = 0 then _ else _) = _
    rw [List.length_map, if_pos heven, hread]
    rfl

/-! ## Reading the canonical text -/

theorem pose_of_shown {p p' : Pose} (h : Shown p'.row p.text) : p' = p := by
  have hp : readStart 1 p.text = .ok p := readStart_eq_ok_iff.2 (shown_pose p)
  rw [readStart_eq_ok_iff.2 h] at hp
  cases hp
  rfl

theorem plateau_of_shown {plateau' : Plateau} (hs : plateau.Sound) (hs' : plateau'.Sound)
    (h : Shown plateau'.row plateau.line) : plateau' = plateau := by
  have hp : readPlateau plateau.line = .ok plateau :=
    readPlateau_eq_ok_iff.2 ⟨hs, shown_plateau plateau⟩
  rw [readPlateau_eq_ok_iff.2 ⟨hs', h⟩] at hp
  cases hp
  rfl

theorem commands_of_shown {commands commands' : List Command} (hne : commands ≠ [])
    (h : Shown [.word (Command.letters commands')] (Command.letters commands)) :
    commands' = commands := by
  rw [Shown, Text.words_of_isWord (Command.isWord_letters hne)] at h
  have hletters : Command.letters commands = Command.letters commands' :=
    (List.forall₂_cons.1 h).1
  have hread := Command.ofLetters_letters commands
  rw [hletters, Command.ofLetters_letters commands'] at hread
  cases hread
  rfl

/-- No line of commands is a start line: it has one word and not three. -/
theorem not_shown_pose_text {w : Text} (p : Pose) : ¬ Shown [.word w] p.text := by
  intro h
  have hlength := h.length_eq.trans (shown_pose p).length_eq.symm
  exact absurd hlength (by simp [Pose.row])

/-- The start line of a plan always shows, the other one if it has commands. -/
theorem filter_lines (plan : Plan) :
    (plan.lines.filter fun line => ¬ line.IsBlank) =
      plan.start.text ::
        if plan.commands = [] then [] else [Command.letters plan.commands] := by
  have hstart : ¬ plan.start.text.IsBlank :=
    not_isBlank_of_shown (List.cons_ne_nil _ _) (shown_pose plan.start)
  have hletters : (Command.letters plan.commands).IsBlank ↔ plan.commands = [] := by
    constructor
    · intro hblank
      by_contra hne
      have hwords := Text.words_of_isWord (Command.isWord_letters hne)
      rw [Text.words_of_isBlank hblank] at hwords
      cases hwords
    · intro hnil
      rw [hnil]
      exact Text.isBlank_nil
  rw [Plan.lines, List.filter_cons_of_pos (by simpa using hstart)]
  by_cases hne : plan.commands = []
  · rw [List.filter_cons_of_neg (by simpa using hletters.2 hne), if_pos hne, List.filter_nil]
  · rw [List.filter_cons_of_pos (by simpa using mt hletters.1 hne), if_neg hne, List.filter_nil]

theorem plans_of_shown {plans plans' : List Plan}
    (h : List.Forall₂ Shown (plans'.flatMap Plan.rows)
      ((plans.flatMap Plan.lines).filter fun line => ¬ line.IsBlank)) :
    plans' = plans := by
  induction plans generalizing plans' with
  | nil =>
    cases plans' with
    | nil => rfl
    | cons plan' plans' => cases h
  | cons plan plans ih =>
    rw [List.flatMap_cons, List.filter_append, filter_lines, List.cons_append] at h
    cases plans' with
    | nil => cases h
    | cons plan' plans' =>
      obtain ⟨hstart, h₁⟩ := List.forall₂_cons.1 h
      by_cases hne : plan.commands = []
      · -- The empty line is dropped, so the next start line stands where commands belong.
        rw [if_pos hne, List.nil_append] at h₁
        cases plans with
        | nil => cases h₁
        | cons next plans =>
          rw [List.flatMap_cons, List.filter_append, filter_lines] at h₁
          exact absurd (List.forall₂_cons.1 h₁).1 (not_shown_pose_text next.start)
      · rw [if_neg hne] at h₁
        obtain ⟨hcommands, h₂⟩ := List.forall₂_cons.1 h₁
        have hplan : plan' = plan := by
          cases plan
          cases plan'
          rw [Plan.mk.injEq]
          exact ⟨pose_of_shown hstart, commands_of_shown hne hcommands⟩
        rw [hplan, ih h₂]

theorem newline_not_mem_lines (m : Mission) : ∀ line ∈ m.lines, '\n' ∉ line := by
  intro line hmem
  rcases List.mem_cons.1 hmem with rfl | hmem
  · exact newline_not_mem_of_inRow solid_of_mem_plateau_row (inRow_plateau m.plateau)
  · obtain ⟨plan, -, hline⟩ := List.mem_flatMap.1 hmem
    simp only [Plan.lines, List.mem_cons, List.not_mem_nil, or_false] at hline
    rcases hline with rfl | rfl
    · exact newline_not_mem_of_inRow solid_of_mem_pose_row (inRow_pose plan.start)
    · intro hn
      obtain ⟨k, -, hk⟩ := List.mem_map.1 hn
      cases k <;> cases hk

theorem eq_of_ofText_text {m m' : Mission} (hs : m.plateau.Sound) (h : ofText m.text = .ok m') :
    m' = m := by
  obtain ⟨⟨hs', -⟩, hshown⟩ := ofText_eq_ok_iff.1 h
  have hplateau : ¬ m.plateau.line.IsBlank :=
    not_isBlank_of_shown (List.cons_ne_nil _ _) (shown_plateau m.plateau)
  rw [text, Text.inkedLines_flatMap m.newline_not_mem_lines, lines,
    List.filter_cons_of_pos (by simpa using hplateau)] at hshown
  obtain ⟨hfirst, hrest⟩ := List.forall₂_cons.1 hshown
  cases m
  cases m'
  rw [Mission.mk.injEq]
  exact ⟨plateau_of_shown hs hs' hfirst, plans_of_shown hrest⟩

/-- Every layout of a well-formed mission is read as the mission, its canonical
text among them.  If a rover starts off the plateau or has no commands, the
canonical text is refused. -/
theorem ofText_of_laidOut (x y : Coordinate) (m : Mission)
    (hcorner : Plateau.ofCorner? x y = some m.plateau) :
    ((∀ plan ∈ m.plans, m.plateau.Contains plan.start.position ∧ plan.commands ≠ []) →
        ofText m.text = .ok m ∧ ∀ t, LaidOut m.rows t → ofText t = .ok m) ∧
      ((∃ plan ∈ m.plans, ¬ m.plateau.Contains plan.start.position ∨ plan.commands = []) →
        ∃ fault, ofText m.text = .error fault) := by
  have hs := Plateau.sound_of_ofCorner? hcorner
  constructor
  · intro hplans
    have hread : ∀ t, LaidOut m.rows t → ofText t = .ok m := fun t ht =>
      ofText_eq_ok_iff.2 ⟨⟨hs, hplans⟩,
        forall₂_of_laidOut ht (solid_of_mem_rows fun plan hmem => (hplans plan hmem).2)⟩
    exact ⟨hread m.text m.laidOut_text, hread⟩
  · rintro ⟨plan, hmem, hbad⟩
    cases hread : ofText m.text with
    | error fault => exact ⟨fault, rfl⟩
    | ok m' =>
      have hplans := (wellFormed_of_ofText hread).2
      rw [eq_of_ofText_text hs hread] at hplans
      obtain ⟨hcontains, hne⟩ := hplans plan hmem
      rcases hbad with hbad | hbad
      · exact absurd hcontains hbad
      · exact absurd hbad hne

/-- A rover whose text is padded and has signs, zeros and blank lines, and two
rovers without commands. -/
theorem ofText_of_laidOut_padded :
    let plateau : Plateau := { maxX := 2, maxY := 1 }
    let start : Pose := { position := { x := 2, y := 1 }, heading := .north }
    let m : Mission := { plateau, plans := [{ start, commands := [.move] }] }
    let idle : Mission :=
      { plateau, plans := [{ start, commands := [] }, { start, commands := [] }] }
    let t : Text := "\t+02\u00a01 \r\n\r\n2 001 N\n \u3000M"
    Plateau.ofCorner? 2 1 = some plateau ∧
      (∀ plan ∈ m.plans, plateau.Contains plan.start.position ∧ plan.commands ≠ []) ∧
      LaidOut m.rows t ∧ ofText m.text = .ok m ∧ ofText t = .ok m ∧
      (∃ plan ∈ idle.plans, ¬ plateau.Contains plan.start.position ∨ plan.commands = []) ∧
      ∃ fault, ofText idle.text = .error fault := by
  intro plateau start m idle t
  have hplans : ∀ plan ∈ m.plans,
      plateau.Contains plan.start.position ∧ plan.commands ≠ [] := by decide
  have hidle : ∃ plan ∈ idle.plans,
      ¬ plateau.Contains plan.start.position ∨ plan.commands = [] := by decide
  have hspells : ∀ {w : Text} {c : Coordinate}, Numeral.coordinate? w = some c →
      (number c).SpelledBy w := Numeral.coordinate?_eq_some_iff.1
  have hplateau : InRow plateau.row "+02\u00a01 ".toList :=
    @InRow.cons _ _ "+02".toList "\u00a0".toList _ (hspells rfl) (by decide) (by decide)
      (@InRow.cons _ _ "1".toList " ".toList [] (hspells rfl) (by decide) (by decide) .nil)
  have hstart : InRow start.row "2 001 N".toList :=
    @InRow.cons _ _ "2".toList " ".toList _ (hspells rfl) (by decide) (by decide)
      (@InRow.cons _ _ "001".toList " ".toList _ (hspells rfl) (by decide) (by decide)
        (@InRow.cons _ _ "N".toList [] [] rfl (by decide) (by decide) .nil))
  have hcommands : InRow [.word (Command.letters [.move])] "M".toList :=
    @InRow.cons _ _ "M".toList [] [] rfl (by decide) (by decide) .nil
  have ht : LaidOut m.rows t :=
    @LaidOut.line "\t".toList _ "\r\n".toList _ _ _ (by decide) hplateau (Or.inr rfl)
      (@LaidOut.blankLine [] "\r\n".toList _ _ (by decide) (Or.inr rfl)
        (@LaidOut.line [] _ "\n".toList _ _ _ (by decide) hstart (Or.inl rfl)
          (@LaidOut.lastLine " \u3000".toList _ _ (by decide) hcommands)))
  have hread := (ofText_of_laidOut 2 1 m rfl).1 hplans
  exact ⟨rfl, hplans, ht, hread.1, hread.2 t ht, hidle, (ofText_of_laidOut 2 1 idle rfl).2 hidle⟩

/-! ## Nothing else is read -/

/-- Two words that spell the same: the same word or two numerals of one number. -/
def SameWord (w w' : Text) : Prop := w = w' ∨ ∃ n, Numeral.Spells w n ∧ Numeral.Spells w' n

/-- Two lines whose words spell the same, one by one. -/
def SameLine (line line' : Text) : Prop :=
  List.Forall₂ SameWord (Text.words line) (Text.words line')

/-- Lists that both fit a third one fit each other. -/
theorem forall₂_of_common {α β γ : Type} {R : α → β → Prop} {S : α → γ → Prop} {T : β → γ → Prop}
    (hT : ∀ a b c, R a b → S a c → T b c) {l : List α} {u : List β} {v : List γ}
    (hR : List.Forall₂ R l u) (hS : List.Forall₂ S l v) : List.Forall₂ T u v := by
  induction hR generalizing v with
  | nil =>
    cases hS
    exact .nil
  | cons hab _ ih =>
    obtain ⟨c, v, hac, hrest, rfl⟩ := List.forall₂_cons_left_iff.1 hS
    exact .cons (hT _ _ _ hab hac) (ih hrest)

theorem sameWord_of_spelledBy (field : Field) (w w' : Text) (h : field.SpelledBy w)
    (h' : field.SpelledBy w') : SameWord w w' := by
  cases field with
  | number c => exact Or.inr ⟨c.toInt, h, h'⟩
  | word v => exact Or.inl (Eq.trans h (Eq.symm h'))

theorem sameLine_of_shown (row : List Field) (line line' : Text) (h : Shown row line)
    (h' : Shown row line') : SameLine line line' :=
  forall₂_of_common sameWord_of_spelledBy h h'

theorem length_rows (m : Mission) : m.rows.length = 1 + 2 * m.plans.length := by
  rw [rows, List.length_cons]
  induction m.plans with
  | nil => rfl
  | cons plan plans ih =>
    rw [List.flatMap_cons, List.length_append, List.length_cons]
    have hrows : plan.rows.length = 2 := rfl
    omega

/-- A text that is read as a mission says the mission and nothing else.  The
mission is well-formed, the text has two lines for each rover besides the first
one, blank lines left out, each of them has the words of the canonical line up to
the spelling of numbers, and the canonical text is read as the same mission. -/
theorem sameLine_of_ofText (t : Text) (m : Mission) (h : ofText t = .ok m) :
    (0 ≤ m.plateau.maxX ∧ 0 ≤ m.plateau.maxY) ∧
      (∀ plan ∈ m.plans, m.plateau.Contains plan.start.position ∧ plan.commands ≠ []) ∧
      (Text.inkedLines t).length = 1 + 2 * m.plans.length ∧
      List.Forall₂ SameLine (Text.inkedLines t) m.lines ∧
      ofText m.text = .ok m := by
  obtain ⟨⟨hs, hplans⟩, hshown⟩ := ofText_eq_ok_iff.1 h
  have hne : ∀ plan ∈ m.plans, plan.commands ≠ [] := fun plan hmem => (hplans plan hmem).2
  have hlines := forall₂_of_laidOut m.laidOut_text (solid_of_mem_rows hne)
  refine ⟨hs, hplans, ?_, forall₂_of_common sameLine_of_shown hshown (forall₂_shown_lines hne),
    ofText_eq_ok_iff.2 ⟨⟨hs, hplans⟩, hlines⟩⟩
  rw [← hshown.length_eq, length_rows]

/-- A text with padding, signs, zeros and blank lines, and what is read from it. -/
theorem sameLine_of_ofText_padded :
    let t : Text := "\t+02\u00a01 \r\n\r\n2 001 N\n \u3000M"
    let m : Mission :=
      { plateau := { maxX := 2, maxY := 1 }
        plans := [{ start := { position := { x := 2, y := 1 }, heading := .north }
                    commands := [.move] }] }
    ofText t = .ok m ∧ (0 ≤ m.plateau.maxX ∧ 0 ≤ m.plateau.maxY) ∧
      (∀ plan ∈ m.plans, m.plateau.Contains plan.start.position ∧ plan.commands ≠ []) ∧
      (Text.inkedLines t).length = 1 + 2 * m.plans.length ∧
      List.Forall₂ SameLine (Text.inkedLines t) m.lines ∧ ofText m.text = .ok m :=
  ⟨rfl, sameLine_of_ofText _ _ rfl⟩

end Mission
end RoverMission

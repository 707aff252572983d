/-
Missions that are read.

Each check of the reader leaves its mark on what it lets through: the far corner
of the plateau is not negative, every start is on the plateau and no list of
commands is empty.  So a mission that is read is well-formed, and a text that is
refused is refused for what is in it.
-/
import RoverMission.Mission.Reader

namespace RoverMission

/-- The two steps of a reading that succeeds. -/
theorem exists_of_bind_eq_ok {ε α β : Type} {x : Except ε α} {f : α → Except ε β} {b : β}
    (h : (x >>= f) = .ok b) : ∃ a, x = .ok a ∧ f a = .ok b := by
  cases x with
  | error e => cases h
  | ok a => exact ⟨a, rfl, h⟩

/-- A reading fails at its first step or behind it. -/
theorem error_or_exists_of_bind_eq_error {ε α β : Type} {x : Except ε α} {f : α → Except ε β}
    {e : ε} (h : (x >>= f) = .error e) : x = .error e ∨ ∃ a, x = .ok a ∧ f a = .error e := by
  cases x with
  | error e' =>
    cases h
    exact Or.inl rfl
  | ok a => exact Or.inr ⟨a, rfl, h⟩

namespace Command

/-- Commands are read from their letters only. -/
theorem letters_of_ofLetters {t : Text} {commands : List Command}
    (h : ofLetters t = .ok commands) : letters commands = t := by
  induction t generalizing commands with
  | nil =>
    cases h
    rfl
  | cons c t ih =>
    rw [ofLetters, List.mapM_cons] at h
    obtain ⟨k, hk, h⟩ := exists_of_bind_eq_ok h
    obtain ⟨rest, hrest, h⟩ := exists_of_bind_eq_ok h
    cases h
    have hc : k.letter = c := by
      unfold ofLetter? at hk
      split at hk <;> cases hk <;> rfl
    rw [letters, List.map_cons, hc]
    exact congrArg (c :: ·) (ih hrest)

end Command

namespace Text

theorem ne_nil_of_mem_contentLines {t line : Text} (h : line ∈ contentLines t) : line ≠ [] := by
  rw [contentLines, List.mem_filter] at h
  intro hnil
  rw [hnil] at h
  exact absurd h.2 (by decide)

end Text

namespace Mission

variable {plateau : Plateau} {rover : Nat} {line : Text} {lines : List Text}

theorem sound_of_readPlateau (h : readPlateau line = .ok plateau) : plateau.Sound := by
  unfold readPlateau at h
  split at h
  · split at h
    · rename_i x y _ _
      unfold plateauOf at h
      split at h
      · rename_i hcorner
        cases h
        exact Plateau.sound_of_ofCorner? hcorner
      · cases h
    · cases h
  · cases h

theorem ne_nil_of_readInstructions {commands : List Command} (hline : line ≠ [])
    (h : readInstructions rover line = .ok commands) : commands ≠ [] := by
  unfold readInstructions at h
  split at h
  · rename_i hletters
    cases h
    intro hnil
    have hl := Command.letters_of_ofLetters hletters
    rw [hnil] at hl
    exact hline hl.symm
  · cases h

theorem contains_of_readPlan {plan : Plan} {startLine : Text} (hline : line ≠ [])
    (h : readPlan plateau rover startLine line = .ok plan) :
    plateau.Contains plan.start.position ∧ plan.commands ≠ [] := by
  obtain ⟨start, -, h⟩ := exists_of_bind_eq_ok h
  obtain ⟨commands, hcommands, h⟩ := exists_of_bind_eq_ok h
  split at h
  · rename_i hcontains
    cases h
    exact ⟨hcontains, ne_nil_of_readInstructions hline hcommands⟩
  · cases h

theorem contains_of_readPlans {plans : List Plan} (hlines : ∀ line ∈ lines, line ≠ [])
    (h : readPlans plateau rover lines = .ok plans) :
    ∀ plan ∈ plans, plateau.Contains plan.start.position ∧ plan.commands ≠ [] := by
  induction rover, lines using readPlans.induct generalizing plans with
  | case1 rover startLine instructionLine lines ih =>
    obtain ⟨first, hfirst, h⟩ := exists_of_bind_eq_ok h
    obtain ⟨rest, hrest, h⟩ := exists_of_bind_eq_ok h
    cases h
    have hline : instructionLine ≠ [] := hlines _ (by simp)
    have htail : ∀ line ∈ lines, line ≠ [] := fun line hmem => hlines line (by simp [hmem])
    intro plan hplan
    rcases List.mem_cons.1 hplan with rfl | hplan
    · exact contains_of_readPlan hline hfirst
    · exact ih htail hrest plan hplan
  | case2 rover lines hshort =>
    unfold readPlans at h
    split at h
    · rename_i startLine instructionLine lines
      exact absurd rfl (hshort startLine instructionLine lines)
    · cases h
      intro plan hplan
      cases hplan

theorem wellFormed_of_ofText {t : Text} {m : Mission} (h : ofText t = .ok m) : m.WellFormed := by
  have hlines : ∀ line ∈ Text.contentLines t, line ≠ [] := fun _ hmem =>
    Text.ne_nil_of_mem_contentLines hmem
  unfold ofText at h
  cases hcontent : Text.contentLines t with
  | nil =>
    rw [hcontent] at h
    cases h
  | cons plateauLine roverLines =>
    rw [hcontent] at h hlines
    obtain ⟨plateau, hplateau, h⟩ := exists_of_bind_eq_ok h
    split at h
    · obtain ⟨plans, hplans, h⟩ := exists_of_bind_eq_ok h
      cases h
      exact ⟨sound_of_readPlateau hplateau,
        contains_of_readPlans (fun line hmem => hlines line (List.mem_cons_of_mem _ hmem)) hplans⟩
    · cases h

/-! ## Refusals -/

/-- The faults for which content lines are refused.  Whatever text a fault quotes is
one of the lines or a word of one. -/
inductive Refusal (lines : List Text) : Fault → Prop
  | empty : Refusal lines (.mission .empty)
  | plateauLine {line : Text} (h : line ∈ lines) : Refusal lines (.mission (.plateauLine line))
  | negativeCorner (x y : Coordinate) : Refusal lines (.mission (.negativeCorner x y))
  | unpairedLine : Refusal lines (.mission .unpairedLine)
  | startLine (rover : Nat) {line : Text} (h : line ∈ lines) :
    Refusal lines (.mission (.startLine rover line))
  | startHeading (rover : Nat) {line word : Text} (h : line ∈ lines)
    (hword : word ∈ Text.words line) : Refusal lines (.mission (.startHeading rover word))
  | startOutside (rover : Nat) (start : Position) (plateau : Plateau) :
    Refusal lines (.mission (.startOutside rover start plateau))
  | instructions (rover : Nat) {line : Text} (h : line ∈ lines) :
    Refusal lines (.instructions rover line)

variable {fault : Fault} {text : List Text}

theorem refusal_of_readPlateau (hline : line ∈ text) (h : readPlateau line = .error fault) :
    Refusal text fault := by
  unfold readPlateau at h
  split at h
  · split at h
    · rename_i x y _ _
      unfold plateauOf at h
      split at h <;> cases h
      exact .negativeCorner x y
    · cases h
      exact .plateauLine hline
  · cases h
    exact .plateauLine hline

theorem refusal_of_readStart (hline : line ∈ text) (h : readStart rover line = .error fault) :
    Refusal text fault := by
  unfold readStart at h
  split at h
  · rename_i hwords
    split at h
    · split at h <;> cases h
      refine .startHeading rover hline ?_
      rw [hwords]
      simp
    · cases h
      exact .startLine rover hline
  · cases h
    exact .startLine rover hline

theorem refusal_of_readInstructions (hline : line ∈ text)
    (h : readInstructions rover line = .error fault) : Refusal text fault := by
  unfold readInstructions at h
  split at h <;> cases h
  exact .instructions rover hline

theorem refusal_of_readPlan {startLine : Text} (hstart : startLine ∈ text) (hline : line ∈ text)
    (h : readPlan plateau rover startLine line = .error fault) : Refusal text fault := by
  rcases error_or_exists_of_bind_eq_error h with h | ⟨start, -, h⟩
  · exact refusal_of_readStart hstart h
  rcases error_or_exists_of_bind_eq_error h with h | ⟨commands, -, h⟩
  · exact refusal_of_readInstructions hline h
  split at h <;> cases h
  exact .startOutside rover start.position plateau

theorem refusal_of_readPlans (hlines : ∀ line ∈ lines, line ∈ text)
    (h : readPlans plateau rover lines = .error fault) : Refusal text fault := by
  induction rover, lines using readPlans.induct with
  | case1 rover startLine instructionLine lines ih =>
    rcases error_or_exists_of_bind_eq_error h with h | ⟨plan, -, h⟩
    · exact refusal_of_readPlan (hlines _ (by simp)) (hlines _ (by simp)) h
    rcases error_or_exists_of_bind_eq_error h with h | ⟨plans, -, h⟩
    · exact ih (fun line hmem => hlines line (by simp [hmem])) h
    · cases h
  | case2 rover lines hshort =>
    unfold readPlans at h
    split at h
    · rename_i startLine instructionLine lines
      exact absurd rfl (hshort startLine instructionLine lines)
    · cases h

theorem refusal_of_ofText {t : Text} (h : ofText t = .error fault) :
    Refusal (Text.contentLines t) fault := by
  unfold ofText at h
  cases hcontent : Text.contentLines t with
  | nil =>
    rw [hcontent] at h
    cases h
    exact .empty
  | cons plateauLine roverLines =>
    rw [hcontent] at h
    rcases error_or_exists_of_bind_eq_error h with h | ⟨plateau, -, h⟩
    · exact refusal_of_readPlateau List.mem_cons_self h
    split at h
    · rcases error_or_exists_of_bind_eq_error h with h | ⟨plans, -, h⟩
      · exact refusal_of_readPlans (fun line hmem => List.mem_cons_of_mem plateauLine hmem) h
      · cases h
    · cases h
      exact .unpairedLine

/-- A text is refused for what is in it. -/
theorem category_of_ofText {t : Text} (h : ofText t = .error fault) :
    fault.category = .input := by
  have hrefusal := refusal_of_ofText h
  cases hrefusal <;> rfl

end Mission
end RoverMission

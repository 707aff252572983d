/-
The first rover that cannot be read.

A mission text is refused for the first pair of lines that is no plan.  The pairs in
front of it are plans, so with them the text would have been read, and whatever stands
behind it has no part in the fault (`refused_for_first_bad_rover`).  Only that lines are
left over is found out before any rover is read.
-/
import RoverMission.Proofs.RoundTrip

namespace RoverMission

/-! ## Faults that tell of a rover -/

namespace MissionFault

/-- The rover that the fault tells of. -/
def rover? : MissionFault → Option Nat
  | startLine rover _ => some rover
  | startHeading rover _ => some rover
  | startOutside rover _ _ => some rover
  | _ => none

/-- What the message of a fault that tells of a rover begins with. -/
def opening (rover : Nat) : Text := "Rover #".toList ++ Numeral.ofNat rover ++ [' ']

end MissionFault

namespace Fault

/-- The rover that a mission text is refused for. -/
def refusedRover? : Fault → Option Nat
  | instructions rover _ => some rover
  | mission cause => cause.rover?
  | _ => none

/-- The fault is one of instructions, or it is one of the mission text and its message
begins with the number of a rover. -/
def BlamesRover (rover : Nat) (fault : Fault) : Prop :=
  (∃ line, fault = .instructions rover line) ∨
    ∃ cause : MissionFault, fault = .mission cause ∧ MissionFault.opening rover <+: cause.message

end Fault

theorem Numeral.ofNat_injective {m n : Nat} (h : ofNat m = ofNat n) : m = n := by
  have hm := toNat?_ofNat m
  rw [h, toNat?_ofNat n] at hm
  exact (Option.some.inj hm).symm

namespace Text

/-- Words that blanks end are told apart in front of anything. -/
theorem eq_of_append_blank {v w rest rest' : Text} (hv : v.IsWord) (hw : w.IsWord)
    (h : v ++ ' ' :: rest = w ++ ' ' :: rest') : v = w := by
  have hwords := congrArg words h
  rw [words_append_cons rfl, words_append_cons rfl, words_of_isWord hv,
    words_of_isWord hw] at hwords
  exact (List.cons.inj hwords).1

theorem append_prefix_append {front wording first : Text} (h : first <+: wording) (rest : Text) :
    front ++ first <+: front ++ wording ++ rest :=
  ((List.prefix_append_right_inj front).2 h).trans (List.prefix_append _ rest)

end Text

namespace MissionFault

variable {cause : MissionFault} {rover number : Nat}

theorem opening_prefix (h : cause.rover? = some rover) : opening rover <+: cause.message := by
  cases cause with
  | startLine k line =>
    cases h
    have hm : (startLine rover line).message = "Rover #".toList ++ Numeral.ofNat rover
      ++ " position invalid (expected \"X Y HEADING\"): \"".toList ++ line ++ "\"".toList := rfl
    rw [hm]
    refine List.IsPrefix.trans ?_ (List.prefix_append _ _)
    exact Text.append_prefix_append (by decide) line
  | startHeading k word =>
    cases h
    have hm : (startHeading rover word).message = "Rover #".toList ++ Numeral.ofNat rover
      ++ " invalid heading (expected N, E, S, or W): \"".toList ++ word ++ "\"".toList := rfl
    rw [hm]
    refine List.IsPrefix.trans ?_ (List.prefix_append _ _)
    exact Text.append_prefix_append (by decide) word
  | startOutside k start plateau =>
    cases h
    have hm : (startOutside rover start plateau).message = "Rover #".toList ++ Numeral.ofNat rover
      ++ " start out of bounds: (".toList ++ Numeral.ofCoordinate start.x ++ ",".toList
      ++ Numeral.ofCoordinate start.y ++ ") > plateau (".toList
      ++ Numeral.ofCoordinate plateau.maxX ++ ",".toList ++ Numeral.ofCoordinate plateau.maxY
      ++ ")".toList := rfl
    rw [hm]
    -- Behind the wording stand seven more parts of the message.
    iterate 7 refine List.IsPrefix.trans ?_ (List.prefix_append _ _)
    exact Text.append_prefix_append (by decide) _
  | _ => cases h

theorem opening_append (rover : Nat) (rest : Text) :
    opening rover ++ rest = "Rover #".toList ++ (Numeral.ofNat rover ++ ' ' :: rest) :=
  (List.append_assoc _ [' '] rest).trans (List.append_assoc _ (Numeral.ofNat rover) _)

/-- The number at the beginning of a message is the number of the rover. -/
theorem eq_of_opening_prefix (h : cause.rover? = some rover)
    (hm : opening number <+: cause.message) : number = rover := by
  obtain ⟨behind, hbehind⟩ := hm
  obtain ⟨rest, hrest⟩ := opening_prefix h
  rw [← hrest, opening_append, opening_append] at hbehind
  exact Numeral.ofNat_injective (Text.eq_of_append_blank
    (Numeral.isWord_of_spells (Numeral.spells_ofInt number))
    (Numeral.isWord_of_spells (Numeral.spells_ofInt rover)) (List.append_cancel_left hbehind))

/-- Whatever the rover, the message begins with the same letters. -/
theorem take_of_opening_prefix {m : Text} (h : opening number <+: m) :
    m.take 7 = "Rover #".toList := by
  obtain ⟨behind, rfl⟩ := h
  rw [opening_append]
  exact List.take_left' rfl

end MissionFault

theorem Fault.refusedRover?_of_blames {lines : List Text} {fault : Fault} {rover : Nat}
    (hr : Mission.Refusal lines fault) (h : fault.BlamesRover rover) :
    fault.refusedRover? = some rover := by
  rcases h with ⟨line, rfl⟩ | ⟨cause, rfl, hm⟩
  · rfl
  · show cause.rover? = some rover
    cases hr with
    | empty => exact absurd (MissionFault.take_of_opening_prefix hm) (by decide)
    | plateauLine h =>
      have htake : "Plateau".toList = "Rover #".toList := MissionFault.take_of_opening_prefix hm
      exact absurd htake (by decide)
    | negativeCorner x y =>
      have htake : "Plateau".toList = "Rover #".toList := MissionFault.take_of_opening_prefix hm
      exact absurd htake (by decide)
    | unpairedLine => exact absurd (MissionFault.take_of_opening_prefix hm) (by decide)
    | startLine number h => exact congrArg some (MissionFault.eq_of_opening_prefix rfl hm).symm
    | startHeading number h hword =>
      exact congrArg some (MissionFault.eq_of_opening_prefix rfl hm).symm
    | startOutside number start plateau =>
      exact congrArg some (MissionFault.eq_of_opening_prefix rfl hm).symm

namespace Mission

variable {plateau : Plateau} {rover : Nat} {line : Text} {lines : List Text} {fault : Fault}

/-! ## Which rover is refused -/

theorem refusedRover?_of_readPlateau (h : readPlateau line = .error fault) :
    fault.refusedRover? = none := by
  unfold readPlateau at h
  split at h
  · split at h
    · unfold plateauOf at h
      split at h <;> cases h
      rfl
    · cases h
      rfl
  · cases h
    rfl

theorem refusedRover?_of_readStart (h : readStart rover line = .error fault) :
    fault.refusedRover? = some rover := by
  unfold readStart at h
  split at h
  · split at h
    · split at h <;> cases h
      rfl
    · cases h
      rfl
  · cases h
    rfl

theorem refusedRover?_of_readInstructions (h : readInstructions rover line = .error fault) :
    fault.refusedRover? = some rover := by
  unfold readInstructions at h
  split at h <;> cases h
  rfl

theorem refusedRover?_of_readPlan {startLine : Text}
    (h : readPlan plateau rover startLine line = .error fault) :
    fault.refusedRover? = some rover := by
  rcases error_or_exists_of_bind_eq_error h with h | ⟨start, -, h⟩
  · exact refusedRover?_of_readStart h
  rcases error_or_exists_of_bind_eq_error h with h | ⟨commands, -, h⟩
  · exact refusedRover?_of_readInstructions h
  split at h <;> cases h
  rfl

/-! ## The first pair that is no plan -/

/-- Plans are refused for a first pair of lines: the pairs in front of it are plans. -/
theorem exists_first_refused (h : readPlans plateau rover lines = .error fault) :
    ∃ front plans startLine line behind, lines = front ++ startLine :: line :: behind ∧
      front.length = 2 * plans.length ∧ readPlans plateau rover front = .ok plans ∧
      readPlan plateau (rover + plans.length) startLine line = .error fault := by
  induction rover, lines using readPlans.induct with
  | case1 rover startLine instructionLine lines ih =>
    rcases error_or_exists_of_bind_eq_error h with h | ⟨plan, hplan, h⟩
    · exact ⟨[], [], startLine, instructionLine, lines, rfl, rfl, rfl, h⟩
    rcases error_or_exists_of_bind_eq_error h with h | ⟨plans, -, h⟩
    · obtain ⟨front, plans, badStart, bad, behind, rfl, hlength, hread, hbad⟩ := ih h
      refine ⟨startLine :: instructionLine :: front, plan :: plans, badStart, bad, behind, rfl,
        ?_, ?_, ?_⟩
      · rw [List.length_cons, List.length_cons, List.length_cons]
        omega
      · rw [readPlans, hplan]
        show (readPlans plateau (rover + 1) front >>= _) = _
        rw [hread]
        rfl
      · rwa [List.length_cons, Nat.add_comm plans.length, ← Nat.add_assoc]
    · cases h
  | case2 lines rover hshort =>
    unfold readPlans at h
    split at h
    · rename_i startLine instructionLine lines
      exact absurd rfl (hshort startLine instructionLine lines)
    · cases h

/-- Plans are refused for such a pair, whatever stands behind it. -/
theorem readPlans_of_first_refused {front : List Text} {plans : List Plan} {startLine : Text}
    (hlength : front.length = 2 * plans.length) (hread : readPlans plateau rover front = .ok plans)
    (hbad : readPlan plateau (rover + plans.length) startLine line = .error fault)
    (behind : List Text) :
    readPlans plateau rover (front ++ startLine :: line :: behind) = .error fault := by
  induction rover, front using readPlans.induct generalizing plans with
  | case1 rover firstStart firstLine front ih =>
    obtain ⟨plan, hplan, h⟩ := exists_of_bind_eq_ok hread
    obtain ⟨rest, hrest, h⟩ := exists_of_bind_eq_ok h
    cases h
    rw [List.length_cons, List.length_cons, List.length_cons] at hlength
    rw [List.length_cons, Nat.add_comm rest.length, ← Nat.add_assoc] at hbad
    rw [List.cons_append, List.cons_append, readPlans, hplan]
    show (readPlans plateau (rover + 1) (front ++ startLine :: line :: behind) >>= _) = _
    rw [ih (by omega) hrest hbad]
    rfl
  | case2 front rover hshort =>
    rcases front with _ | ⟨firstStart, _ | ⟨firstLine, front⟩⟩
    · cases hread
      have hbad : readPlan plateau rover startLine line = .error fault := hbad
      rw [List.nil_append, readPlans, hbad]
      rfl
    · rw [List.length_singleton] at hlength
      omega
    · exact absurd rfl (hshort firstStart firstLine front)

/-! ## Texts -/

/-- The text of the plateau line and the pairs of lines of the first `n` rovers, without
the blank lines. -/
def firstRovers (n : Nat) (t : Text) : Text :=
  ((Text.inkedLines t).take (1 + 2 * n)).flatMap fun line => line ++ "\n"

theorem contentLines_firstRovers (n : Nat) (t : Text) :
    Text.contentLines (firstRovers n t) = (Text.contentLines t).take (1 + 2 * n) := by
  have hmem : ∀ line ∈ (Text.inkedLines t).take (1 + 2 * n), line ∈ Text.inkedLines t :=
    fun _ => List.mem_of_mem_take
  have hnewline : ∀ line ∈ (Text.inkedLines t).take (1 + 2 * n), '\n' ∉ line :=
    fun line h => Text.newline_not_mem_of_mem_lines (List.mem_of_mem_filter (hmem line h))
  have hinked : ∀ line ∈ (Text.inkedLines t).take (1 + 2 * n), decide (¬ line.IsBlank) = true :=
    fun line h => (List.mem_filter.1 (hmem line h)).2
  rw [Text.contentLines_eq, firstRovers, Text.inkedLines_flatMap hnewline,
    List.filter_eq_self.2 hinked, List.map_take, ← Text.contentLines_eq]

theorem ofText_of_contentLines {t plateauLine : Text} {plans : Except Fault (List Plan)}
    (ht : Text.contentLines t = plateauLine :: lines)
    (hplateau : readPlateau plateauLine = .ok plateau) (heven : lines.length % 2 = 0)
    (hplans : readPlans plateau 1 lines = plans) :
    ofText t = plans.map fun plans => { plateau, plans } := by
  rw [ofText, ht, ofLines, hplateau]
  show (if lines.length % 2 = 0 then _ else _) = _
  rw [if_pos heven, hplans]
  cases plans <;> rfl

/-- A text is refused for a rover only if its plateau line is one and a first pair of
lines is no plan. -/
theorem exists_of_refusedRover? {t : Text} (h : ofText t = .error fault)
    (hrover : fault.refusedRover? = some rover) :
    ∃ plateau plateauLine front plans startLine line behind,
      Text.contentLines t = plateauLine :: (front ++ startLine :: line :: behind) ∧
      readPlateau plateauLine = .ok plateau ∧ front.length = 2 * plans.length ∧
      readPlans plateau 1 front = .ok plans ∧
      readPlan plateau (1 + plans.length) startLine line = .error fault := by
  unfold ofText at h
  cases hcontent : Text.contentLines t with
  | nil =>
    rw [hcontent] at h
    cases h
    cases hrover
  | cons plateauLine roverLines =>
    rw [hcontent] at h
    rcases error_or_exists_of_bind_eq_error h with h | ⟨plateau, hplateau, h⟩
    · rw [refusedRover?_of_readPlateau h] at hrover
      cases hrover
    split at h
    · rcases error_or_exists_of_bind_eq_error h with h | ⟨plans, -, h⟩
      · obtain ⟨front, plans, startLine, line, behind, rfl, hfirst⟩ := exists_first_refused h
        exact ⟨plateau, plateauLine, front, plans, startLine, line, behind, rfl, hplateau, hfirst⟩
      · cases h
    · cases h
      cases hrover

/-- Every text with the same lines up to those of a refused rover is refused for it. -/
theorem ofText_of_first_refused {t plateauLine startLine : Text} {front : List Text}
    {plans : List Plan} (hplateau : readPlateau plateauLine = .ok plateau)
    (hlength : front.length = 2 * plans.length) (hread : readPlans plateau 1 front = .ok plans)
    (hbad : readPlan plateau (1 + plans.length) startLine line = .error fault)
    (htake : (Text.contentLines t).take (1 + 2 * (1 + plans.length)) =
      plateauLine :: (front ++ [startLine, line]))
    (heven : (Text.contentLines t).tail.length % 2 = 0) : ofText t = .error fault := by
  have ht := List.take_append_drop (1 + 2 * (1 + plans.length)) (Text.contentLines t)
  rw [htake, List.cons_append, List.append_assoc] at ht
  rw [← ht] at heven
  exact ofText_of_contentLines ht.symm hplateau heven
    (readPlans_of_first_refused hlength hread hbad _)

theorem take_rovers {plateauLine : Text} {front : List Text} {n : Nat}
    (h : front.length = 2 * n) (behind : List Text) :
    (plateauLine :: (front ++ behind)).take (1 + 2 * n) = plateauLine :: front := by
  rw [Nat.add_comm, List.take_succ_cons, List.take_left' h]

/-- If a text is refused for a rover, the text has the lines of that rover, the rovers in
front of it are read without it, and every text with lines that pair up and with the same
lines up to those of the rover is refused with the same fault.  If a line is left over
behind a plateau line, the text is refused for that. -/
theorem refused_for_first_bad_rover :
    (∀ (t : Text) (fault : Fault) (rover : Nat),
      ofText t = .error fault → fault.BlamesRover rover →
      ∃ n, rover = n + 1 ∧ 2 * rover < (Text.contentLines t).length ∧
        (∃ m, ofText (firstRovers n t) = .ok m ∧ m.plans.length = n) ∧
        ∀ t' : Text,
          (Text.contentLines t').take (1 + 2 * rover) =
            (Text.contentLines t).take (1 + 2 * rover) →
          (Text.contentLines t').tail.length % 2 = 0 → ofText t' = .error fault) ∧
      ∀ (t plateauLine : Text) (lines : List Text) (plateau : Plateau),
        Text.contentLines t = plateauLine :: lines → plateau.Sound →
        Field.Shown plateau.row plateauLine → lines.length % 2 = 1 →
        ofText t = .error (.mission .unpairedLine) := by
  constructor
  · intro t fault rover h hblames
    have hrover := Fault.refusedRover?_of_blames (refusal_of_ofText h) hblames
    obtain ⟨plateau, plateauLine, front, plans, startLine, line, behind, ht, hplateau, hlength,
      hread, hbad⟩ := exists_of_refusedRover? h hrover
    rw [refusedRover?_of_readPlan hbad] at hrover
    cases hrover
    have hfirst : (Text.contentLines t).take (1 + 2 * plans.length) = plateauLine :: front := by
      rw [ht, take_rovers hlength]
    have hupto : (Text.contentLines t).take (1 + 2 * (1 + plans.length)) =
        plateauLine :: (front ++ [startLine, line]) := by
      have hsplit : front ++ startLine :: line :: behind = (front ++ [startLine, line]) ++ behind :=
        (List.append_assoc front [startLine, line] behind).symm
      have htwo : (front ++ [startLine, line]).length = 2 * (1 + plans.length) := by
        rw [List.length_append, hlength, List.length_cons, List.length_singleton]
        omega
      rw [ht, hsplit, take_rovers htwo]
    refine ⟨plans.length, Nat.add_comm 1 _, ?_, ?_, ?_⟩
    · rw [ht, List.length_cons, List.length_append, List.length_cons, List.length_cons]
      omega
    · have hcontent := (contentLines_firstRovers plans.length t).trans hfirst
      exact ⟨_, ofText_of_contentLines hcontent hplateau (by omega) hread, rfl⟩
    · exact fun t' htake heven =>
        ofText_of_first_refused hplateau hlength hread hbad (htake.trans hupto) heven
  · intro t plateauLine lines plateau ht hs hshown hodd
    rw [ofText, ht, ofLines, readPlateau_eq_ok_iff.2 ⟨hs, hshown⟩]
    exact if_neg (by omega)

/-- Two texts that are refused for the heading of the second rover.  The second one ends
with that rover, and a text that is refused for a line left over is refused for nothing
else that is in it. -/
theorem refused_for_first_bad_rover_heading :
    let t : Text := "2 1\n\n 0 0 N\nM \n\n1 1 X\nR\n9 9 W\nno commands\n"
    let t' : Text := "\t2 1\r\n0 0 N\nM\n1 1 X\n\n R"
    let odd : Text := "2 1\n1 1 X\nR\n9 9 W"
    let plateau : Plateau := { maxX := 2, maxY := 1 }
    let fault : Fault := .mission (.startHeading 2 "X")
    ofText t = .error fault ∧ fault.BlamesRover 2 ∧
      (∃ n, 2 = n + 1 ∧ 2 * 2 < (Text.contentLines t).length ∧
        ∃ m, ofText (firstRovers n t) = .ok m ∧ m.plans.length = n) ∧
      (Text.contentLines t').take (1 + 2 * 2) = (Text.contentLines t).take (1 + 2 * 2) ∧
      (Text.contentLines t').tail.length % 2 = 0 ∧ ofText t' = .error fault ∧
      Text.contentLines odd = "2 1".toList :: ["1 1 X".toList, "R".toList, "9 9 W".toList] ∧
      plateau.Sound ∧ Field.Shown plateau.row "2 1".toList ∧
      ["1 1 X".toList, "R".toList, "9 9 W".toList].length % 2 = 1 ∧
      ofText odd = .error (.mission .unpairedLine) := by
  intro t t' odd plateau fault
  have ht : ofText t = .error fault := by decide +kernel
  have hblames : fault.BlamesRover 2 := Or.inr ⟨_, rfl, by decide +kernel⟩
  have htake : (Text.contentLines t').take (1 + 2 * 2) =
      (Text.contentLines t).take (1 + 2 * 2) := by decide +kernel
  have heven : (Text.contentLines t').tail.length % 2 = 0 := by decide +kernel
  have hodd : Text.contentLines odd =
      "2 1".toList :: ["1 1 X".toList, "R".toList, "9 9 W".toList] := by decide +kernel
  have hs : plateau.Sound := by decide
  have hshown : Field.Shown plateau.row "2 1".toList := (readPlateau_eq_ok_iff.1 rfl).2
  obtain ⟨n, hn, hlines, hfront, hsame⟩ := refused_for_first_bad_rover.1 t fault 2 ht hblames
  exact ⟨ht, hblames, ⟨n, hn, hlines, hfront⟩, htake, heven, hsame t' htake heven, hodd, hs, hshown,
    rfl, refused_for_first_bad_rover.2 odd _ _ plateau hodd hs hshown rfl⟩

end Mission
end RoverMission

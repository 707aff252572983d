/-
Where plateaus come from.

A plateau built from a corner or read with a mission keeps its bounds: the corner is not
negative, both moduli are positive, and the origin is on it.  A plateau read from JSON
is taken as it is written (`ofJson?_toJson`, `ofJson?_toJsonList`), so nothing but its
text keeps the corner from being negative.
-/
import RoverMission.Proofs.Ground
import RoverMission.Proofs.Reading
import RoverMission.Proofs.Records

namespace RoverMission
namespace Plateau

variable {plateau : Plateau}

/-- What is relied on of a plateau.  Width and height are the moduli of a step across
the edge. -/
structure KeepsBounds (plateau : Plateau) : Prop where
  sound : plateau.Sound
  width_pos : 0 < plateau.width
  height_pos : 0 < plateau.height
  contains_origin : plateau.Contains { x := 0, y := 0 }

theorem keepsBounds_of_sound (h : plateau.Sound) : plateau.KeepsBounds := by
  have hx : 0 ≤ plateau.maxX.toInt := Int32.le_iff_toInt_le.1 h.1
  have hy : 0 ≤ plateau.maxY.toInt := Int32.le_iff_toInt_le.1 h.2
  refine ⟨h, ?_, ?_, ⟨Int32.le_refl 0, h.1⟩, Int32.le_refl 0, h.2⟩
  · rw [width]
    omega
  · rw [height]
    omega

/-- An unsound plateau does not even have the origin on it. -/
theorem not_contains_origin (h : ¬ plateau.Sound) : ¬ plateau.Contains { x := 0, y := 0 } :=
  fun ⟨⟨_, hx⟩, _, hy⟩ => h ⟨hx, hy⟩

theorem ofCorner?_eq_none_iff {x y : Coordinate} : ofCorner? x y = none ↔ x < 0 ∨ y < 0 := by
  rw [ofCorner?]
  split
  · rename_i h
    exact iff_of_true rfl h
  · rename_i h
    exact iff_of_false (by simp) h

/-! ## Plateaus in JSON -/

/-- The list form of a plateau: its corner. -/
def toJsonList (plateau : Plateau) : Json :=
  .array [.ofInt plateau.maxX.toInt, .ofInt plateau.maxY.toInt]

theorem ofJson?_of_fields {v x y : Json}
    (hfields : Interchange.fields? ["max_x", "max_y"] v = some [x, y])
    (hx : x.coordinate? = some plateau.maxX) (hy : y.coordinate? = some plateau.maxY) :
    ofJson? v = some plateau := by
  rw [ofJson?, hfields]
  show (do return { maxX := ← x.coordinate?, maxY := ← y.coordinate? } : Option Plateau) = _
  rw [hx, hy]
  rfl

theorem ofJson?_toJson (plateau : Plateau) : ofJson? plateau.toJson = some plateau := by
  refine ofJson?_of_fields ?_ (Json.coordinate?_ofInt _) (Json.coordinate?_ofInt _)
  rw [toJson, Json.record, Interchange.fields?, Json.members?_record]
  rfl

theorem ofJson?_toJsonList (plateau : Plateau) : ofJson? plateau.toJsonList = some plateau :=
  ofJson?_of_fields rfl (Json.coordinate?_ofInt _) (Json.coordinate?_ofInt _)

theorem valid_toJson (plateau : Plateau) : plateau.toJson.Valid := by
  refine Json.valid_record fun f hf => ?_
  simp only [List.mem_cons, List.not_mem_nil, or_false] at hf
  rcases hf with rfl | rfl <;> exact .number (Json.isNumber_ofInt _)

theorem valid_toJsonList (plateau : Plateau) : plateau.toJsonList.Valid := by
  refine .array fun v hv => ?_
  simp only [List.mem_cons, List.not_mem_nil, or_false] at hv
  rcases hv with rfl | rfl <;> exact .number (Json.isNumber_ofInt _)

/-! ## The ways to a plateau -/

/-- The ways to a plateau: from its corner, with a mission, or from JSON. -/
inductive Way
  | corner (x y : Coordinate)
  | mission (t : Text)
  | json (t : Text)

def Way.plateau? : Way → Option Plateau
  | corner x y => ofCorner? x y
  | mission t => (Mission.ofText t).toOption.map Mission.plateau
  | json t => (Json.read t).bind ofJson?

theorem sound_of_plateau? {way : Way} (h : way.plateau? = some plateau)
    (hway : ∀ t, way ≠ .json t) : plateau.Sound := by
  cases way with
  | corner x y => exact sound_of_ofCorner? h
  | mission t =>
    obtain ⟨m, hm, rfl⟩ := Option.map_eq_some_iff.1 h
    cases ht : Mission.ofText t with
    | error fault =>
      rw [ht] at hm
      cases hm
    | ok m' =>
      rw [ht] at hm
      cases hm
      exact (Mission.wellFormed_of_ofText ht).1
  | json t => exact absurd rfl (hway t)

theorem plateau?_json {t : Text}
    (h : plateau.toJson.SpelledBy t ∨ plateau.toJsonList.SpelledBy t) :
    (Way.json t).plateau? = some plateau := by
  show (Json.read t).bind ofJson? = some plateau
  rcases h with h | h
  · rw [Json.read_of_spelledBy h]
    exact ofJson?_toJson plateau
  · rw [Json.read_of_spelledBy h]
    exact ofJson?_toJsonList plateau

/-- A corner is refused exactly if it is negative, and so a plateau keeps its bounds
unless it comes from JSON.  From there every plateau comes, by its fields or by the
list of them, and it keeps its bounds exactly if its corner is not negative; if it does
not, then not even the origin is on it. -/
theorem keepsBounds_except_from_json (way : Way) (plateau : Plateau) :
    (∀ x y, (Way.corner x y).plateau? = none ↔ x < 0 ∨ y < 0) ∧
      (way.plateau? = some plateau → (∀ t, way ≠ .json t) → plateau.KeepsBounds) ∧
      (plateau.KeepsBounds ↔ 0 ≤ plateau.maxX ∧ 0 ≤ plateau.maxY) ∧
      (¬ plateau.KeepsBounds → ¬ plateau.Contains { x := 0, y := 0 }) ∧
      plateau.toJson.SpelledBy plateau.toJson.compact ∧
      plateau.toJsonList.SpelledBy plateau.toJsonList.compact ∧
      ∀ t, plateau.toJson.SpelledBy t ∨ plateau.toJsonList.SpelledBy t →
        (Way.json t).plateau? = some plateau := by
  have hiff : plateau.KeepsBounds ↔ plateau.Sound :=
    ⟨KeepsBounds.sound, keepsBounds_of_sound⟩
  refine ⟨fun x y => ofCorner?_eq_none_iff, fun h hway => ?_, hiff, fun h => ?_,
    Json.spelledBy_compact (valid_toJson plateau),
    Json.spelledBy_compact (valid_toJsonList plateau), fun t => plateau?_json⟩
  · exact keepsBounds_of_sound (sound_of_plateau? h hway)
  · exact not_contains_origin (mt hiff.2 h)

/-- The smallest corner, with a mission, and a negative corner in JSON. -/
theorem keepsBounds_except_from_json_extremes :
    let smallest : Plateau := { maxX := 0, maxY := 0 }
    let negative : Plateau := { maxX := -1, maxY := 0 }
    (Way.mission "0 0\n").plateau? = some smallest ∧ smallest.KeepsBounds ∧
      (Way.corner (-1) 0).plateau? = none ∧
      (Way.json negative.toJson.compact).plateau? = some negative ∧
      ¬ negative.KeepsBounds ∧ ¬ negative.Contains { x := 0, y := 0 } := by
  intro smallest negative
  have hsmallest : (Way.mission "0 0\n").plateau? = some smallest := rfl
  have hkeeps := (keepsBounds_except_from_json (.mission "0 0\n") smallest).2.1 hsmallest
    fun t => Way.noConfusion
  obtain ⟨hcorner, -, hiff, horigin, hspelled, -, hread⟩ :=
    keepsBounds_except_from_json (.corner (-1) 0) negative
  have hnegative : ¬ negative.KeepsBounds := mt hiff.1 (by decide)
  exact ⟨hsmallest, hkeeps, (hcorner (-1) 0).2 (by decide), hread _ (Or.inl hspelled), hnegative,
    horigin hnegative⟩

/-- A JSON text with a negative corner is read: a step across the edge would then have
to divide by zero. -/
theorem exists_plateau_from_json_not_keepsBounds :
    ∃ plateau, (Way.json "\x7b\"max_x\":-1,\"max_y\":0\x7d").plateau? = some plateau ∧
      plateau.width = 0 ∧ ¬ plateau.KeepsBounds ∧ ¬ plateau.Contains { x := 0, y := 0 } := by
  refine ⟨{ maxX := -1, maxY := 0 }, by decide +kernel, by decide, fun h => ?_, by decide⟩
  exact absurd h.sound (by decide)

end Plateau
end RoverMission

/-
What a JSON report says.

A report in JSON is one document with a line feed behind it.  However it is read, it
is an array with an object for each outcome, in their order, and from the object all
of the outcome that it is to tell can be got back.
-/
import RoverMission.Interchange
import RoverMission.Proofs.Documents
import RoverMission.Proofs.Room

namespace RoverMission

namespace Json

theorem int?_ofInt (n : Int) : (ofInt n).int? = some n := by
  simp [int?, ofInt, Numeral.toInt?_ofInt]

theorem int?_ofNat (n : Nat) : (ofNat n).int? = some (n : Int) := int?_ofInt (.ofNat n)

theorem coordinate?_ofInt (c : Coordinate) : (ofInt c.toInt).coordinate? = some c := by
  rw [coordinate?, int?_ofInt, Option.bind_some, Coordinate.ofInt?_toInt]

theorem text?_ofText (t : Text) : (ofText t).text? = some t := unescape_escape t

theorem members?_record (fields : List (Text × Json)) :
    Interchange.members? (fields.map fun f => (escape f.1, f.2)) = some fields := by
  induction fields with
  | nil => rfl
  | cons f fields ih =>
    rw [Interchange.members?, List.map_cons, List.mapM_cons, unescape_escape]
    rw [Interchange.members?] at ih
    rw [ih]
    rfl

theorem valid_record {fields : List (Text × Json)} (h : ∀ f ∈ fields, Valid f.2) :
    Valid (record fields) := by
  refine .object (fun m hm => ?_) (fun m hm => ?_)
  · obtain ⟨f, -, rfl⟩ := List.mem_map.1 hm
    exact inside_escape f.1
  · obtain ⟨f, hf, rfl⟩ := List.mem_map.1 hm
    exact h f hf

end Json

/-- An object with a success's rover number, coordinates and heading under these
names, or with a failure's rover number and message, and with nothing else. -/
def Outcome.RecordedBy (o : Outcome) (v : Json) : Prop :=
  ∃ members, v = .object members ∧
    match o.result with
    | .ok pose => ∃ rover x y heading,
        Interchange.members? members =
          some [("rover".toList, rover), ("x".toList, x), ("y".toList, y),
            ("heading".toList, heading)] ∧
        rover.int? = some (o.rover : Int) ∧ x.coordinate? = some pose.position.x ∧
        y.coordinate? = some pose.position.y ∧
        heading.text?.bind Heading.ofText? = some pose.heading
    | .error fault => ∃ rover error,
        Interchange.members? members =
          some [("rover".toList, rover), ("error".toList, error)] ∧
        rover.int? = some (o.rover : Int) ∧ error.text? = some fault.message

namespace Report

theorem recordedBy_jsonRecord (o : Outcome) : o.RecordedBy (jsonRecord o) := by
  rw [Outcome.RecordedBy, jsonRecord]
  cases o.result with
  | ok pose =>
    refine ⟨_, rfl, _, _, _, _, Json.members?_record _, Json.int?_ofNat o.rover,
      Json.coordinate?_ofInt _, Json.coordinate?_ofInt _, ?_⟩
    rw [Json.text?_ofText, Option.bind_some, Heading.ofText?_letter]
  | error fault =>
    exact ⟨_, rfl, _, _, Json.members?_record _, Json.int?_ofNat o.rover,
      Json.text?_ofText fault.message⟩

theorem valid_jsonRecord (o : Outcome) : (jsonRecord o).Valid := by
  have hnat : (Json.ofNat o.rover).Valid := .number (Json.isNumber_ofNat o.rover)
  have hint : ∀ n : Int, (Json.ofInt n).Valid := fun n => .number (Json.isNumber_ofInt n)
  have htext : ∀ t : Text, (Json.ofText t).Valid := fun t => .string (Json.inside_escape t)
  rw [jsonRecord]
  cases o.result with
  | ok pose => exact Json.valid_record (by simp [hnat, hint, htext])
  | error fault => exact Json.valid_record (by simp [hnat, htext])

theorem spelledBy_jsonText (report : Report) :
    (Json.array (report.outcomes.map jsonRecord)).SpelledBy report.jsonText := by
  apply Json.spelledBy_pretty
  refine .array fun v hv => ?_
  obtain ⟨o, -, rfl⟩ := List.mem_map.1 hv
  exact valid_jsonRecord o

/-- The line feed behind the array is white space to a reader. -/
theorem read_jsonText (report : Report) :
    Json.read (report.jsonText ++ "\n") = some (.array (report.outcomes.map jsonRecord)) := by
  have hline : (Json.array (report.outcomes.map jsonRecord)).SpelledBy
      ([] ++ report.jsonText ++ ("\n" : Text)) :=
    .padded (by decide) (by decide) (spelledBy_jsonText report)
  exact Json.read_of_spelledBy hline

theorem render_json (report : Report) :
    report.render .json = Text.utf8 (report.jsonText ++ "\n") := by
  rw [render, Piece.ofReport, List.flatMap_append, Piece.flatMap_bytes_formatted,
    Text.utf8_append]
  rfl

/-- A JSON report is a text of one document and a line feed.  The document is that
of one value only, as which it is read, and this is an array of objects that
record the outcomes one by one. -/
theorem read_json_recordedBy (report : Report) (cutting : Cutting) :
    ∃ (t : Text) (items : List Json),
      Piece.deliver none (Piece.ofReport .json report cutting) =
        (Text.utf8 (t ++ "\n"), none) ∧
      Text.ofUtf8? ⟨(Text.utf8 (t ++ "\n")).toArray⟩ = some (t ++ "\n") ∧
      (Json.array items).SpelledBy t ∧
      (∀ v : Json, v.SpelledBy t → v = .array items) ∧
      Json.read t = some (.array items) ∧
      Json.read (t ++ "\n") = some (.array items) ∧
      List.Forall₂ Outcome.RecordedBy report.outcomes items := by
  have hspelled := spelledBy_jsonText report
  refine ⟨report.jsonText, report.outcomes.map jsonRecord, ?_, Text.ofUtf8?_utf8 _, hspelled,
    fun v hv => Json.eq_of_spelledBy hv hspelled, Json.read_of_spelledBy hspelled,
    read_jsonText report, ?_⟩
  · rw [Piece.deliver_none, Piece.flatMap_bytes_ofReport, render_json]
  · rw [List.forall₂_map_right_iff]
    exact List.forall₂_same.2 fun o _ => recordedBy_jsonRecord o

end Report
end RoverMission

/-
One table in three formats.

A rover that did not fail is a row of four fields, its number and the fields of its
pose.  A CSV report joins them by commas under a line of column names, a text report
leaves the number out and joins the rest by spaces, and a JSON report has them as
values under the column names, between the entries of the rovers that failed.  No
field holds a separator, so cutting undoes the joining and the three tables are
compared row by row (`formats_agree`).
-/
import RoverMission.Proofs.Records

namespace RoverMission

/-! ## Fields -/

namespace Text

/-- A text that stands in a row as it is: nothing in it separates fields or rows, or
asks for quotes. -/
def IsBare (t : Text) : Prop := ∀ c ∈ t, c ∉ [',', '"', ' ', '\n', '\r']

theorem not_mem_of_isBare {s : Char} (hs : s ∈ [',', '"', ' ', '\n', '\r']) {t : Text}
    (h : t.IsBare) : s ∉ t := fun hst => h s hst hs

end Text

theorem Numeral.isBare_ofNat (n : Nat) : (ofNat n).IsBare := by
  intro c hc hmem
  have hdigit : c.isDigit = true := isDigit_of_mem_ofNat hc
  have hnone : [',', '"', ' ', '\n', '\r'].all (fun s => !s.isDigit) = true := by decide
  have hc' := List.all_eq_true.1 hnone c hmem
  rw [hdigit] at hc'
  cases hc'

theorem Numeral.isBare_ofInt (n : Int) : (ofInt n).IsBare := by
  cases n with
  | ofNat n => exact isBare_ofNat n
  | negSucc n => exact List.forall_mem_cons.2 ⟨by decide, isBare_ofNat (n + 1)⟩

theorem Heading.isBare_letter (h : Heading) : Text.IsBare [h.letter] := by
  cases h <;> exact List.forall_mem_singleton.2 (by decide)

namespace Pose

def fields (p : Pose) : List Text :=
  [Numeral.ofCoordinate p.position.x, Numeral.ofCoordinate p.position.y, [p.heading.letter]]

def ofFields? : List Text → Option Pose
  | [x, y, heading] => do
    let position := { x := ← Numeral.coordinate? x, y := ← Numeral.coordinate? y }
    return { position, heading := ← Heading.ofText? heading }
  | _ => none

theorem ofFields?_fields (p : Pose) : ofFields? p.fields = some p := by
  rw [fields, ofFields?, Numeral.coordinate?_ofCoordinate, Numeral.coordinate?_ofCoordinate,
    Heading.ofText?_letter]
  rfl

theorem text_eq_joined (p : Pose) : p.text = Text.joined " " p.fields := by
  simp [text, fields, Text.joined]

theorem isBare_fields (p : Pose) : ∀ field ∈ p.fields, field.IsBare := by
  have hx := Numeral.isBare_ofInt p.position.x.toInt
  have hy := Numeral.isBare_ofInt p.position.y.toInt
  exact List.forall_mem_cons.2 ⟨hx, List.forall_mem_cons.2 ⟨hy,
    List.forall_mem_singleton.2 (Heading.isBare_letter p.heading)⟩⟩

theorem cut_text (p : Pose) : Text.cut (· == ' ') p.text = p.fields := by
  have hspace : ∀ field ∈ p.fields, ' ' ∉ field := fun field hfield =>
    Text.not_mem_of_isBare (by decide) (isBare_fields p field hfield)
  rw [text_eq_joined]
  exact Text.cut_joined (List.cons_ne_nil _ _) hspace

end Pose

/-! ## Rows -/

namespace Report

/-- The rovers that did not fail and where they ended. -/
def successes (report : Report) : List (Nat × Pose) :=
  report.outcomes.filterMap fun o => o.pose?.map fun pose => (o.rover, pose)

def rowFields (success : Nat × Pose) : List Text :=
  Numeral.ofNat success.1 :: success.2.fields

def ofRowFields? : List Text → Option (Nat × Pose)
  | rover :: fields => do return (← Numeral.toNat? rover, ← Pose.ofFields? fields)
  | [] => none

def row (success : Nat × Pose) : Text := Text.joined "," (rowFields success)

def columns : List Text := ["rover", "x", "y", "heading"]

theorem ofRowFields?_rowFields (success : Nat × Pose) :
    ofRowFields? (rowFields success) = some success := by
  rw [rowFields, ofRowFields?, Numeral.toNat?_ofNat, Pose.ofFields?_fields]
  rfl

theorem isBare_rowFields (success : Nat × Pose) : ∀ field ∈ rowFields success, field.IsBare :=
  List.forall_mem_cons.2 ⟨Numeral.isBare_ofNat _, Pose.isBare_fields _⟩

theorem cut_row (success : Nat × Pose) : Text.cut (· == ',') (row success) = rowFields success := by
  have hcomma : ∀ field ∈ rowFields success, ',' ∉ field := fun field hfield =>
    Text.not_mem_of_isBare (by decide) (isBare_rowFields success field hfield)
  exact Text.cut_joined (List.cons_ne_nil _ _) hcomma

end Report

/-! ## Items of a JSON report -/

namespace Json

/-- What a number or a string holds. -/
def field? : Json → Option Text
  | .number literal => some literal
  | .string inside => unescape inside
  | _ => none

/-- What an object holds under some names. -/
def rowUnder? (names : List Text) (v : Json) : Option (List Text) := do
  (← Interchange.fields? names v).mapM field?

def isErrorEntry (v : Json) : Bool := (Interchange.fields? ["error"] v).isSome

theorem fields?_record (names : List Text) (fields : List (Text × Json)) :
    Interchange.fields? names (record fields) = names.mapM fun name =>
      match fields.filter (·.1 == name) with
      | [m] => some m.2
      | _ => none := by
  rw [record, Interchange.fields?, members?_record]
  rfl

end Json

namespace Report

theorem rowUnder?_jsonRecord {o : Outcome} {pose : Pose} (h : o.result = .ok pose) :
    Json.rowUnder? columns (jsonRecord o) = some (rowFields (o.rover, pose)) := by
  have hvalues : Interchange.fields? columns (jsonRecord o) =
      some [.ofNat o.rover, .ofInt pose.position.x.toInt, .ofInt pose.position.y.toInt,
        .ofText [pose.heading.letter]] := by
    rw [jsonRecord, h, Json.fields?_record]
    rfl
  have hletter : (Json.ofText [pose.heading.letter]).field? = some [pose.heading.letter] :=
    Json.unescape_escape _
  rw [Json.rowUnder?, hvalues, Option.bind_eq_bind, Option.bind_some]
  simp only [List.mapM_cons, List.mapM_nil, hletter]
  rfl

theorem isErrorEntry_jsonRecord (o : Outcome) :
    Json.isErrorEntry (jsonRecord o) = o.pose?.isNone := by
  rw [Json.isErrorEntry, jsonRecord, Outcome.pose?]
  cases o.result <;> rw [Json.fields?_record] <;> rfl

theorem rows_of_jsonRecords (outcomes : List Outcome) :
    ((outcomes.map jsonRecord).filter fun item => !item.isErrorEntry).map
        (Json.rowUnder? columns) =
      (Report.successes ⟨outcomes⟩).map fun success => some (rowFields success) := by
  induction outcomes with
  | nil => rfl
  | cons o outcomes ih =>
    rw [List.map_cons, List.filter_cons, isErrorEntry_jsonRecord]
    rw [successes] at ih ⊢
    cases h : o.result with
    | ok pose =>
      have hpose : o.pose? = some pose := by rw [Outcome.pose?, h]; rfl
      rw [List.filterMap_cons, hpose]
      show Json.rowUnder? columns (jsonRecord o) :: _ = some (rowFields (o.rover, pose)) :: _
      rw [rowUnder?_jsonRecord h, ih]
    | error fault =>
      have hpose : o.pose? = none := by rw [Outcome.pose?, h]; rfl
      rw [List.filterMap_cons, hpose]
      exact ih

/-! ## The rendered tables -/

theorem finalPoses_eq (report : Report) : report.finalPoses = report.successes.map Prod.snd := by
  rw [finalPoses, successes, List.map_filterMap]
  congr 1
  funext o
  rw [Option.map_map]
  exact (Option.map_id' ..).symm

theorem csvText_eq (report : Report) :
    report.csvText = (Text.joined "," columns :: report.successes.map row).flatMap
      fun line => line ++ "\n".toList := by
  have hrow : ∀ success : Nat × Pose,
      csvRow success.1 success.2 = row success ++ "\n".toList := by
    intro success
    simp [csvRow, row, rowFields, Pose.fields, Text.joined]
  have hrows : report.outcomes.filterMap csvRow? =
      report.successes.map fun success => row success ++ "\n".toList := by
    rw [successes, List.map_filterMap]
    congr 1
    funext o
    rw [csvRow?, Option.map_map]
    congr 1
    funext pose
    exact hrow (o.rover, pose)
  rw [csvText, hrows, List.flatMap_cons, List.flatMap_map, List.flatMap_def]
  rfl

theorem render_csv (report : Report) : report.render .csv = Text.utf8 report.csvText :=
  Piece.flatMap_bytes_buffered _ _

theorem render_text (report : Report) :
    report.render .text = Text.utf8
      ((report.finalPoses.map Pose.text).flatMap fun line => line ++ "\n".toList) := by
  have hline : ∀ pose : Pose, (Piece.formatted .whole .io (textLine pose)).flatMap Piece.bytes =
      Text.utf8 (textLine pose) := fun pose => Piece.flatMap_bytes_formatted _ _ _
  rw [render, Piece.ofReport, List.flatMap_assoc, Text.utf8, List.flatMap_map, List.flatMap_assoc]
  simp only [hline]
  rfl

theorem lines_csvText (report : Report) :
    Text.lines report.csvText = Text.joined "," columns :: report.successes.map row ++ [[]] := by
  have hrow : ∀ success : Nat × Pose, '\n' ∉ row success := fun success =>
    Text.not_mem_joined (by decide) fun field hfield =>
      Text.not_mem_of_isBare (by decide) (isBare_rowFields success field hfield)
  rw [csvText_eq]
  refine Text.lines_flatMap (List.forall_mem_cons.2 ⟨by decide, fun line hline => ?_⟩)
  obtain ⟨success, -, rfl⟩ := List.mem_map.1 hline
  exact hrow success

theorem newline_not_mem_text (pose : Pose) : '\n' ∉ pose.text := by
  rw [Pose.text_eq_joined]
  exact Text.not_mem_joined (by decide) fun field hfield =>
    Text.not_mem_of_isBare (by decide) (Pose.isBare_fields pose field hfield)

theorem lines_poses (poses : List Pose) :
    Text.lines ((poses.map Pose.text).flatMap fun line => line ++ "\n".toList) =
      poses.map Pose.text ++ [[]] := by
  refine Text.lines_flatMap fun line hline => ?_
  obtain ⟨pose, -, rfl⟩ := List.mem_map.1 hline
  exact newline_not_mem_text pose

/-- The lines of a CSV report are the column names and a row of bare fields for each
rover that did not fail, in their order.  Those of a text report are the rows
without their first column, cut at spaces in place of commas, and the items of a
JSON report are the rows once the error entries are left out. -/
theorem formats_agree (report : Report) :
    ∃ (csv text json : Text) (rows poseLines : List Text) (items : List Json),
      report.render .csv = Text.utf8 csv ∧ report.render .text = Text.utf8 text ∧
      report.render .json = Text.utf8 json ∧
      Text.lines csv = "rover,x,y,heading".toList :: rows ++ [[]] ∧
      Text.lines text = poseLines ++ [[]] ∧
      Json.read json = some (.array items) ∧
      (∀ row ∈ rows, ∀ field ∈ Text.cut (· == ',') row, field.IsBare) ∧
      rows.map (fun row => ofRowFields? (Text.cut (· == ',') row)) =
        report.successes.map some ∧
      poseLines.map (fun line => Pose.ofFields? (Text.cut (· == ' ') line)) =
        report.successes.map (fun success => some success.2) ∧
      poseLines = rows.map (fun row => Text.joined " " (Text.cut (· == ',') row).tail) ∧
      (items.filter fun item => !item.isErrorEntry).map
          (Json.rowUnder? (Text.cut (· == ',') "rover,x,y,heading")) =
        rows.map fun row => some (Text.cut (· == ',') row) := by
  refine ⟨report.csvText, _, report.jsonText ++ "\n", report.successes.map row,
    report.finalPoses.map Pose.text, report.outcomes.map jsonRecord, render_csv report,
    render_text report, render_json report, lines_csvText report,
    lines_poses report.finalPoses, read_jsonText report, ?_, ?_, ?_, ?_, ?_⟩
  · intro line hline
    obtain ⟨success, -, rfl⟩ := List.mem_map.1 hline
    rw [cut_row]
    exact isBare_rowFields success
  · rw [List.map_map]
    refine List.map_congr_left fun success _ => ?_
    show ofRowFields? (Text.cut (· == ',') (row success)) = some success
    rw [cut_row, ofRowFields?_rowFields]
  · rw [finalPoses_eq, List.map_map, List.map_map]
    refine List.map_congr_left fun success _ => ?_
    show Pose.ofFields? (Text.cut (· == ' ') success.2.text) = some success.2
    rw [Pose.cut_text, Pose.ofFields?_fields]
  · rw [finalPoses_eq, List.map_map, List.map_map]
    refine List.map_congr_left fun success _ => ?_
    show success.2.text = Text.joined " " (Text.cut (· == ',') (row success)).tail
    rw [cut_row, Pose.text_eq_joined]
    rfl
  · have hcolumns : Text.cut (· == ',') "rover,x,y,heading" = columns := by decide
    rw [hcolumns, rows_of_jsonRecords, List.map_map]
    refine List.map_congr_left fun success _ => ?_
    show some (rowFields success) = some (Text.cut (· == ',') (row success))
    rw [cut_row]

end Report
end RoverMission

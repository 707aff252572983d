/-
Rendered reports.

A rendering is a list of pieces, handed to a writer one by one until one is
refused; each has the fault that follows then.  A text report has a line per
pose.  A JSON report is the array and then a line feed.  How these texts are cut
into writes is up to whoever formats them (`Cutting`).  CSV rows gather in a
buffer of 8192 bytes that is handed on only when more is to come, so the last
piece is what the final flush writes.
-/
import RoverMission.Report
import RoverMission.Json
import RoverMission.Writer

namespace RoverMission

/-- How formatted bytes are cut into single writes. -/
structure Cutting where
  parts : List UInt8 → List (List UInt8)
  flatten_parts : ∀ bytes, (parts bytes).flatten = bytes

/-- One write for everything. -/
def Cutting.whole : Cutting where
  parts bytes := [bytes]
  flatten_parts := List.append_nil

/-- How a piece gets to a writer. -/
inductive Passage
  | direct
  /-- Out of a full buffer. -/
  | fullBuffer
  /-- Out of a buffer that is given up behind it. -/
  | lastBuffer

/-- A part of the output and the fault of a writer's refusing it. -/
structure Piece where
  bytes : List UInt8
  fault : IoFault → Fault
  passage : Passage := .direct

namespace Report

def textLine (pose : Pose) : Text := pose.text ++ "\n"

def jsonRecord (o : Outcome) : Json :=
  match o.result with
  | .ok pose =>
    .record
      [("rover", .ofNat o.rover), ("x", .ofInt pose.position.x.toInt),
       ("y", .ofInt pose.position.y.toInt), ("heading", .ofText [pose.heading.letter])]
  | .error fault => .record [("rover", .ofNat o.rover), ("error", .ofText fault.message)]

def jsonText (report : Report) : Text := Json.pretty (.array (report.outcomes.map jsonRecord))

def csvHeader : Text := "rover,x,y,heading\n"

def csvRow (rover : Nat) (pose : Pose) : Text :=
  Numeral.ofNat rover ++ "," ++ Numeral.ofCoordinate pose.position.x ++ ","
    ++ Numeral.ofCoordinate pose.position.y ++ "," ++ [pose.heading.letter] ++ "\n"

/-- The row of a rover that did not fail. -/
def csvRow? (o : Outcome) : Option Text := o.pose?.map (csvRow o.rover)

def csvText (report : Report) : Text :=
  csvHeader ++ (report.outcomes.filterMap csvRow?).flatten

end Report

namespace Piece

def bufferSize : Nat := 8192

/-- Cut buffered bytes into full buffers, as long as more follows, and the rest
that the final flush hands on. -/
def buffered : (fuel : Nat) → List UInt8 → List Piece
  | fuel + 1, bytes =>
    if bufferSize < bytes.length then
      { bytes := bytes.take bufferSize, fault := .csvOutput, passage := .fullBuffer }
        :: buffered fuel (bytes.drop bufferSize)
    else
      [{ bytes, fault := .io, passage := .lastBuffer }]
  | 0, bytes => [{ bytes, fault := .io, passage := .lastBuffer }]

/-- The writes of a formatted text. -/
def formatted (cutting : Cutting) (fault : IoFault → Fault) (t : Text) : List Piece :=
  (cutting.parts (Text.utf8 t)).map fun bytes => { bytes, fault }

/-- The pieces in which a report is written. -/
def ofReport (format : OutputFormat) (report : Report) (cutting : Cutting := .whole) :
    List Piece :=
  match format with
  | .text => report.finalPoses.flatMap fun pose => formatted cutting .io (Report.textLine pose)
  | .json =>
    formatted cutting .jsonOutput report.jsonText ++ [{ bytes := Text.utf8 "\n", fault := .io }]
  | .csv =>
    let bytes := Text.utf8 report.csvText
    buffered bytes.length bytes

variable {σ : Type}

/-- Hand a piece to a writer. -/
def hand (w : Writer σ) (s : σ) (piece : Piece) : σ × Option Fault :=
  match w.write s piece.bytes, piece.passage with
  | (s, none), .lastBuffer =>
    let (s, cause) := w.close s
    (s, cause.map piece.fault)
  | (s, none), _ => (s, none)
  | (s, some cause), .direct => (s, some (piece.fault cause))
  | (s, some cause), _ => (w.giveUp s piece.bytes, some (piece.fault cause))

/-- Hand over pieces up to the first that is refused. -/
def handAll (w : Writer σ) : σ → List Piece → σ × Option Fault
  | s, [] => (s, none)
  | s, piece :: pieces =>
    match piece.hand w s with
    | (s, none) => handAll w s pieces
    | (s, some fault) => (s, some fault)

end Piece

/-- The bytes of a rendered report. -/
def Report.render (format : OutputFormat) (report : Report) : List UInt8 :=
  (Piece.ofReport format report).flatMap Piece.bytes

namespace Piece

theorem flatMap_bytes_formatted (cutting : Cutting) (fault : IoFault → Fault) (t : Text) :
    (formatted cutting fault t).flatMap bytes = Text.utf8 t := by
  rw [formatted, List.flatMap_map]
  show (cutting.parts (Text.utf8 t)).flatMap id = Text.utf8 t
  rw [List.flatMap_id, cutting.flatten_parts]

theorem flatMap_bytes_buffered (fuel : Nat) (bytes : List UInt8) :
    (buffered fuel bytes).flatMap Piece.bytes = bytes := by
  induction fuel generalizing bytes with
  | zero => simp [buffered]
  | succ fuel ih =>
    rw [buffered]
    split
    · rw [List.flatMap_cons, ih, List.take_append_drop]
    · simp

/-- What is written does not depend on the cutting. -/
theorem flatMap_bytes_ofReport (format : OutputFormat) (report : Report) (cutting : Cutting) :
    (ofReport format report cutting).flatMap bytes = report.render format := by
  cases format with
  | text => simp only [Report.render, ofReport, List.flatMap_assoc, flatMap_bytes_formatted]
  | json => simp only [Report.render, ofReport, List.flatMap_append, flatMap_bytes_formatted]
  | csv => rfl

end Piece
end RoverMission

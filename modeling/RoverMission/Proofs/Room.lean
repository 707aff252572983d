/-
Outputs that fill up.

An output with limited room takes the beginning of what it is handed and refuses
the first piece that does not fit (`overflow?`).  From then on it is full, so a
buffer that is handed over once more adds nothing.  Which piece is refused decides
the fault, and so each format has faults of its own.
-/
import RoverMission.Delivery

namespace RoverMission
namespace Piece

/-- The fault of the first piece that does not fit into some room. -/
def overflow? : (room : Nat) → List Piece → Option Fault
  | _, [] => none
  | room, piece :: pieces =>
    if piece.bytes.length ≤ room then overflow? (room - piece.bytes.length) pieces
    else some (piece.fault .outputFull)

/-! ## Handing over -/

theorem hand_output (room : Nat) (taken : List UInt8) (piece : Piece) :
    piece.hand Output.writer { room := some room, taken } =
      ({ room := some (room - piece.bytes.length), taken := taken ++ piece.bytes.take room },
        if piece.bytes.length ≤ room then none else some (piece.fault .outputFull)) := by
  obtain ⟨bytes, fault, passage⟩ := piece
  by_cases h : bytes.length ≤ room
  · cases passage <;> simp [hand, Output.writer, Output.write, Writer.close, h]
  · -- The output is full, so what a buffer holds is refused once more.
    have hfull : room - bytes.length = 0 := by omega
    have hne : bytes ≠ [] := by
      rintro rfl
      exact h (Nat.zero_le room)
    cases passage <;>
      simp [hand, Output.writer, Output.write, Writer.giveUp, h, hfull, hne]

theorem handAll_output (room : Nat) (taken : List UInt8) (pieces : List Piece) :
    handAll Output.writer { room := some room, taken } pieces =
      ({ room := some (room - (pieces.flatMap bytes).length)
         taken := taken ++ (pieces.flatMap bytes).take room },
        overflow? room pieces) := by
  induction pieces generalizing room taken with
  | nil => simp [handAll, overflow?]
  | cons piece pieces ih =>
    rw [handAll, hand_output, overflow?]
    by_cases h : piece.bytes.length ≤ room
    · simp only [if_pos h]
      rw [ih, List.flatMap_cons, List.length_append, Nat.sub_add_eq, List.take_append,
        List.append_assoc]
    · have hfull : room - piece.bytes.length = 0 := by omega
      simp only [if_neg h]
      rw [List.flatMap_cons, List.length_append, Nat.sub_add_eq, List.take_append, hfull,
        Nat.zero_sub, List.take_zero, List.append_nil]

theorem handAll_unlimited (taken : List UInt8) (pieces : List Piece) :
    handAll Output.writer { room := none, taken } pieces =
      ({ room := none, taken := taken ++ pieces.flatMap bytes }, none) := by
  induction pieces generalizing taken with
  | nil => simp [handAll]
  | cons piece pieces ih =>
    have hhand : piece.hand Output.writer { room := none, taken } =
        ({ room := none, taken := taken ++ piece.bytes }, none) := by
      obtain ⟨bytes, fault, passage⟩ := piece
      cases passage <;> rfl
    rw [handAll, hhand]
    simp only
    rw [ih, List.flatMap_cons, List.append_assoc]

theorem deliver_none (pieces : List Piece) :
    deliver none pieces = (pieces.flatMap bytes, none) := by
  rw [deliver, handAll_unlimited]
  rfl

theorem deliver_some (room : Nat) (pieces : List Piece) :
    deliver (some room) pieces = ((pieces.flatMap bytes).take room, overflow? room pieces) := by
  rw [deliver, handAll_output]
  rfl

/-! ## The piece that does not fit -/

theorem overflow?_eq_none_iff {room : Nat} {pieces : List Piece} :
    overflow? room pieces = none ↔ (pieces.flatMap bytes).length ≤ room := by
  induction pieces generalizing room with
  | nil => simp [overflow?]
  | cons piece pieces ih =>
    rw [overflow?, List.flatMap_cons, List.length_append]
    by_cases h : piece.bytes.length ≤ room
    · rw [if_pos h, ih]
      omega
    · rw [if_neg h]
      simp only [reduceCtorEq, false_iff]
      omega

theorem exists_of_overflow? {room : Nat} {pieces : List Piece} {fault : Fault}
    (h : overflow? room pieces = some fault) :
    ∃ piece ∈ pieces, fault = piece.fault .outputFull := by
  induction pieces generalizing room with
  | nil => cases h
  | cons piece pieces ih =>
    rw [overflow?] at h
    split at h
    · obtain ⟨piece', hmem, hf⟩ := ih h
      exact ⟨piece', List.mem_cons_of_mem piece hmem, hf⟩
    · cases h
      exact ⟨piece, List.mem_cons_self, rfl⟩

theorem overflow?_append (room : Nat) (a b : List Piece) :
    overflow? room (a ++ b) =
      (overflow? room a).or (overflow? (room - (a.flatMap bytes).length) b) := by
  induction a generalizing room with
  | nil => rfl
  | cons piece a ih =>
    rw [List.cons_append, overflow?, overflow?, List.flatMap_cons, List.length_append,
      Nat.sub_add_eq]
    by_cases h : piece.bytes.length ≤ room
    · rw [if_pos h, if_pos h, ih]
    · rw [if_neg h, if_neg h]
      rfl

/-! ## Formats -/

theorem fault_of_mem_formatted {cutting : Cutting} {fault : IoFault → Fault} {t : Text}
    {piece : Piece} (h : piece ∈ formatted cutting fault t) : piece.fault = fault := by
  obtain ⟨bytes, -, rfl⟩ := List.mem_map.1 h
  rfl

theorem fault_of_mem_buffered {fuel : Nat} {bytes : List UInt8} {piece : Piece}
    (h : piece ∈ buffered fuel bytes) : piece.fault = .io ∨ piece.fault = .csvOutput := by
  induction fuel generalizing bytes with
  | zero =>
    rw [List.mem_singleton.1 h]
    exact Or.inl rfl
  | succ fuel ih =>
    rw [buffered] at h
    split at h
    · rcases List.mem_cons.1 h with rfl | h
      · exact Or.inr rfl
      · exact ih h
    · rw [List.mem_singleton.1 h]
      exact Or.inl rfl

/-- What fits into the buffer waits for the final flush. -/
theorem buffered_of_le {bytes : List UInt8} (h : bytes.length ≤ bufferSize) (fuel : Nat) :
    buffered fuel bytes = [{ bytes, fault := .io, passage := .lastBuffer }] := by
  cases fuel with
  | zero => rfl
  | succ fuel => rw [buffered, if_neg (Nat.not_lt.2 h)]

section

variable {report : Report} {cutting : Cutting} {room : Nat} {fault : Fault}

theorem overflow?_text (h : overflow? room (ofReport .text report cutting) = some fault) :
    fault = .io .outputFull := by
  obtain ⟨piece, hmem, rfl⟩ := exists_of_overflow? h
  obtain ⟨pose, -, hpiece⟩ := List.mem_flatMap.1 hmem
  rw [fault_of_mem_formatted hpiece]

/-- The array of a JSON report is refused, unless only the line feed behind it is. -/
theorem overflow?_json (h : overflow? room (ofReport .json report cutting) = some fault) :
    (room + 1 < (report.render .json).length → fault = .jsonOutput .outputFull) ∧
      (room + 1 = (report.render .json).length → fault = .io .outputFull) := by
  have hlength : (report.render .json).length = (Text.utf8 report.jsonText).length + 1 := by
    rw [← flatMap_bytes_ofReport .json report cutting, ofReport, List.flatMap_append,
      List.length_append, flatMap_bytes_formatted]
    rfl
  rw [ofReport, overflow?_append, flatMap_bytes_formatted] at h
  cases harray : overflow? room (formatted cutting .jsonOutput report.jsonText) with
  | some fault' =>
    have hroom : ¬ (Text.utf8 report.jsonText).length ≤ room := by
      rw [← flatMap_bytes_formatted cutting .jsonOutput report.jsonText, ← overflow?_eq_none_iff,
        harray]
      exact Option.some_ne_none fault'
    obtain ⟨piece, hmem, rfl⟩ := exists_of_overflow? harray
    rw [harray] at h
    cases h
    rw [fault_of_mem_formatted hmem]
    exact ⟨fun _ => rfl, fun heq => by omega⟩
  | none =>
    have hroom := overflow?_eq_none_iff.1 harray
    rw [flatMap_bytes_formatted] at hroom
    rw [harray] at h
    obtain ⟨piece, hmem, rfl⟩ := exists_of_overflow? h
    rw [List.mem_singleton.1 hmem]
    exact ⟨fun hlt => by omega, fun _ => rfl⟩

theorem overflow?_csv (h : overflow? room (ofReport .csv report cutting) = some fault) :
    (fault = .io .outputFull ∨ fault = .csvOutput .outputFull) ∧
      ((report.render .csv).length < bufferSize → fault = .io .outputFull) := by
  obtain ⟨piece, hmem, rfl⟩ := exists_of_overflow? h
  constructor
  · rcases fault_of_mem_buffered hmem with hf | hf
    · exact Or.inl (by rw [hf])
    · exact Or.inr (by rw [hf])
  · intro hlt
    have hbytes : report.render .csv = Text.utf8 report.csvText := flatMap_bytes_buffered _ _
    rw [hbytes] at hlt
    rw [ofReport, buffered_of_le (Nat.le_of_lt hlt)] at hmem
    rw [List.mem_singleton.1 hmem]

end

/-- An output with limited room takes the beginning of the report that it would
take with room for everything, and the report is written if and only if all of it
fits.  Otherwise the fault is one of the output in text, one of the format in
JSON unless only the last line feed is missing, and either in CSV, where reports
shorter than the buffer only fail at the final flush. -/
theorem deliver_ofReport (format : OutputFormat) (report : Report) (cutting : Cutting)
    (room : Nat) :
    ∃ full, deliver none (ofReport format report cutting) = (full, none) ∧
      ∃ failure, deliver (some room) (ofReport format report cutting) =
          (full.take room, failure) ∧
        (failure = none ↔ full.length ≤ room) ∧
        ∀ fault, failure = some fault →
          match format with
          | .text => fault = .io .outputFull
          | .json =>
            (room + 1 < full.length → fault = .jsonOutput .outputFull) ∧
              (room + 1 = full.length → fault = .io .outputFull)
          | .csv =>
            (fault = .io .outputFull ∨ fault = .csvOutput .outputFull) ∧
              (full.length < 8192 → fault = .io .outputFull) := by
  refine ⟨report.render format, ?_, overflow? room (ofReport format report cutting), ?_, ?_,
    fun fault h => ?_⟩
  · rw [deliver_none, flatMap_bytes_ofReport]
  · rw [deliver_some, flatMap_bytes_ofReport]
  · rw [overflow?_eq_none_iff, flatMap_bytes_ofReport]
  · cases format with
    | text => exact overflow?_text h
    | json => exact overflow?_json h
    | csv => exact overflow?_csv h

/-- A rover that arrived and one that did not, on an output that fills up inside the
line of the first, the record of the second and the row of the first. -/
theorem deliver_ofReport_cut_short :
    let report : Report :=
      { outcomes :=
          [{ rover := 1, result := .ok { position := ⟨1, 3⟩, heading := .north } },
            { rover := 2
              result := .error (.outOfBounds 2 7 { position := ⟨5, 1⟩, heading := .east }) }] }
    deliver (some 3) (ofReport .text report) = (Text.utf8 "1 3", some (.io .outputFull)) ∧
      deliver (some 84) (ofReport .json report) =
        (Text.utf8 ("[\n  \x7b\n    \"rover\": 1,\n    \"x\": 1,\n    \"y\": 3,\n"
          ++ "    \"heading\": \"N\"\n  \x7d,\n  \x7b\n    \"rover"),
          some (.jsonOutput .outputFull)) ∧
      deliver (some 22) (ofReport .csv report) =
        (Text.utf8 "rover,x,y,heading\n1,1,", some (.io .outputFull)) := by
  intro report
  have hfull (format : OutputFormat) {full : List UInt8}
      (h : deliver none (ofReport format report) = (full, none)) : full = report.render format := by
    rw [deliver_none] at h
    exact (congrArg Prod.fst h).symm
  refine ⟨?_, ?_, ?_⟩
  · obtain ⟨full, h, failure, hcut, hnone, hfault⟩ := deliver_ofReport .text report .whole 3
    obtain rfl := hfull .text h
    obtain ⟨fault, rfl⟩ := Option.ne_none_iff_exists'.1 (mt hnone.1 (by decide +kernel))
    rw [hcut, hfault fault rfl]
    decide +kernel
  · obtain ⟨full, h, failure, hcut, hnone, hfault⟩ := deliver_ofReport .json report .whole 84
    obtain rfl := hfull .json h
    obtain ⟨fault, rfl⟩ := Option.ne_none_iff_exists'.1 (mt hnone.1 (by decide +kernel))
    rw [hcut, (hfault fault rfl).1 (by decide +kernel)]
    decide +kernel
  · obtain ⟨full, h, failure, hcut, hnone, hfault⟩ := deliver_ofReport .csv report .whole 22
    obtain rfl := hfull .csv h
    obtain ⟨fault, rfl⟩ := Option.ne_none_iff_exists'.1 (mt hnone.1 (by decide +kernel))
    rw [hcut, (hfault fault rfl).2 (by decide +kernel)]
    decide +kernel

end Piece
end RoverMission

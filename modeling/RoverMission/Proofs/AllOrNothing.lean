/-
Missions that reach the writer, and missions that do not.

The writer is touched only when there is a report to write, so a source that
cannot be read, a text that is no mission and a rover that ends the mission leave
it as it was.  A report is written in the same way whichever error mode it came
from, and a mission that fails fast at the edge has its fault as the first failure
of the collected report.
-/
import RoverMission.Delivery
import RoverMission.Proofs.ErrorModes
import RoverMission.Proofs.Reading

namespace RoverMission

/-! ## Writers that accept everything -/

namespace Writer

variable {σ : Type}

/-- From a state on, a writer refuses nothing: it stays among states in which no
write and no flush is refused. -/
def Accepts (w : Writer σ) (s : σ) : Prop :=
  ∃ P : σ → Prop, P s ∧ ∀ s, P s →
    (∀ bytes, ∃ s', w.write s bytes = (s', none) ∧ P s') ∧ ∃ s', w.flush s = (s', none) ∧ P s'

/-- A writer that keeps the bytes it is handed in order. -/
def recorded (w : Writer σ) : Writer (σ × List UInt8) where
  write s bytes :=
    let (s', cause) := w.write s.1 bytes
    ((s', s.2 ++ bytes), cause)
  flush s :=
    let (s', cause) := w.flush s.1
    ((s', s.2), cause)

theorem accepts_write {w : Writer σ} {s : σ} (h : w.Accepts s) (bytes : List UInt8) :
    ∃ s', w.write s bytes = (s', none) ∧ w.Accepts s' := by
  obtain ⟨P, hs, hP⟩ := h
  obtain ⟨s', he, hs'⟩ := (hP s hs).1 bytes
  exact ⟨s', he, P, hs', hP⟩

theorem accepts_flush {w : Writer σ} {s : σ} (h : w.Accepts s) :
    ∃ s', w.flush s = (s', none) ∧ w.Accepts s' := by
  obtain ⟨P, hs, hP⟩ := h
  obtain ⟨s', he, hs'⟩ := (hP s hs).2
  exact ⟨s', he, P, hs', hP⟩

theorem accepts_unlimited (taken : List UInt8) :
    Output.writer.Accepts { room := none, taken } := by
  refine ⟨fun o => o.room = none, rfl, fun o ho => ⟨fun bytes => ?_, o, rfl, ho⟩⟩
  obtain ⟨room, before⟩ := o
  subst ho
  exact ⟨{ room := none, taken := before ++ bytes }, rfl, rfl⟩

variable {w : Writer σ} {s : σ}

theorem hand_of_accepts (h : w.Accepts s) (piece : Piece) :
    ∃ s', piece.hand w s = (s', none) ∧ w.Accepts s' ∧
      ∀ log, piece.hand w.recorded (s, log) = ((s', log ++ piece.bytes), none) := by
  obtain ⟨s₁, hw, h₁⟩ := accepts_write h piece.bytes
  obtain ⟨s₂, hf, h₂⟩ := accepts_flush h₁
  obtain ⟨s₃, hf', h₃⟩ := accepts_flush h₂
  cases hp : piece.passage with
  | direct | fullBuffer =>
    refine ⟨s₁, ?_, h₁, ?_⟩
    · simp [Piece.hand, hw, hp]
    · intro log
      simp [Piece.hand, recorded, hw, hp]
  | lastBuffer =>
    refine ⟨s₃, ?_, h₃, ?_⟩
    · simp [Piece.hand, close, hw, hf, hf', hp]
    · intro log
      simp [Piece.hand, recorded, close, hw, hf, hf', hp]

theorem handAll_of_accepts (h : w.Accepts s) (pieces : List Piece) :
    ∃ s', Piece.handAll w s pieces = (s', none) ∧ w.Accepts s' ∧
      ∀ log, Piece.handAll w.recorded (s, log) pieces =
        ((s', log ++ pieces.flatMap Piece.bytes), none) := by
  induction pieces generalizing s with
  | nil => exact ⟨s, rfl, h, fun log => by simp [Piece.handAll]⟩
  | cons piece pieces ih =>
    obtain ⟨s₁, hhand, h₁, hrecorded⟩ := hand_of_accepts h piece
    obtain ⟨s₂, hall, h₂, hrecordedAll⟩ := ih h₁
    refine ⟨s₂, ?_, h₂, fun log => ?_⟩
    · rw [Piece.handAll, hhand]
      exact hall
    · rw [Piece.handAll, hrecorded]
      simp only
      rw [hrecordedAll, List.flatMap_cons, List.append_assoc]

theorem writeTo_of_accepts (h : w.Accepts s) (format : OutputFormat) (report : Report)
    (cutting : Cutting) :
    ∃ s', report.writeTo w s format cutting = (s', none) ∧
      report.writeTo w.recorded (s, []) format cutting =
        ((s', report.render format), none) := by
  obtain ⟨s₁, hall, h₁, hrecorded⟩ :=
    handAll_of_accepts h (Piece.ofReport format report cutting)
  obtain ⟨s₂, hf, -⟩ := accepts_flush h₁
  have hbytes := hrecorded []
  rw [Piece.flatMap_bytes_ofReport, List.nil_append] at hbytes
  refine ⟨s₂, ?_, ?_⟩
  · rw [Report.writeTo, hall]
    simp [hf]
  · rw [Report.writeTo, hbytes]
    simp [recorded, hf]

end Writer

/-! ## Attempts -/

namespace Attempt

theorem result_ofExcept {α : Type} (x : Except Fault α) : (ofExcept x).result = x := rfl

end Attempt

namespace Mission

theorem result_read (t : Text) : (read t).result = ofText t := by
  rw [read]
  cases h : ofText t with
  | error fault =>
    rw [Attempt.result_bind_error (Attempt.result_ofExcept _)]
  | ok m =>
    rw [Attempt.result_bind_ok (Attempt.result_ofExcept _),
      Attempt.result_bind_ok (Attempt.result_record _)]
    rfl

end Mission

namespace Delivery

variable {σ : Type} {w : Writer σ} {s : σ} {settings : Settings} {label : Text} {cutting : Cutting}
variable {fault : Fault} {report : Report} {t : Text} {m : Mission}

theorem result_attempt_of_source (settings : Settings) (label : Text) (fault : Fault) :
    (attempt settings label (.error fault)).result = .error fault := by
  rw [attempt, Attempt.result_bind_ok (Attempt.result_record _),
    Attempt.result_bind_error (Attempt.result_ofExcept _)]

theorem result_attempt_of_text (h : Mission.ofText t = .error fault) :
    (attempt settings label (.ok t)).result = .error fault := by
  rw [attempt, Attempt.result_bind_ok (Attempt.result_record _),
    Attempt.result_bind_ok (Attempt.result_ofExcept _),
    Attempt.result_bind_error ((Mission.result_read t).trans h)]

theorem result_attempt_of_mission (h : Mission.ofText t = .ok m) :
    (attempt settings label (.ok t)).result =
      (Report.ofMission settings.policy settings.errorMode m).result := by
  rw [attempt, Attempt.result_bind_ok (Attempt.result_record _),
    Attempt.result_bind_ok (Attempt.result_ofExcept _),
    Attempt.result_bind_ok ((Mission.result_read t).trans h),
    Attempt.result_bind_ok (Attempt.result_record _)]

theorem result_attempt_collect_of_ok
    (h : (attempt { settings with errorMode := .failFast } label (.ok t)).result = .ok report) :
    (attempt { settings with errorMode := .collect } label (.ok t)).result = .ok report := by
  cases ht : Mission.ofText t with
  | error fault =>
    rw [result_attempt_of_text ht] at h
    cases h
  | ok m =>
    rw [result_attempt_of_mission ht, Report.result_ofMission_failFast] at h
    rw [result_attempt_of_mission ht, Report.result_ofMission_collect]
    simp only at h ⊢
    cases hfirst : (Report.collected settings.policy m).outcomes.findSome? Outcome.fault? with
    | none =>
      rw [hfirst] at h
      exact h
    | some fault =>
      rw [hfirst] at h
      cases h

/-- A rover that ends the mission at the edge is the first that fails when errors
are collected. -/
theorem exists_report_of_outOfBounds {rover instruction : Nat} {pose : Pose}
    (h : (attempt { settings with errorMode := .failFast } label (.ok t)).result =
      .error (.outOfBounds rover instruction pose)) :
    ∃ report, (attempt { settings with errorMode := .collect } label (.ok t)).result =
        .ok report ∧
      report.failures.head? = some (.outOfBounds rover instruction pose) := by
  cases ht : Mission.ofText t with
  | error fault =>
    rw [result_attempt_of_text ht] at h
    cases h
    -- Faults in the text are of another category.
    cases Mission.category_of_ofText ht
  | ok m =>
    rw [result_attempt_of_mission ht, Report.result_ofMission_failFast] at h
    refine ⟨Report.collected settings.policy m, ?_, ?_⟩
    · rw [result_attempt_of_mission ht, Report.result_ofMission_collect]
    · rw [Report.failures, List.head?_filterMap]
      simp only at h
      cases hfirst : (Report.collected settings.policy m).outcomes.findSome? Outcome.fault? with
      | none =>
        rw [hfirst] at h
        cases h
      | some fault =>
        rw [hfirst] at h
        cases h
        rfl

/-! ## Runs -/

/-- What comes of writing a report. -/
def written (report : Report) : σ × Option Fault → σ × Except Fault Report
  | (s, none) => (s, .ok report)
  | (s, some fault) => (s, .error fault)

theorem value_runOn_of_error {source : Except Fault Text}
    (h : (attempt settings label source).result = .error fault) :
    (runOn w s settings label source cutting).value = (s, .error fault) := by
  have hrun : (attempt settings label source).run.value = .error fault := h
  rw [runOn, Logged.value_bind, hrun]
  rfl

theorem value_runOn_of_ok {source : Except Fault Text}
    (h : (attempt settings label source).result = .ok report) :
    (runOn w s settings label source cutting).value =
      written report (report.writeTo w s settings.format cutting) := by
  have hrun : (attempt settings label source).run.value = .ok report := h
  rw [runOn, Logged.value_bind, hrun]
  simp only
  rcases report.writeTo w s settings.format cutting with ⟨s', _ | fault⟩ <;> rfl

theorem value_runOn_of_accepts {source : Except Fault Text} (cutting : Cutting)
    (hw : w.Accepts s) (h : (attempt settings label source).result = .ok report) :
    ∃ s', (runOn w s settings label source cutting).value = (s', .ok report) ∧
      (runOn w.recorded (s, []) settings label source cutting).value =
        ((s', report.render settings.format), .ok report) := by
  obtain ⟨s', hs', hrecorded⟩ := Writer.writeTo_of_accepts hw settings.format report cutting
  refine ⟨s', ?_, ?_⟩
  · rw [value_runOn_of_ok h, hs']
    rfl
  · rw [value_runOn_of_ok h, hrecorded]
    rfl

/-- With a writer that accepts everything, a run comes to what the mission comes to. -/
theorem result_attempt_of_accepts {source : Except Fault Text} {result : Except Fault Report}
    {s' : σ} (hw : w.Accepts s)
    (h : (runOn w s settings label source cutting).value = (s', result)) :
    (attempt settings label source).result = result := by
  cases hattempt : (attempt settings label source).result with
  | error fault =>
    rw [value_runOn_of_error hattempt] at h
    cases h
    rfl
  | ok report =>
    obtain ⟨s₁, hs₁, -⟩ := value_runOn_of_accepts cutting hw hattempt
    rw [hs₁] at h
    cases h
    rfl

theorem value_runOn_of_failFast {s' : σ} (hw : w.Accepts s)
    (h : (runOn w s { settings with errorMode := .failFast } label (.ok t) cutting).value =
      (s', .ok report)) :
    ∃ bytes, ∀ mode,
      (runOn w s { settings with errorMode := mode } label (.ok t) cutting).value =
        (s', .ok report) ∧
      (runOn w.recorded (s, []) { settings with errorMode := mode } label (.ok t)
          cutting).value = ((s', bytes), .ok report) := by
  have hfast := result_attempt_of_accepts hw h
  obtain ⟨s₁, hs₁, hbytes⟩ := Writer.writeTo_of_accepts hw settings.format report cutting
  rw [value_runOn_of_ok hfast, hs₁] at h
  cases h
  refine ⟨report.render settings.format, fun mode => ?_⟩
  have hmode : (attempt { settings with errorMode := mode } label (.ok t)).result =
      .ok report := by
    cases mode with
    | failFast => exact hfast
    | collect => exact result_attempt_collect_of_ok hfast
  constructor
  · rw [value_runOn_of_ok hmode, hs₁]
    rfl
  · rw [value_runOn_of_ok hmode, hbytes]
    rfl

/-- A run hands nothing to the writer if the mission cannot be read, is refused or
fails, and returns that fault.  Otherwise it writes the report of the mission,
which is all that a writer gets that accepts everything, in any format.  On such
a writer collecting errors changes nothing if failing fast succeeds; if failing
fast ends at the edge, it succeeds with that fault as its first failure. -/
theorem runOn_all_or_nothing (w : Writer σ) (s : σ) (settings : Settings) (label : Text)
    (cutting : Cutting) :
    (∀ fault, (runOn w s settings label (.error fault) cutting).value = (s, .error fault)) ∧
    (∀ t fault, Mission.ofText t = .error fault →
      (runOn w s settings label (.ok t) cutting).value = (s, .error fault)) ∧
    (∀ t m, Mission.ofText t = .ok m →
      (∀ fault, (Report.ofMission settings.policy settings.errorMode m).result = .error fault →
        (runOn w s settings label (.ok t) cutting).value = (s, .error fault)) ∧
      (∀ report, (Report.ofMission settings.policy settings.errorMode m).result = .ok report →
        (runOn w s settings label (.ok t) cutting).value =
          written report (report.writeTo w s settings.format cutting) ∧
        (w.Accepts s → ∀ format, ∃ s',
          (runOn w s { settings with format } label (.ok t) cutting).value =
            (s', .ok report) ∧
          (runOn w.recorded (s, []) { settings with format } label (.ok t) cutting).value =
            ((s', report.render format), .ok report)))) ∧
    (w.Accepts s → ∀ t s',
      (∀ report,
        (runOn w s { settings with errorMode := .failFast } label (.ok t) cutting).value =
          (s', .ok report) →
        ∃ bytes, ∀ mode,
          (runOn w s { settings with errorMode := mode } label (.ok t) cutting).value =
            (s', .ok report) ∧
          (runOn w.recorded (s, []) { settings with errorMode := mode } label (.ok t)
              cutting).value = ((s', bytes), .ok report)) ∧
      (∀ rover instruction pose,
        (runOn w s { settings with errorMode := .failFast } label (.ok t) cutting).value =
          (s', .error (.outOfBounds rover instruction pose)) →
        ∃ s'' report,
          (runOn w s { settings with errorMode := .collect } label (.ok t) cutting).value =
            (s'', .ok report) ∧
          report.failures.head? = some (.outOfBounds rover instruction pose))) := by
  refine ⟨?_, ?_, ?_, ?_⟩
  · intro fault
    exact value_runOn_of_error (result_attempt_of_source settings label fault)
  · intro t fault ht
    exact value_runOn_of_error (result_attempt_of_text ht)
  · intro t m ht
    constructor
    · intro fault hm
      exact value_runOn_of_error ((result_attempt_of_mission ht).trans hm)
    · intro report hm
      constructor
      · exact value_runOn_of_ok ((result_attempt_of_mission ht).trans hm)
      · intro hw format
        exact value_runOn_of_accepts cutting hw ((result_attempt_of_mission ht).trans hm)
  · intro hw t s'
    constructor
    · intro report hrun
      exact value_runOn_of_failFast hw hrun
    · intro rover instruction pose hrun
      obtain ⟨report, hcollect, hfirst⟩ :=
        exists_report_of_outOfBounds (result_attempt_of_accepts hw hrun)
      obtain ⟨s₁, hs₁, -⟩ := value_runOn_of_accepts cutting hw hcollect
      exact ⟨s₁, report, hs₁, hfirst⟩

/-- A mission whose first rover leaves the plateau, and one whose rover stays. -/
theorem runOn_all_or_nothing_edge :
    let unlimited : Output := { room := none }
    let fault : Fault :=
      .outOfBounds 1 2 { position := { x := 0, y := 0 }, heading := .west }
    let leaving : Text := "0 0\n0 0 S\nRM\n0 0 N\nL\n"
    let report : Report :=
      { outcomes :=
          [{ rover := 1
             result := .ok { position := { x := 0, y := 0 }, heading := .east } }] }
    Output.writer.Accepts unlimited ∧
      (runOn Output.writer unlimited {} [] (.ok leaving) .whole).value =
        (unlimited, .error fault) ∧
      (∃ o report,
        (runOn Output.writer unlimited { errorMode := .collect } [] (.ok leaving) .whole).value =
          (o, .ok report) ∧ report.failures.head? = some fault) ∧
      ∃ bytes, ∀ mode,
        (runOn Output.writer unlimited { errorMode := mode } [] (.ok "0 0\n0 0 N\nR\n")
            .whole).value = ({ room := none, taken := Text.utf8 "0 0 E\n" }, .ok report) ∧
        (runOn Output.writer.recorded (unlimited, []) { errorMode := mode } []
            (.ok "0 0\n0 0 N\nR\n") .whole).value =
          (({ room := none, taken := Text.utf8 "0 0 E\n" }, bytes), .ok report) := by
  intro unlimited fault leaving report
  have hw : Output.writer.Accepts unlimited := Writer.accepts_unlimited []
  obtain ⟨-, -, -, hmodes⟩ :=
    runOn_all_or_nothing Output.writer unlimited {} [] Cutting.whole
  have hfast : (runOn Output.writer unlimited {} [] (.ok leaving) .whole).value =
      (unlimited, .error fault) := rfl
  exact ⟨hw, hfast, (hmodes hw leaving unlimited).2 1 2 _ hfast,
    (hmodes hw "0 0\n0 0 N\nR\n" _).1 report rfl⟩

end Delivery
end RoverMission

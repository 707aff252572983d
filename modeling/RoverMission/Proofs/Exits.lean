/-
What a run leaves behind.

A run goes through its stages until one fails: the configuration is loaded, the
settings are checked, the mission is read, and then it is run.  Only the first two
have faults of the configuration category, so the exit code tells how far the run
came (`category_of_reported`).  All that is left behind follows from the report or
from the first fault (`run_eq`).
-/
import RoverMission.Program
import RoverMission.Proofs.AllOrNothing
import RoverMission.Proofs.Containment
import RoverMission.Proofs.Messages
import RoverMission.Proofs.Room

namespace RoverMission

/-- What stands on the error output besides the log. -/
def Exit.stderr (exit : Exit) : Text := exit.messages.flatMap fun message => message ++ "\n"

/-! ## Stages -/

theorem Config.category_of_load {files : Text → Except IoFault ByteArray}
    {lookup : Text → Option Text} {path : Text} {fault : Fault}
    (h : load files lookup path = .error fault) : fault.category = .configuration := by
  unfold load at h
  split at h
  · unfold ofText ofDocument at h
    split at h
    · cases h
      rfl
    · rename_i members _
      cases hread : Schema.readDocument members <;> rw [hread] at h <;> cases h
      rfl
  · cases h
    rfl

theorem category_of_checkPath {field path : Text} {fault : Fault}
    (h : checkPath field path = .error fault) : fault.category = .configuration := by
  unfold checkPath at h
  split at h
  · cases h
    rfl
  · split at h <;> cases h
    rfl

theorem category_of_checkOneOf {field value : Text} {allowed : List Text} {fault : Fault}
    (h : checkOneOf field value allowed = .error fault) : fault.category = .configuration := by
  unfold checkOneOf at h
  split at h <;> cases h
  rfl

/-- Two checks, each of a setting that may be left out. -/
theorem error_of_checks {a b : Option Text} {first second : Text → Except Fault Unit}
    {fault : Fault}
    (h : (do
      if let some value := a then first value
      if let some value := b then second value) = Except.error fault) :
    (∃ value, a = some value ∧ first value = .error fault) ∨
      ∃ value, b = some value ∧ second value = .error fault := by
  cases a with
  | none =>
    cases b with
    | none => cases h
    | some value => exact Or.inr ⟨value, rfl, h⟩
  | some value =>
    rcases error_or_exists_of_bind_eq_error h with h | ⟨_, -, h⟩
    · exact Or.inl ⟨value, rfl, h⟩
    · cases b with
      | none => cases h
      | some value' => exact Or.inr ⟨value', rfl, h⟩

theorem Flags.category_of_check {flags : Flags} {fault : Fault}
    (h : flags.check = .error fault) : fault.category = .configuration := by
  rcases error_of_checks h with ⟨path, -, h⟩ | ⟨path, -, h⟩ <;> exact category_of_checkPath h

theorem Config.category_of_check {config : Config} {fault : Fault}
    (h : config.check = .error fault) : fault.category = .configuration := by
  rcases error_of_checks h with ⟨value, -, h⟩ | ⟨value, -, h⟩ <;> exact category_of_checkOneOf h

namespace Report

theorem rover_outcomesOf (policy : BoundaryPolicy) (plateau : Plateau) (rover : Nat)
    (plans : List Plan) :
    (outcomesOf policy plateau rover plans).map Outcome.rover =
      List.range' rover (outcomesOf policy plateau rover plans).length := by
  induction plans generalizing rover with
  | nil => rfl
  | cons plan plans ih =>
    rw [outcomesOf, List.map_cons, ih, List.length_cons, List.range'_succ]
    rfl

theorem hasFailures_of_failFast {policy : BoundaryPolicy} {m : Mission} {report : Report}
    (h : (ofMission policy .failFast m).result = .ok report) : report.hasFailures = false := by
  rw [result_ofMission_failFast] at h
  cases hfirst : (collected policy m).outcomes.findSome? Outcome.fault? with
  | none =>
    rw [hfirst] at h
    cases h
    rw [hasFailures_eq_isSome, hfirst]
    rfl
  | some fault =>
    rw [hfirst] at h
    cases h

end Report

theorem Fault.exitCode_cases (fault : Fault) : fault.exitCode = 1 ∨ fault.exitCode = 2 := by
  unfold exitCode
  cases fault.category <;> decide

theorem Fault.exitCode_eq_two_iff (fault : Fault) :
    fault.exitCode = 2 ↔ fault.category = .configuration := by
  unfold exitCode
  cases fault.category <;> decide

namespace Program

theorem category_of_config {w : World} {flags : Flags} {fault : Fault}
    (h : config w.files w.«variables» flags = .error fault) :
    fault.category = .configuration := by
  unfold config at h
  split at h
  · cases h
  · exact Config.category_of_load h

theorem category_of_sourceText {stdin : ByteArray} {files : Text → Except IoFault ByteArray}
    {source : Source} {fault : Fault} (h : sourceText stdin files source = .error fault) :
    fault.category = .system := by
  have hio : ∀ x : Except IoFault Text, x.mapError Fault.io = .error fault →
      fault.category = .system := by
    intro x hx
    cases x <;> cases hx
    rfl
  cases source with
  | stdin => exact hio _ h
  | file path => exact hio _ h

/-- The mission of a run and what comes of it. -/
def missionReport (settings : Settings) (text : Except Fault Text) : Except Fault Report := do
  let m ← Mission.ofText (← text)
  (Report.ofMission settings.policy settings.errorMode m).result

def reportedWith (w : World) (flags : Flags) (c : Config) : Except Fault (Settings × Report) := do
  let source ← source flags c
  let report ← missionReport (settings flags c) (sourceText w.stdin w.files source)
  return (settings flags c, report)

/-- The settings and the report of a run, or the first fault on the way to them. -/
def reported (w : World) (flags : Flags) : Except Fault (Settings × Report) :=
  config w.files w.«variables» flags >>= reportedWith w flags

/-- What a run leaves behind that comes to this. -/
def exitOf : Except Fault (Settings × Report) → Exit
  | .error fault => failed fault
  | .ok (settings, report) =>
    { code := if report.hasFailures then 1 else 0
      stdout := report.render settings.format
      messages := report.failures.map Fault.operatorLine }

theorem result_attempt (settings : Settings) (label : Text) (text : Except Fault Text) :
    (Delivery.attempt settings label text).result = missionReport settings text := by
  cases text with
  | error fault => exact Delivery.result_attempt_of_source settings label fault
  | ok t =>
    show _ = (Mission.ofText t >>= _)
    cases ht : Mission.ofText t with
    | error fault => exact Delivery.result_attempt_of_text ht
    | ok m => exact Delivery.result_attempt_of_mission ht

theorem value_run (settings : Settings) (label : Text) (text : Except Fault Text) :
    (Delivery.run settings none label text).value =
      match missionReport settings text with
      | .error fault => ⟨[], .error fault⟩
      | .ok report => ⟨report.render settings.format, .ok report⟩ := by
  have hresult := result_attempt settings label text
  rw [Delivery.run, Logged.value_bind]
  cases hreport : missionReport settings text with
  | error fault =>
    rw [Delivery.value_runOn_of_error (hresult.trans hreport)]
    rfl
  | ok report =>
    have hwritten : report.writeTo Output.writer { room := none } settings.format =
        ({ room := none, taken := report.render settings.format }, none) := by
      rw [Report.writeTo, Piece.handAll_unlimited, Piece.flatMap_bytes_ofReport]
      rfl
    rw [Delivery.value_runOn_of_ok (hresult.trans hreport), hwritten]
    rfl

theorem value_perform (w : World) (flags : Flags) (c : Config) :
    (perform flags c (sourceText w.stdin w.files)).value = exitOf (reportedWith w flags c) := by
  rw [perform, Logged.value_bind, reportedWith]
  cases source flags c with
  | error fault => rfl
  | ok source =>
    simp only [Logged.value_bind, value_run]
    show _ = exitOf (missionReport _ _ >>= _)
    cases missionReport (settings flags c) (sourceText w.stdin w.files source) with
    | error fault => rfl
    | ok report => rfl

theorem run_eq {w : World} {flags : Flags} (h : Flags.ofArguments w.arguments = .ok flags) :
    ∃ log, run w = .finished (exitOf (reported w flags)) log := by
  unfold run reported
  simp only [h]
  cases hconfig : config w.files w.«variables» flags with
  | error fault => exact ⟨_, rfl⟩
  | ok c =>
    show ∃ log, _ = Result.finished (exitOf (reportedWith w flags c)) log
    rw [← value_perform]
    exact ⟨_, rfl⟩

/-! ## How far a run came -/

/-- The configuration cannot be loaded, or a setting does not pass its check. -/
def Refused (w : World) (flags : Flags) : Prop :=
  (∃ fault, config w.files w.«variables» flags = .error fault) ∨
    ∃ c, config w.files w.«variables» flags = .ok c ∧
      ((∃ fault, flags.check = .error fault) ∨ ∃ fault, c.check = .error fault)

/-- Loading, checking, reading and running succeed. -/
def Reports (w : World) (flags : Flags) (settings : Settings) (report : Report) : Prop :=
  ∃ c t m, config w.files w.«variables» flags = .ok c ∧ flags.check = .ok () ∧
    c.check = .ok () ∧ sourceText w.stdin w.files (Source.ofArgument flags.input) = .ok t ∧
    Mission.ofText t = .ok m ∧ settings = Program.settings flags c ∧
    (Report.ofMission settings.policy settings.errorMode m).result = .ok report

variable {w : World} {flags : Flags} {c : Config} {fault : Fault}

theorem source_eq_ok_iff {source : Source} :
    Program.source flags c = .ok source ↔
      flags.check = .ok () ∧ c.check = .ok () ∧ source = Source.ofArgument flags.input := by
  constructor
  · intro h
    obtain ⟨⟨⟩, hflags, h⟩ := exists_of_bind_eq_ok h
    obtain ⟨⟨⟩, hc, h⟩ := exists_of_bind_eq_ok h
    cases h
    exact ⟨hflags, hc, rfl⟩
  · rintro ⟨hflags, hc, rfl⟩
    rw [Program.source, hflags]
    show (c.check >>= _) = _
    rw [hc]
    rfl

theorem check_of_source (h : Program.source flags c = .error fault) :
    flags.check = .error fault ∨ c.check = .error fault := by
  rcases error_or_exists_of_bind_eq_error h with h | ⟨_, -, h⟩
  · exact Or.inl h
  rcases error_or_exists_of_bind_eq_error h with h | ⟨_, -, h⟩
  · exact Or.inr h
  · cases h

theorem reported_eq_ok_iff {settings : Settings} {report : Report} :
    reported w flags = .ok (settings, report) ↔ Reports w flags settings report := by
  constructor
  · intro h
    obtain ⟨c, hconfig, h⟩ := exists_of_bind_eq_ok h
    obtain ⟨source, hsource, h⟩ := exists_of_bind_eq_ok h
    obtain ⟨hflags, hc, rfl⟩ := source_eq_ok_iff.1 hsource
    obtain ⟨report, hreport, h⟩ := exists_of_bind_eq_ok h
    obtain ⟨t, ht, hreport⟩ := exists_of_bind_eq_ok hreport
    obtain ⟨m, hm, hreport⟩ := exists_of_bind_eq_ok hreport
    cases h
    exact ⟨c, t, m, hconfig, hflags, hc, ht, hm, rfl, hreport⟩
  · rintro ⟨c, t, m, hconfig, hflags, hc, ht, hm, rfl, hreport⟩
    have hsource := source_eq_ok_iff.2 ⟨hflags, hc, rfl⟩
    have hmission : missionReport (Program.settings flags c)
        (sourceText w.stdin w.files (Source.ofArgument flags.input)) = .ok report := by
      rw [ht]
      show (Mission.ofText t >>= _) = _
      rw [hm]
      exact hreport
    rw [reported, hconfig]
    show reportedWith w flags c = _
    rw [reportedWith, hsource]
    show (missionReport _ _ >>= _) = _
    rw [hmission]
    rfl

/-- The three ways in which a mission comes to a fault. -/
theorem cases_of_missionReport {settings : Settings} {text : Except Fault Text}
    (h : missionReport settings text = .error fault) :
    text = .error fault ∨ (∃ t, Mission.ofText t = .error fault) ∨
      ∃ rover i pose, fault = .outOfBounds rover i pose := by
  rcases error_or_exists_of_bind_eq_error h with h | ⟨t, -, h⟩
  · exact Or.inl h
  rcases error_or_exists_of_bind_eq_error h with h | ⟨m, hm, h⟩
  · exact Or.inr (Or.inl ⟨t, h⟩)
  obtain ⟨-, hplans⟩ := Mission.wellFormed_of_ofText hm
  rcases Report.result_ofMission_cases settings.policy settings.errorMode m with
    hr | ⟨fault', hmem, hr⟩
  · rw [hr] at h
    cases h
  · rw [hr] at h
    cases h
    obtain ⟨rover, i, pose, hf, -⟩ :=
      Report.outOfBounds_of_mem_failures (fun plan hplan => (hplans plan hplan).1) hmem
    exact Or.inr (Or.inr ⟨rover, i, pose, hf⟩)

theorem not_refused (hconfig : config w.files w.«variables» flags = .ok c)
    (hflags : flags.check = .ok ()) (hc : c.check = .ok ()) : ¬ Refused w flags := by
  rintro (⟨fault', he⟩ | ⟨c', he, hcheck⟩)
  · rw [hconfig] at he
    cases he
  · rw [hconfig] at he
    cases he
    rw [hflags, hc] at hcheck
    rcases hcheck with ⟨_, he⟩ | ⟨_, he⟩ <;> cases he

/-- The category of the fault that ends a run tells whether the mission was tried. -/
theorem category_of_reported (h : reported w flags = .error fault) :
    fault.category = .configuration ↔ Refused w flags := by
  rcases error_or_exists_of_bind_eq_error h with hconfig | ⟨c, hconfig, h⟩
  · exact iff_of_true (category_of_config hconfig) (Or.inl ⟨fault, hconfig⟩)
  rcases error_or_exists_of_bind_eq_error h with hsource | ⟨source, hsource, h⟩
  · rcases check_of_source hsource with hcheck | hcheck
    · exact iff_of_true (Flags.category_of_check hcheck)
        (Or.inr ⟨c, hconfig, Or.inl ⟨fault, hcheck⟩⟩)
    · exact iff_of_true (Config.category_of_check hcheck)
        (Or.inr ⟨c, hconfig, Or.inr ⟨fault, hcheck⟩⟩)
  rcases error_or_exists_of_bind_eq_error h with h | ⟨report, -, h⟩
  · obtain ⟨hflags, hc, -⟩ := source_eq_ok_iff.1 hsource
    have hpassed := not_refused hconfig hflags hc
    have hcategory : fault.category ≠ .configuration := by
      rcases cases_of_missionReport h with ht | ⟨t, ht⟩ | ⟨rover, i, pose, rfl⟩
      · rw [category_of_sourceText ht]
        decide
      · rw [Mission.category_of_ofText ht]
        decide
      · show Fault.Category.execution ≠ .configuration
        decide
    exact iff_of_false hcategory hpassed
  · cases h

/-! ## Missions from standard input -/

theorem checkPath_of_isDash {field path : Text} (h : Source.isDash path = true) :
    checkPath field path = .ok () := by
  have hne : path ≠ [] := by
    rintro rfl
    exact absurd h (by decide)
  have hnul : '\x00' ∉ path := by
    have hparts : ∀ part ∈ Text.cut (· == '/') path, '\x00' ∉ part := by
      unfold Source.isDash at h
      split at h
      · rename_i first rest hcut
        simp only [Bool.and_eq_true, beq_iff_eq, List.all_eq_true, Bool.or_eq_true] at h
        obtain ⟨hfirst, hrest⟩ := h
        rw [hcut]
        refine List.forall_mem_cons.2 ⟨by rw [hfirst]; decide, fun part hpart => ?_⟩
        rcases hrest part hpart with rfl | rfl <;> decide
      · cases h
    have hjoined : '\x00' ∉ Text.joined ['/'] (Text.cut (· == '/') path) :=
      Text.not_mem_joined (by decide) hparts
    rwa [Text.joined_cut] at hjoined
  rw [checkPath, if_neg hne, if_neg hnul]

theorem check_of_stdin (hconfig : flags.config = none)
    (hinput : Source.ofArgument flags.input = .stdin) : flags.check = .ok () := by
  cases h : flags.check with
  | ok => rfl
  | error fault =>
    rcases error_of_checks h with ⟨path, hpath, he⟩ | ⟨path, hpath, he⟩
    · rw [hpath] at hinput
      have hdash : Source.isDash path = true := by
        cases hd : Source.isDash path with
        | true => rfl
        | false =>
          rw [Source.ofArgument, hd] at hinput
          cases hinput
      rw [checkPath_of_isDash hdash] at he
      cases he
    · rw [hconfig] at hpath
      cases hpath

/-- Only the text of the mission is quoted, if nothing else is read. -/
theorem newline_not_mem_of_reported (hconfig : flags.config = none)
    (hinput : Source.ofArgument flags.input = .stdin) (h : reported w flags = .error fault) :
    '\n' ∉ fault.operatorLine := by
  have hloaded : config w.files w.«variables» flags = .ok {} := by rw [config, hconfig]
  have hsource : source flags {} = .ok .stdin :=
    source_eq_ok_iff.2 ⟨check_of_stdin hconfig hinput, rfl, hinput.symm⟩
  rw [reported, hloaded] at h
  replace h : reportedWith w flags {} = .error fault := h
  rcases error_or_exists_of_bind_eq_error h with hs | ⟨source, hs, h⟩
  · rw [hsource] at hs
    cases hs
  rw [hsource] at hs
  cases hs
  rcases error_or_exists_of_bind_eq_error h with h | ⟨report, -, h⟩
  · rcases cases_of_missionReport h with ht | ⟨t, ht⟩ | ⟨rover, i, pose, rfl⟩
    · have hnotUtf8 : fault = .io .notUtf8 := by
        unfold sourceText Source.decode at ht
        cases hdecode : Text.ofUtf8? w.stdin <;> rw [hdecode] at ht <;> cases ht
        rfl
      rw [hnotUtf8]
      decide
    · exact Fault.newline_not_mem_of_ofText ht
    · exact Fault.newline_not_mem_operatorLine (Fault.newline_not_mem_outOfBounds rover i pose)
  · cases h

/-! ## Exits -/

theorem not_refused_of_reports {settings : Settings} {report : Report}
    (h : Reports w flags settings report) : ¬ Refused w flags := by
  obtain ⟨c, t, m, hconfig, hflags, hc, -⟩ := h
  exact not_refused hconfig hflags hc

theorem reported_eq_error_iff :
    (∃ fault, reported w flags = .error fault) ↔
      ¬ ∃ settings report, Reports w flags settings report := by
  constructor
  · rintro ⟨fault, hr⟩ ⟨settings, report, hreports⟩
    rw [reported_eq_ok_iff.2 hreports] at hr
    cases hr
  · intro hnone
    cases hr : reported w flags with
    | error fault => exact ⟨fault, rfl⟩
    | ok result => exact absurd ⟨result.1, result.2, reported_eq_ok_iff.1 hr⟩ hnone

theorem code_eq_two_iff : (exitOf (reported w flags)).code = 2 ↔ Refused w flags := by
  cases hr : reported w flags with
  | error fault => exact (Fault.exitCode_eq_two_iff fault).trans (category_of_reported hr)
  | ok result =>
    have hcode : (exitOf (.ok result)).code ≠ 2 := by
      show (if result.2.hasFailures then 1 else 0) ≠ 2
      split <;> decide
    exact iff_of_false hcode (not_refused_of_reports (reported_eq_ok_iff.1 hr))

theorem code_eq_zero_iff :
    (exitOf (reported w flags)).code = 0 ↔
      ∃ settings report, Reports w flags settings report ∧ report.hasFailures = false := by
  cases hr : reported w flags with
  | error fault =>
    have hcases := Fault.exitCode_cases fault
    have hcode : fault.exitCode ≠ 0 := by omega
    have hnone := reported_eq_error_iff.1 ⟨fault, hr⟩
    exact iff_of_false hcode fun ⟨settings, report, hreports, _⟩ =>
      hnone ⟨settings, report, hreports⟩
  | ok result =>
    have hcode : (exitOf (.ok result)).code = 0 ↔ result.2.hasFailures = false := by
      show (if result.2.hasFailures then 1 else 0) = 0 ↔ _
      cases result.2.hasFailures <;> decide
    rw [hcode]
    constructor
    · intro hfailures
      exact ⟨result.1, result.2, reported_eq_ok_iff.1 hr, hfailures⟩
    · rintro ⟨settings, report, hreports, hfailures⟩
      rw [reported_eq_ok_iff.2 hreports] at hr
      cases hr
      exact hfailures

theorem code_le_two (result : Except Fault (Settings × Report)) : (exitOf result).code ≤ 2 := by
  cases result with
  | error fault =>
    have hcases := Fault.exitCode_cases fault
    show fault.exitCode ≤ 2
    omega
  | ok result =>
    show (if result.2.hasFailures then 1 else 0) ≤ 2
    split <;> decide

theorem stderr_failed (fault : Fault) :
    (failed fault).stderr = fault.operatorLine ++ "\n".toList :=
  List.append_nil _

theorem stdout_of_refused (h : Refused w flags) :
    (exitOf (reported w flags)).stdout = [] ∧
      "Config Error: ".toList <+: (exitOf (reported w flags)).stderr := by
  cases hr : reported w flags with
  | error fault =>
    have hcategory := (category_of_reported hr).2 h
    refine ⟨rfl, ?_⟩
    show _ <+: (failed fault).stderr
    rw [stderr_failed, Fault.operatorLine, hcategory, List.append_assoc]
    exact List.prefix_append _ _
  | ok result => exact absurd h (not_refused_of_reports (reported_eq_ok_iff.1 hr))

theorem stdout_of_not_reports (h : ¬ ∃ settings report, Reports w flags settings report) :
    (exitOf (reported w flags)).stdout = [] := by
  obtain ⟨fault, hr⟩ := reported_eq_error_iff.2 h
  rw [hr]
  rfl

theorem hasFailures_of_reports {settings : Settings} {report : Report}
    (hconfig : config w.files w.«variables» flags = .ok c)
    (hmode : (Program.settings flags c).errorMode = .failFast)
    (h : Reports w flags settings report) : report.hasFailures = false := by
  obtain ⟨c', t, m, hconfig', -, -, -, -, rfl, hreport⟩ := h
  rw [hconfig] at hconfig'
  cases hconfig'
  rw [hmode] at hreport
  exact Report.hasFailures_of_failFast hreport

/-- Nothing is said exactly if the code is 0. -/
theorem stderr_eq_nil_iff (result : Except Fault (Settings × Report)) :
    (exitOf result).stderr = [] ↔ (exitOf result).code = 0 := by
  cases result with
  | error fault =>
    have hcases := Fault.exitCode_cases fault
    have hcode : fault.exitCode ≠ 0 := by omega
    refine iff_of_false (fun hnil => ?_) hcode
    rw [exitOf, stderr_failed] at hnil
    exact absurd (List.append_eq_nil_iff.1 hnil).2 (by decide)
  | ok result =>
    obtain ⟨settings, report⟩ := result
    show (report.failures.map Fault.operatorLine).flatMap _ = [] ↔
      (if (!report.failures.isEmpty) = true then 1 else 0) = 0
    cases report.failures with
    | nil => exact iff_of_true rfl rfl
    | cons fault failures =>
      have hcode : ¬ (if (!(fault :: failures).isEmpty) = true then 1 else 0) = 0 := by simp
      refine iff_of_false (fun hnil => ?_) hcode
      have hline := List.append_eq_nil_iff.1 (List.append_eq_nil_iff.1 hnil).1
      exact absurd hline.2 (by decide)

theorem lines_stderr_of_reports {settings : Settings} {report : Report}
    (h : Reports w flags settings report) :
    report.outcomes.map Outcome.rover = List.range' 1 report.outcomes.length ∧
      (∀ o ∈ report.outcomes, ∀ fault, o.fault? = some fault →
        ∃ i pose, fault = .outOfBounds o.rover i pose) ∧
      Text.lines (exitOf (.ok (settings, report))).stderr =
        report.failures.map Fault.operatorLine ++ [[]] := by
  obtain ⟨c, t, m, -, -, -, -, hm, -, hreport⟩ := h
  obtain ⟨-, hplans⟩ := Mission.wellFormed_of_ofText hm
  have hcollected : report = Report.collected settings.policy m := by
    rcases Report.result_ofMission_cases settings.policy settings.errorMode m with
      hr | ⟨fault, -, hr⟩ <;> rw [hr] at hreport <;> cases hreport
    rfl
  have hedge : ∀ o ∈ report.outcomes, ∀ fault, o.fault? = some fault →
      ∃ i pose, fault = .outOfBounds o.rover i pose := by
    intro o ho fault hfault
    rw [hcollected] at ho
    obtain ⟨i, plan, hplan, rfl⟩ := Report.exists_plan_of_mem_collected ho
    obtain ⟨j, pose, hf, -⟩ :=
      Plan.outOfBounds_of_result (hplans plan hplan).1 (Outcome.result_of_fault? hfault)
    exact ⟨j, pose, hf⟩
  refine ⟨?_, hedge, ?_⟩
  · rw [hcollected]
    exact Report.rover_outcomesOf settings.policy m.plateau 1 m.plans
  · refine Text.lines_flatMap fun line hline => ?_
    obtain ⟨fault, hfault, rfl⟩ := List.mem_map.1 hline
    obtain ⟨o, ho, hf⟩ := List.mem_filterMap.1 hfault
    obtain ⟨i, pose, rfl⟩ := hedge o ho fault hf
    exact Fault.newline_not_mem_operatorLine (Fault.newline_not_mem_outOfBounds o.rover i pose)

/-- Exit code, output and error output of a run tell the same.  Code 2 stands for
settings that are refused, code 0 for a report without failures, and code 1 for all
else.  The output is the report if there is one and empty otherwise, which it also is
whenever failing fast ends with code 1.  With the mission from standard input and no
configuration file, an error is one line, and a report has one for each rover that
fails, in the order of the rovers. -/
theorem run_tells_one_story (w : World) (flags : Flags)
    (h : Flags.ofArguments w.arguments = .ok flags) :
    ∃ exit log, run w = .finished exit log ∧
      (exit.code = 2 ↔ Refused w flags) ∧
      (exit.code = 2 → exit.stdout = [] ∧ ("Config Error: " : Text) <+: exit.stderr) ∧
      (exit.code = 0 ↔
        ∃ settings report, Reports w flags settings report ∧ report.hasFailures = false) ∧
      (exit.code = 0 → exit.stderr = []) ∧
      (exit.code ≠ 2 → exit.code ≠ 0 → exit.code = 1 ∧ exit.stderr ≠ []) ∧
      (∀ settings report, Reports w flags settings report →
        exit.stdout = report.render settings.format) ∧
      ((¬ ∃ settings report, Reports w flags settings report) → exit.stdout = []) ∧
      (∀ c, config w.files w.«variables» flags = .ok c →
        (settings flags c).errorMode = .failFast → exit.code = 1 → exit.stdout = []) ∧
      (flags.config = none → Source.ofArgument flags.input = .stdin →
        ((¬ ∃ settings report, Reports w flags settings report) →
          ∃ fault : Fault, Text.lines exit.stderr = [fault.operatorLine, []]) ∧
        ∀ settings report, Reports w flags settings report →
          report.outcomes.map Outcome.rover = List.range' 1 report.outcomes.length ∧
          (∀ o ∈ report.outcomes, ∀ fault, o.fault? = some fault →
            ∃ i pose, fault = .outOfBounds o.rover i pose) ∧
          Text.lines exit.stderr = report.failures.map Fault.operatorLine ++ [[]]) := by
  obtain ⟨log, hrun⟩ := run_eq h
  refine ⟨_, log, hrun, code_eq_two_iff, fun h2 => stdout_of_refused (code_eq_two_iff.1 h2),
    code_eq_zero_iff, (stderr_eq_nil_iff _).2, fun h2 h0 => ?_, fun settings report hreports => ?_,
    fun hnone => ?_, fun c hconfig hmode hcode => ?_, fun hconfig hinput =>
      ⟨fun hnone => ?_, fun settings report hreports => ?_⟩⟩
  · have hle := code_le_two (reported w flags)
    exact ⟨by omega, mt (stderr_eq_nil_iff _).1 h0⟩
  · rw [reported_eq_ok_iff.2 hreports]
    rfl
  · exact stdout_of_not_reports hnone
  · refine stdout_of_not_reports ?_
    rintro ⟨settings, report, hreports⟩
    have hzero := code_eq_zero_iff.2 ⟨settings, report, hreports,
      hasFailures_of_reports hconfig hmode hreports⟩
    omega
  · obtain ⟨fault, hr⟩ := reported_eq_error_iff.2 hnone
    have hline := newline_not_mem_of_reported hconfig hinput hr
    have hlines := Text.lines_flatMap (List.forall_mem_singleton.2 hline)
    rw [hr]
    exact ⟨fault, hlines⟩
  · rw [reported_eq_ok_iff.2 hreports]
    exact lines_stderr_of_reports hreports

set_option maxRecDepth 4000 in
/-- A mission from standard input whose first rover leaves the plateau. -/
theorem run_tells_one_story_collecting :
    let t : Text := "1 1\n0 0 S\nM\n0 1 E\nL\n"
    let w : World :=
      { arguments := ["--collect-errors", "-f", "csv"]
        stdin := ⟨(Text.utf8 t).toArray⟩
        files := fun _ => .error .notFound
        «variables» := fun _ => none }
    let flags : Flags := { collectErrors := true, format := some .csv }
    Flags.ofArguments w.arguments = .ok flags ∧
      ∃ exit log, run w = .finished exit log ∧ exit.code = 1 ∧
        exit.stdout = Text.utf8 "rover,x,y,heading\n2,0,1,N\n" ∧
        Text.lines exit.stderr =
          ["Execution Error: Rover #1 instruction 1 out of bounds from (0,0,S)".toList, []] := by
  intro t w flags
  let corner : Pose := { position := { x := 0, y := 0 }, heading := .south }
  let edge : Pose := { position := { x := 0, y := 1 }, heading := .east }
  let m : Mission :=
    { plateau := { maxX := 1, maxY := 1 }
      plans := [{ start := corner, commands := [.move] },
        { start := edge, commands := [.left] }] }
  let report : Report :=
    { outcomes :=
        [{ rover := 1, result := .error (.outOfBounds 1 1 corner) },
          { rover := 2, result := .ok edge.turnLeft }] }
  have hflags : Flags.ofArguments w.arguments = .ok flags := rfl
  have hsource : sourceText w.stdin w.files (Source.ofArgument flags.input) = .ok t := by
    show (Source.decode ⟨(Text.utf8 t).toArray⟩).mapError Fault.io = .ok t
    rw [Source.decode, Text.ofUtf8?_utf8]
    rfl
  have hmission : Mission.ofText t = .ok m := rfl
  have hcollected : Report.collected .strict m = report := rfl
  have hreport : (Report.ofMission .strict .collect m).result = .ok report := by
    rw [Report.result_ofMission_collect, hcollected]
  have hreports : Reports w flags { errorMode := .collect, format := .csv } report :=
    ⟨{}, t, m, rfl, rfl, rfl, hsource, hmission, rfl, hreport⟩
  have hcsv : report.csvText = "rover,x,y,heading\n2,0,1,N\n" := by decide
  have hfailures : report.failures.map Fault.operatorLine =
      ["Execution Error: Rover #1 instruction 1 out of bounds from (0,0,S)".toList] := by decide
  obtain ⟨exit, log, hrun, htwo, -, -, hsilent, hone, hstdout, -, -, hstdin⟩ :=
    run_tells_one_story w flags hflags
  have hlines := ((hstdin rfl rfl).2 _ report hreports).2.2
  rw [hfailures] at hlines
  have hzero : exit.code ≠ 0 := fun h0 => by
    rw [hsilent h0] at hlines
    cases hlines
  have hpassed : exit.code ≠ 2 := fun h2 => not_refused_of_reports hreports (htwo.1 h2)
  have hbytes := hstdout _ report hreports
  have hrender : report.render .csv = Text.utf8 report.csvText :=
    Piece.flatMap_bytes_buffered _ _
  rw [hrender, hcsv] at hbytes
  exact ⟨hflags, exit, log, hrun, (hone hpassed hzero).1, hbytes, hlines⟩

end Program
end RoverMission

/-
Missions that are stopped and taken up again.

A text report has the poses in the form of start lines, so it is most of a mission
text that takes up where the rovers are.  What comes of that mission adds up with what
came of the first to what comes of all commands in one go (`resume_through_report`).
-/
import RoverMission.Proofs.Continuing
import RoverMission.Proofs.Formats
import RoverMission.Proofs.RoundTrip

namespace RoverMission

/-! ## Mission texts that go on -/

namespace Mission

/-- The plateau line of a mission text, and line by line a report with new commands
under each of its lines. -/
def resumption (t report : Text) (commands : List (List Command)) : Text :=
  ((Text.inkedLines t).take 1 ++
    ((Text.lines report).zip commands).flatMap fun next => [next.1, Command.letters next.2]).flatMap
      fun line => line ++ "\n"

/-- A mission whose rovers start in the given poses. -/
def resumed (m : Mission) (poses : List Pose) (commands : List (List Command)) : Mission :=
  { m with plans := (poses.zip commands).map fun next => { start := next.1, commands := next.2 } }

def extended (m : Mission) (commands : List (List Command)) : Mission :=
  { m with plans := (m.plans.zip commands).map fun next => next.1.extended next.2 }

variable {m : Mission} {t : Text} {poses : List Pose} {commands : List (List Command)}

theorem length_resumed (m : Mission) (poses : List Pose) (commands : List (List Command)) :
    (m.resumed poses commands).plans.length = min poses.length commands.length := by
  rw [resumed, List.length_map, List.length_zip]

theorem length_extended (m : Mission) (commands : List (List Command)) :
    (m.extended commands).plans.length = min m.plans.length commands.length := by
  rw [extended, List.length_map, List.length_zip]

theorem filter_flatMap_lines {plans : List Plan} (h : ∀ plan ∈ plans, plan.commands ≠ []) :
    ((plans.flatMap Plan.lines).filter fun line => ¬ line.IsBlank) = plans.flatMap Plan.lines := by
  rw [List.filter_flatMap, List.flatMap_def, List.flatMap_def]
  congr 1
  refine List.map_congr_left fun plan hplan => ?_
  rw [filter_lines, if_neg (h plan hplan)]
  rfl

/-- Any line that shows the plateau may stand for the plateau line. -/
theorem ofText_of_plateauLine (h : m.WellFormed) {line : Text} (hline : '\n' ∉ line)
    (hshown : Field.Shown m.plateau.row line) :
    ofText ((line :: m.plans.flatMap Plan.lines).flatMap fun line => line ++ "\n") = .ok m := by
  have hcommands : ∀ plan ∈ m.plans, plan.commands ≠ [] := fun plan hplan => (h.2 plan hplan).2
  have hlines : ∀ l ∈ line :: m.plans.flatMap Plan.lines, '\n' ∉ l :=
    List.forall_mem_cons.2 ⟨hline, fun l hl =>
      m.newline_not_mem_lines l (List.mem_cons_of_mem _ hl)⟩
  have hblank : ¬ line.IsBlank := Field.not_isBlank_of_shown (List.cons_ne_nil _ _) hshown
  have hrows := (List.forall₂_cons.1 (forall₂_shown_lines hcommands)).2
  refine ofText_eq_ok_iff.2 ⟨h, ?_⟩
  rw [Text.inkedLines_flatMap hlines, List.filter_cons_of_pos (by simpa using hblank),
    filter_flatMap_lines hcommands]
  exact .cons hshown hrows

/-- The lines of a report behind the last of its line feeds find no commands. -/
theorem resumption_eq {line : Text} {rest : List Text} (ht : Text.inkedLines t = line :: rest)
    (hlength : commands.length = poses.length) :
    resumption t ((poses.map Pose.text).flatMap fun line => line ++ "\n".toList) commands =
      (line :: (m.resumed poses commands).plans.flatMap Plan.lines).flatMap
        fun line => line ++ "\n".toList := by
  have hzip : (poses.map Pose.text ++ [[]]).zip commands =
      (poses.zip commands).map fun next => (next.1.text, next.2) := by
    have hnone : (poses.map Pose.text ++ [[]]).zip (commands ++ []) =
        (poses.map Pose.text).zip commands ++ [[]].zip [] :=
      List.zip_append (by rw [List.length_map, hlength])
    rw [List.append_nil, List.zip_nil_right, List.append_nil] at hnone
    rw [hnone, List.zip_map_left]
    rfl
  rw [resumption, ht, Report.lines_poses, hzip, resumed, List.flatMap_map, List.flatMap_map]
  rfl

theorem ofText_resumption (hm : ofText t = .ok m)
    (hposes : ∀ pose ∈ poses, m.plateau.Contains pose.position)
    (hlength : commands.length = poses.length) (hcommands : ∀ next ∈ commands, next ≠ []) :
    ofText (resumption t ((poses.map Pose.text).flatMap fun line => line ++ "\n".toList)
      commands) = .ok (m.resumed poses commands) := by
  obtain ⟨⟨hsound, -⟩, hshown⟩ := ofText_eq_ok_iff.1 hm
  obtain ⟨line, rest, hplateau, -, ht⟩ := List.forall₂_cons_left_iff.1 hshown
  have hline : '\n' ∉ line := by
    have hmem : line ∈ Text.inkedLines t := by
      rw [ht]
      exact List.mem_cons_self
    exact Text.newline_not_mem_of_mem_lines (List.mem_filter.1 hmem).1
  have hwell : (m.resumed poses commands).WellFormed := by
    refine ⟨hsound, fun plan hplan => ?_⟩
    obtain ⟨⟨pose, next⟩, hnext, rfl⟩ := List.mem_map.1 hplan
    obtain ⟨hpose, hmem⟩ := List.of_mem_zip hnext
    exact ⟨hposes pose hpose, hcommands next hmem⟩
  rw [resumption_eq (m := m) ht hlength]
  exact ofText_of_plateauLine hwell hline hplateau

end Mission

/-! ## Reports that add up -/

namespace Report

variable {policy : BoundaryPolicy} {m : Mission} {report : Report}
variable {commands : List (List Command)}

theorem map_pose?_of_failures (h : report.hasFailures = false) :
    report.outcomes.map Outcome.pose? = report.finalPoses.map some := by
  have hnone : report.outcomes.filterMap Outcome.fault? = [] := by
    simpa [hasFailures, failures] using h
  rw [finalPoses]
  generalize report.outcomes = outcomes at hnone
  induction outcomes with
  | nil => rfl
  | cons o outcomes ih =>
    rw [List.filterMap_cons] at hnone
    cases hr : o.result with
    | error fault =>
      have hfault : o.fault? = some fault := by rw [Outcome.fault?, hr]
      rw [hfault] at hnone
      cases hnone
    | ok pose =>
      have hpose : o.pose? = some pose := by rw [Outcome.pose?, hr]; rfl
      have hfault : o.fault? = none := by rw [Outcome.fault?, hr]
      rw [hfault] at hnone
      rw [List.map_cons, List.filterMap_cons, hpose, ih hnone]
      rfl

theorem length_finalPoses (h : (collected policy m).hasFailures = false) :
    (collected policy m).finalPoses.length = m.plans.length := by
  have hlength := congrArg List.length (map_pose?_of_failures h)
  rw [List.length_map, List.length_map] at hlength
  rw [← hlength]
  exact length_outcomesOf policy m.plateau 1 m.plans

theorem getElem?_collected (i : Nat) :
    (collected policy m).outcomes[i]? =
      m.plans[i]?.map fun plan => plan.outcome policy m.plateau (1 + i) :=
  getElem?_outcomesOf policy m.plateau 1 m.plans i

theorem addsUp_collected (hfailures : (collected policy m).hasFailures = false)
    (hhalted : ∀ o ∈ (collected policy m).outcomes, o.halted = false) {i : Nat} {plan : Plan}
    {next : List Command} (hplan : m.plans[i]? = some plan) (hnext : commands[i]? = some next) :
    ∃ o₁ o₂ o, (collected policy m).outcomes[i]? = some o₁ ∧
      (collected policy (m.resumed (collected policy m).finalPoses commands)).outcomes[i]? =
        some o₂ ∧
      (collected policy (m.extended commands)).outcomes[i]? = some o ∧ o₁.rover = i + 1 ∧
      Outcome.AddsUp policy plan.commands.length o₁ o₂ o := by
  have hfirst : (collected policy m).outcomes[i]? =
      some (plan.outcome policy m.plateau (1 + i)) := by
    rw [getElem?_collected, hplan]
    rfl
  have hposes : ((collected policy m).outcomes.map Outcome.pose?)[i]? =
      ((collected policy m).finalPoses.map some)[i]? := by
    rw [map_pose?_of_failures hfailures]
  rw [List.getElem?_map, List.getElem?_map, hfirst, Option.map_some] at hposes
  obtain ⟨pose, hpose, hlast⟩ := Option.map_eq_some_iff.1 hposes.symm
  have hresumed : (m.resumed (collected policy m).finalPoses commands).plans[i]? =
      some { start := pose, commands := next } := by
    have hzip : ((collected policy m).finalPoses.zip commands)[i]? = some (pose, next) :=
      List.getElem?_zip_eq_some.2 ⟨hpose, hnext⟩
    rw [Mission.resumed, List.getElem?_map, hzip]
    rfl
  have hextended : (m.extended commands).plans[i]? = some (plan.extended next) := by
    have hzip : (m.plans.zip commands)[i]? = some (plan, next) :=
      List.getElem?_zip_eq_some.2 ⟨hplan, hnext⟩
    rw [Mission.extended, List.getElem?_map, hzip]
    rfl
  have hended := Outcome.result_of_pose? hlast.symm
  have hon := hhalted _ (List.mem_of_getElem? hfirst)
  refine ⟨_, _, _, hfirst, ?_, ?_, Nat.add_comm 1 i, Plan.addsUp_outcome hended hon next⟩
  · rw [getElem?_collected, hresumed]
    rfl
  · rw [getElem?_collected, hextended]
    rfl

theorem length_collected (policy : BoundaryPolicy) (m : Mission) :
    (collected policy m).outcomes.length = m.plans.length :=
  length_outcomesOf policy m.plateau 1 m.plans

end Report

/-! ## Failing fast -/

/-- Neither fails, or both do and with faults that belong together. -/
def Outcome.FailTogether (R : Fault → Fault → Prop) (o o' : Outcome) : Prop :=
  (o.fault? = none ∧ o'.fault? = none) ∨
    ∃ f f', o.fault? = some f ∧ o'.fault? = some f' ∧ R f f'

/-- The faults of one rover in a mission that goes on and in the one in one go. -/
def Mission.FaultGoesOn (m : Mission) (f f' : Fault) : Prop :=
  ∃ i plan k pose, m.plans[i]? = some plan ∧ f = .outOfBounds (i + 1) k pose ∧
    f' = .outOfBounds (i + 1) (plan.commands.length + k) pose

namespace Report

variable {policy : BoundaryPolicy} {m : Mission} {commands : List (List Command)}

/-- Outcomes that fail together have first faults that belong together. -/
theorem findSome?_fault?_cases {R : Fault → Fault → Prop} {outcomes outcomes' : List Outcome}
    (h : List.Forall₂ (Outcome.FailTogether R) outcomes outcomes') :
    (outcomes.findSome? Outcome.fault? = none ∧ outcomes'.findSome? Outcome.fault? = none) ∨
      ∃ f f', outcomes.findSome? Outcome.fault? = some f ∧
        outcomes'.findSome? Outcome.fault? = some f' ∧ R f f' := by
  induction h with
  | nil => exact Or.inl ⟨rfl, rfl⟩
  | cons hfirst _ ih =>
    rcases hfirst with ⟨ho, ho'⟩ | ⟨f, f', ho, ho', hR⟩
    · rw [List.findSome?_cons, List.findSome?_cons, ho, ho']
      exact ih
    · rw [List.findSome?_cons, List.findSome?_cons, ho, ho']
      exact Or.inr ⟨f, f', rfl, rfl, hR⟩

theorem failTogether_of_addsUp {i : Nat} {plan : Plan} {o₁ o₂ o : Outcome}
    (hplan : m.plans[i]? = some plan) (hrover : o₁.rover = i + 1)
    (h : Outcome.AddsUp policy plan.commands.length o₁ o₂ o) :
    o₂.FailTogether m.FaultGoesOn o := by
  rcases h.result with ⟨pose, hs, hw⟩ | ⟨k, pose, -, hs, hw⟩
  · exact Or.inl ⟨by rw [Outcome.fault?, hs], by rw [Outcome.fault?, hw]⟩
  · rw [hrover] at hs hw
    exact Or.inr ⟨_, _, by rw [Outcome.fault?, hs], by rw [Outcome.fault?, hw],
      i, plan, k, pose, hplan, rfl, rfl⟩

theorem forall₂_failTogether (hfailures : (collected policy m).hasFailures = false)
    (hhalted : ∀ o ∈ (collected policy m).outcomes, o.halted = false)
    (hlength : commands.length = m.plans.length) :
    List.Forall₂ (Outcome.FailTogether m.FaultGoesOn)
      (collected policy (m.resumed (collected policy m).finalPoses commands)).outcomes
      (collected policy (m.extended commands)).outcomes := by
  have hresumed : (collected policy
      (m.resumed (collected policy m).finalPoses commands)).outcomes.length = m.plans.length := by
    rw [length_collected, Mission.length_resumed, length_finalPoses hfailures, hlength,
      Nat.min_self]
  have hextended : (collected policy (m.extended commands)).outcomes.length = m.plans.length := by
    rw [length_collected, Mission.length_extended, hlength, Nat.min_self]
  refine List.forall₂_iff_get.2 ⟨hresumed.trans hextended.symm, fun i h₂ h => ?_⟩
  have hi : i < m.plans.length := by omega
  have hplan : m.plans[i]? = some m.plans[i] := List.getElem?_eq_getElem hi
  have hnext : commands[i]? = some commands[i] := List.getElem?_eq_getElem (by omega)
  obtain ⟨o₁, o₂, o, -, ho₂, ho, hrover, hadds⟩ := addsUp_collected hfailures hhalted hplan hnext
  rw [List.get_eq_getElem, List.get_eq_getElem, (List.getElem?_eq_some_iff.1 ho₂).2,
    (List.getElem?_eq_some_iff.1 ho).2]
  exact failTogether_of_addsUp hplan hrover hadds

/-- Failing fast, the mission that goes on and the one in one go both succeed, or both
fail at the same rover. -/
theorem failFast_of_addsUp (hfailures : (collected policy m).hasFailures = false)
    (hhalted : ∀ o ∈ (collected policy m).outcomes, o.halted = false)
    (hlength : commands.length = m.plans.length) :
    let resumed := m.resumed (collected policy m).finalPoses commands
    ((ofMission policy .failFast resumed).result = .ok (collected policy resumed) ∧
      (ofMission policy .failFast (m.extended commands)).result =
        .ok (collected policy (m.extended commands))) ∨
    ∃ i plan k pose, m.plans[i]? = some plan ∧
      (ofMission policy .failFast resumed).result = .error (.outOfBounds (i + 1) k pose) ∧
      (ofMission policy .failFast (m.extended commands)).result =
        .error (.outOfBounds (i + 1) (plan.commands.length + k) pose) := by
  intro resumed
  rw [result_ofMission_failFast, result_ofMission_failFast]
  rcases findSome?_fault?_cases (forall₂_failTogether hfailures hhalted hlength) with
    ⟨hnone, hnone'⟩ | ⟨f, f', hf, hf', hgoesOn⟩
  · rw [hnone, hnone']
    exact Or.inl ⟨rfl, rfl⟩
  · obtain ⟨i, plan, k, pose, hplan, rfl, rfl⟩ := hgoesOn
    rw [hf, hf']
    exact Or.inr ⟨i, plan, k, pose, hplan, rfl, rfl⟩

end Report

/-- A mission whose rovers neither fail nor halt can be stopped and taken up again
through its text report.  The plateau line, the lines of the report and new commands
for every rover are the text of a mission that starts where the first one ended, and
what comes of the two adds up, rover by rover, to what comes of all commands in one
go.  The same holds if errors are not collected. -/
theorem resume_through_report (t : Text) (m : Mission) (policy : BoundaryPolicy)
    (mode : ErrorMode) (report : Report) (commands : List (List Command))
    (hm : Mission.ofText t = .ok m)
    (hreport : (Report.ofMission policy mode m).result = .ok report)
    (hfailures : report.hasFailures = false) (hhalted : ∀ o ∈ report.outcomes, o.halted = false)
    (hlength : commands.length = m.plans.length) (hcommands : ∀ next ∈ commands, next ≠ []) :
    ∃ (text : Text) (resumed : Mission) (second whole : Report),
      report.render .text = Text.utf8 text ∧
      Mission.ofText (Mission.resumption t text commands) = .ok resumed ∧
      resumed.plateau = m.plateau ∧ resumed.plans.map Plan.start = report.finalPoses ∧
      resumed.plans.map Plan.commands = commands ∧
      (Report.ofMission policy .collect resumed).result = .ok second ∧
      (Report.ofMission policy .collect (m.extended commands)).result = .ok whole ∧
      report.outcomes.length = m.plans.length ∧ second.outcomes.length = m.plans.length ∧
      whole.outcomes.length = m.plans.length ∧
      (∀ (i : Nat) (plan : Plan) (o₁ o₂ o : Outcome), m.plans[i]? = some plan →
        report.outcomes[i]? = some o₁ → second.outcomes[i]? = some o₂ →
        whole.outcomes[i]? = some o →
        o₁.rover = i + 1 ∧ Outcome.AddsUp policy plan.commands.length o₁ o₂ o) ∧
      (((Report.ofMission policy .failFast resumed).result = .ok second ∧
          (Report.ofMission policy .failFast (m.extended commands)).result = .ok whole) ∨
        ∃ i plan k pose, m.plans[i]? = some plan ∧
          (Report.ofMission policy .failFast resumed).result =
            .error (.outOfBounds (i + 1) k pose) ∧
          (Report.ofMission policy .failFast (m.extended commands)).result =
            .error (.outOfBounds (i + 1) (plan.commands.length + k) pose)) := by
  have hcollected : report = Report.collected policy m := by
    rcases Report.result_ofMission_cases policy mode m with hr | ⟨fault, -, hr⟩ <;>
      rw [hr] at hreport <;> cases hreport
    rfl
  subst hcollected
  obtain ⟨-, hplans⟩ := Mission.wellFormed_of_ofText hm
  have hposes := Report.length_finalPoses hfailures
  have hinside : ∀ pose ∈ (Report.collected policy m).finalPoses,
      m.plateau.Contains pose.position := fun _ =>
    Report.contains_of_mem_finalPoses fun plan hplan => (hplans plan hplan).1
  have hread := Mission.ofText_resumption hm hinside (hlength.trans hposes.symm) hcommands
  refine ⟨_, m.resumed (Report.collected policy m).finalPoses commands, _, _,
    Report.render_text _, hread, rfl, ?_, ?_, Report.result_ofMission_collect _ _,
    Report.result_ofMission_collect _ _, Report.length_collected policy m, ?_, ?_, ?_,
    Report.failFast_of_addsUp hfailures hhalted hlength⟩
  · rw [Mission.resumed, List.map_map]
    exact List.map_fst_zip (by omega)
  · rw [Mission.resumed, List.map_map]
    exact List.map_snd_zip (by omega)
  · rw [Report.length_collected, Mission.length_resumed]
    omega
  · rw [Report.length_collected, Mission.length_extended]
    omega
  · intro i plan o₁ o₂ o hplan ho₁ ho₂ ho
    have hi := (List.getElem?_eq_some_iff.1 hplan).1
    have hnext : commands[i]? = some commands[i] := List.getElem?_eq_getElem (by omega)
    obtain ⟨p₁, p₂, p, hp₁, hp₂, hp, hadds⟩ :=
      Report.addsUp_collected hfailures hhalted hplan hnext
    rw [ho₁] at hp₁
    rw [ho₂] at hp₂
    rw [ho] at hp
    cases hp₁
    cases hp₂
    cases hp
    exact hadds

/-- A rover that leaves the plateau only when it is taken up again. -/
theorem resume_through_report_edge :
    let t : Text := "0 0\r\n0 0 N\r\nL\r\n0 0 E\r\nR\r\n"
    let north : Pose := { position := { x := 0, y := 0 }, heading := .north }
    let east : Pose := { position := { x := 0, y := 0 }, heading := .east }
    let m : Mission :=
      { plateau := { maxX := 0, maxY := 0 }
        plans := [{ start := north, commands := [.left] }, { start := east, commands := [.right] }] }
    let report : Report :=
      { outcomes := [.unhindered 1 north.turnLeft, .unhindered 2 east.turnRight] }
    let commands : List (List Command) := [[.move], [.left]]
    Mission.ofText t = .ok m ∧ (Report.ofMission .strict .failFast m).result = .ok report ∧
      report.hasFailures = false ∧ (∀ o ∈ report.outcomes, o.halted = false) ∧
      commands.length = m.plans.length ∧ (∀ next ∈ commands, next ≠ []) ∧
      ∃ text resumed, report.render .text = Text.utf8 text ∧
        Mission.ofText (Mission.resumption t text commands) = .ok resumed ∧
        (Report.ofMission .strict .failFast resumed).result =
          .error (.outOfBounds 1 1 north.turnLeft) ∧
        (Report.ofMission .strict .failFast (m.extended commands)).result =
          .error (.outOfBounds 1 2 north.turnLeft) := by
  intro t north east m report commands
  have hhalted : ∀ o ∈ report.outcomes, o.halted = false := by
    simp [report, Outcome.unhindered]
  have hcommands : ∀ next ∈ commands, next ≠ [] := by decide
  have hwhole : (Report.ofMission .strict .failFast (m.extended commands)).result =
      .error (.outOfBounds 1 2 north.turnLeft) := rfl
  obtain ⟨text, resumed, second, whole, htext, hread, -, -, -, -, -, -, -, -, -, hfast⟩ :=
    resume_through_report t m .strict .failFast report commands rfl rfl rfl hhalted rfl hcommands
  refine ⟨rfl, rfl, rfl, hhalted, rfl, hcommands, text, resumed, htext, hread, ?_, hwhole⟩
  rcases hfast with ⟨-, hok⟩ | ⟨i, plan, k, pose, hplan, hresumed, herror⟩
  · rw [hwhole] at hok
    cases hok
  · rw [hwhole, Except.error.injEq, Fault.outOfBounds.injEq] at herror
    obtain ⟨hi, hk, hpose⟩ := herror
    have hzero : i = 0 := by omega
    subst hzero
    cases hplan
    have hone : k = 1 := by
      have hlength : 2 = 1 + k := hk
      omega
    rw [hresumed, hone, hpose]

end RoverMission

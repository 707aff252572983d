/-
The transcript of a run.

Each rover that gets its turn tells of moves it skips and then of its outcome, so the
events of the rovers are those of their outcomes in order, with trace events in between
(`transcript`).  Collecting errors, all rovers get their turn; failing fast, those in front
of the first that fails do, and the one that fails says nothing.  That the mission is
finished is said behind all this, and only if the report is written.
-/
import RoverMission.Proofs.Exits
import RoverMission.Proofs.Skipping

namespace RoverMission

/-! ## What a rover tells on its way -/

namespace Journey

variable {policy : BoundaryPolicy} {plateau : Plateau} {rover : Nat}

/-- Events of the runner that are traces. -/
def Tracing (j : Journey) : Prop := ∀ e ∈ j.reported, e.origin = .runner ∧ e.level = .trace

theorem tracing_step {j : Journey} (h : j.Tracing) (k : Command) :
    (step policy plateau rover j k).Tracing := by
  rcases step_cases policy plateau rover j k with ⟨-, hs⟩ | ⟨-, -, hs⟩ | ⟨-, -, -, hs⟩
  · rw [hs]
    exact h
  · rw [hs]
    exact h
  · rw [hs]
    cases policy with
    | strict => exact h
    | ignore => exact List.forall_mem_cons.2 ⟨⟨rfl, rfl⟩, h⟩
    | stop => exact h
    | wrap => exact h

end Journey

theorem Outcome.tracing_of_mem_ofPlan {policy : BoundaryPolicy} {plateau : Plateau} {rover : Nat}
    {plan : Plan} {e : Event} (h : e ∈ (ofPlan policy plateau rover plan).events) :
    e.origin = .runner ∧ e.level = .trace := by
  have hstart : (Journey.start plan.start).Tracing := List.forall_mem_nil _
  have hdrive : (Journey.drive policy plateau rover (.start plan.start) plan.commands).Tracing :=
    Journey.drive_invariant (P := Journey.Tracing) (fun _ k hj => Journey.tracing_step hj k) hstart
      plan.commands
  exact hdrive e (List.mem_reverse.1 h)

/-- Only a rover that ignores the edge tells of its way. -/
theorem Outcome.events_ofPlan {policy : BoundaryPolicy} (h : policy ≠ .ignore) (plateau : Plateau)
    (rover : Nat) (plan : Plan) : (ofPlan policy plateau rover plan).events = [] := by
  show (Journey.drive policy plateau rover _ plan.commands).reported.reverse = []
  rw [Journey.reported_drive h]
  rfl

namespace Report

variable {policy : BoundaryPolicy} {mode : ErrorMode} {plateau : Plateau} {rover : Nat}
variable {plan : Plan} {plans : List Plan}

/-! ## Rovers that get their turn -/

/-- The events of rovers that all get their turn, the first of them number `rover`. -/
def transcript (policy : BoundaryPolicy) (plateau : Plateau) : (rover : Nat) → List Plan →
    List Event
  | _, [] => []
  | rover, plan :: plans =>
    (Outcome.ofPlan policy plateau rover plan).events ++
      (plan.outcome policy plateau rover).event :: transcript policy plateau (rover + 1) plans

theorem outcomesOf_take (policy : BoundaryPolicy) (plateau : Plateau) (rover : Nat)
    (plans : List Plan) (n : Nat) :
    outcomesOf policy plateau rover (plans.take n) =
      (outcomesOf policy plateau rover plans).take n := by
  induction plans generalizing rover n with
  | nil => simp [outcomesOf]
  | cons plan plans ih =>
    cases n with
    | zero => rfl
    | succ n => simp [outcomesOf, ih]

/-- The first rovers are told apart by the first numbers. -/
theorem rover_take_collected {m : Mission} {n : Nat}
    (h : n < (collected policy m).outcomes.length) :
    ((collected policy m).outcomes.take n).map Outcome.rover = List.range' 1 n := by
  have hlength : ((collected policy m).outcomes.take n).length = n := by
    rw [List.length_take]
    omega
  rw [collected, ← outcomesOf_take] at hlength ⊢
  rw [rover_outcomesOf, hlength]

theorem origin_of_mem_transcript {e : Event} (h : e ∈ transcript policy plateau rover plans) :
    e.origin = .runner := by
  induction plans generalizing rover with
  | nil => cases h
  | cons plan plans ih =>
    rw [transcript, List.mem_append, List.mem_cons] at h
    rcases h with h | rfl | h
    · exact (Outcome.tracing_of_mem_ofPlan h).1
    · rw [Outcome.event]
      cases (plan.outcome policy plateau rover).result <;> rfl
    · exact ih h

/-- Nobody but the runner has a say in a transcript. -/
theorem filter_runner_transcript (policy : BoundaryPolicy) (plateau : Plateau) (rover : Nat)
    (plans : List Plan) :
    (transcript policy plateau rover plans).filter (fun e => e.origin = .runner) =
      transcript policy plateau rover plans := by
  refine List.filter_eq_self.2 fun e he => ?_
  simp [origin_of_mem_transcript he]

theorem level_event (o : Outcome) : o.event.level = .debug := by
  rw [Outcome.event]
  cases o.result <;> rfl

/-- Without the traces a transcript tells of the outcomes, one by one. -/
theorem filter_transcript (policy : BoundaryPolicy) (plateau : Plateau) (rover : Nat)
    (plans : List Plan) :
    (transcript policy plateau rover plans).filter (fun e => e.level = .debug) =
      (outcomesOf policy plateau rover plans).map Outcome.event := by
  induction plans generalizing rover with
  | nil => rfl
  | cons plan plans ih =>
    have htraces : (Outcome.ofPlan policy plateau rover plan).events.filter
        (fun e => e.level = .debug) = [] := by
      refine List.filter_eq_nil_iff.2 fun e he => ?_
      simp [(Outcome.tracing_of_mem_ofPlan he).2]
    simp [transcript, outcomesOf, htraces, level_event, ih]

/-- Without traces of skipped moves there is nothing to leave out. -/
theorem transcript_of_ne_ignore (h : policy ≠ .ignore) (plateau : Plateau) (rover : Nat)
    (plans : List Plan) :
    transcript policy plateau rover plans =
      (outcomesOf policy plateau rover plans).map Outcome.event := by
  induction plans generalizing rover with
  | nil => rfl
  | cons plan plans ih => simp [transcript, outcomesOf, Outcome.events_ofPlan h, ih]

/-- A rover that does not end the mission tells of its way and of its outcome. -/
theorem events_outcomesFrom_of_kept
    (h : (plan.outcome policy plateau rover).fault? = none ∨ mode = .collect) :
    (outcomesFrom policy mode plateau rover (plan :: plans)).events =
      (Outcome.ofPlan policy plateau rover plan).events ++
        (plan.outcome policy plateau rover).event ::
          (outcomesFrom policy mode plateau (rover + 1) plans).events := by
  have hkept : (do
      Attempt.record (plan.outcome policy plateau rover).event
      let outcomes ← outcomesFrom policy mode plateau (rover + 1) plans
      pure (plan.outcome policy plateau rover :: outcomes) : Attempt (List Outcome)).events =
        (plan.outcome policy plateau rover).event ::
          (outcomesFrom policy mode plateau (rover + 1) plans).events := by
    rw [Attempt.events_bind_ok (Attempt.result_record _), Attempt.events_record,
      List.singleton_append]
    cases hrest : (outcomesFrom policy mode plateau (rover + 1) plans).result with
    | error fault => rw [Attempt.events_bind_error hrest]
    | ok outcomes => rw [Attempt.events_bind_ok hrest, Attempt.events_pure, List.append_nil]
  rw [← hkept, outcomesFrom, Attempt.events_bind_ok (Attempt.result_lift _), Attempt.events_lift]
  rw [Plan.outcome] at h ⊢
  rcases h with h | rfl
  · rw [h]
  · cases (Outcome.ofPlan policy plateau rover plan).value.fault? <;> rfl

/-- Failing fast, a rover that fails tells of its way only. -/
theorem events_outcomesFrom_of_fault {fault : Fault}
    (h : (plan.outcome policy plateau rover).fault? = some fault) :
    (outcomesFrom policy .failFast plateau rover (plan :: plans)).events =
      (Outcome.ofPlan policy plateau rover plan).events := by
  rw [outcomesFrom, Attempt.events_bind_ok (Attempt.result_lift _), Attempt.events_lift]
  rw [Plan.outcome] at h
  rw [h]
  show _ ++ Attempt.events (throw fault >>= _) = _
  rw [Attempt.events_bind_error (Attempt.result_throw fault), Attempt.events_throw,
    List.append_nil]

theorem events_outcomesFrom_of_ok {outcomes : List Outcome}
    (h : (outcomesFrom policy mode plateau rover plans).result = .ok outcomes) :
    (outcomesFrom policy mode plateau rover plans).events =
      transcript policy plateau rover plans := by
  induction plans generalizing rover outcomes with
  | nil => rfl
  | cons plan plans ih =>
    have hkept : (plan.outcome policy plateau rover).fault? = none ∨ mode = .collect := by
      cases mode with
      | collect => exact Or.inr rfl
      | failFast =>
        cases hf : (plan.outcome policy plateau rover).fault? with
        | none => exact Or.inl rfl
        | some fault =>
          rw [result_outcomesFrom_of_fault hf] at h
          cases h
    rw [result_outcomesFrom_of_kept hkept] at h
    cases hrest : (outcomesFrom policy mode plateau (rover + 1) plans).result with
    | error fault =>
      rw [hrest] at h
      cases h
    | ok rest => rw [events_outcomesFrom_of_kept hkept, transcript, ih hrest]

/-- A mission that ends early has failed fast at a rover, and only the rovers in front of it
have told of themselves. -/
theorem exists_of_outcomesFrom_error {fault : Fault}
    (h : (outcomesFrom policy mode plateau rover plans).result = .error fault) :
    mode = .failFast ∧ ∃ i plan, plans[i]? = some plan ∧
      (plan.outcome policy plateau (rover + i)).fault? = some fault ∧
      (∀ o ∈ outcomesOf policy plateau rover (plans.take i), o.fault? = none) ∧
      (outcomesFrom policy mode plateau rover plans).events =
        transcript policy plateau rover (plans.take i) := by
  cases mode with
  | collect =>
    rw [result_outcomesFrom_collect] at h
    cases h
  | failFast =>
    refine ⟨rfl, ?_⟩
    induction plans generalizing rover with
    | nil => cases h
    | cons plan plans ih =>
      cases hf : (plan.outcome policy plateau rover).fault? with
      | some fault' =>
        have hstrict : policy = .strict :=
          (Plan.policy_of_mark plan policy plateau rover).2.2.2 fault' (Outcome.result_of_fault? hf)
        have hloud : policy ≠ .ignore := by simp [hstrict]
        have hsilent := Outcome.events_ofPlan hloud plateau rover plan
        rw [result_outcomesFrom_of_fault hf] at h
        cases h
        refine ⟨0, plan, rfl, hf, List.forall_mem_nil _, ?_⟩
        rw [events_outcomesFrom_of_fault hf, hsilent]
        rfl
      | none =>
        rw [result_outcomesFrom_of_kept (Or.inl hf)] at h
        have hrest : (outcomesFrom policy .failFast plateau (rover + 1) plans).result =
            .error fault := by
          cases hr : (outcomesFrom policy .failFast plateau (rover + 1) plans).result with
          | error fault' =>
            rw [hr] at h
            cases h
            rfl
          | ok outcomes =>
            rw [hr] at h
            cases h
        obtain ⟨i, failing, hi, hfault, hbefore, hevents⟩ := ih hrest
        have hn : rover + 1 + i = rover + (i + 1) := by omega
        rw [hn] at hfault
        refine ⟨i + 1, failing, hi, hfault, ?_, ?_⟩
        · exact List.forall_mem_cons.2 ⟨hf, hbefore⟩
        · rw [events_outcomesFrom_of_kept (Or.inl hf), hevents]
          rfl

/-! ## Missions -/

theorem events_ofMission (policy : BoundaryPolicy) (mode : ErrorMode) (m : Mission) :
    (ofMission policy mode m).events = (outcomesFrom policy mode m.plateau 1 m.plans).events := by
  rw [ofMission]
  cases h : (outcomesFrom policy mode m.plateau 1 m.plans).result with
  | error fault => rw [Attempt.events_bind_error h]
  | ok outcomes => rw [Attempt.events_bind_ok h, Attempt.events_pure, List.append_nil]

theorem result_outcomesFrom_of_error {m : Mission} {fault : Fault}
    (h : (ofMission policy mode m).result = .error fault) :
    (outcomesFrom policy mode m.plateau 1 m.plans).result = .error fault := by
  rw [ofMission] at h
  cases hr : (outcomesFrom policy mode m.plateau 1 m.plans).result with
  | error fault' =>
    rw [Attempt.result_bind_error hr] at h
    cases h
    rfl
  | ok outcomes =>
    rw [Attempt.result_bind_ok hr] at h
    cases h

theorem events_ofMission_of_ok {m : Mission} {report : Report}
    (h : (ofMission policy mode m).result = .ok report) :
    report = collected policy m ∧
      (ofMission policy mode m).events = transcript policy m.plateau 1 m.plans := by
  have hreport : report = collected policy m := by
    rcases result_ofMission_cases policy mode m with hok | ⟨fault, -, herror⟩
    · rw [hok] at h
      cases h
      rfl
    · rw [herror] at h
      cases h
  refine ⟨hreport, ?_⟩
  rw [events_ofMission]
  cases hr : (outcomesFrom policy mode m.plateau 1 m.plans).result with
  | error fault =>
    rw [ofMission, Attempt.result_bind_error hr] at h
    cases h
  | ok outcomes => exact events_outcomesFrom_of_ok hr

theorem origin_of_mem_ofMission {m : Mission} {e : Event}
    (h : e ∈ (ofMission policy mode m).events) : e.origin = .runner := by
  rw [events_ofMission] at h
  cases hr : (outcomesFrom policy mode m.plateau 1 m.plans).result with
  | error fault =>
    obtain ⟨-, i, -, -, -, -, hevents⟩ := exists_of_outcomesFrom_error hr
    rw [hevents] at h
    exact origin_of_mem_transcript h
  | ok outcomes =>
    rw [events_outcomesFrom_of_ok hr] at h
    exact origin_of_mem_transcript h

end Report

/-! ## The events of outcomes -/

/-- The event that tells of an outcome, as it stands in the log. -/
def Outcome.ToldBy (o : Outcome) (e : Event) : Prop :=
  e.level = .debug ∧
    match o.result with
    | .ok pose =>
      e = .roverFinished o.rover pose o.skipped o.wrapped o.halted ∧
        e.message = "Rover #" ++ Numeral.ofNat o.rover ++ " finished at " ++ pose.text
          ++ " (skipped: " ++ Numeral.ofNat o.skipped ++ ", wrapped: " ++ Numeral.ofNat o.wrapped
          ++ ", halted: " ++ Inspect.bool o.halted ++ ")"
    | .error fault =>
      e = .roverFailed o.rover fault ∧
        e.message = "Rover #" ++ Numeral.ofNat o.rover ++ " failed: " ++ fault.message

/-- The event that tells of a report, as it stands in the log. -/
def Report.ToldBy (report : Report) (e : Event) : Prop :=
  e = .finished report.outcomes.length report.failures.length ∧ e.level = .info ∧
    e.message = "Mission finished: " ++ Numeral.ofNat report.outcomes.length ++ " rover(s), "
      ++ Numeral.ofNat report.failures.length ++ " failure(s)"

theorem Outcome.toldBy_event (o : Outcome) : o.ToldBy o.event := by
  obtain ⟨rover, result, skipped, wrapped, halted⟩ := o
  cases result <;> exact ⟨rfl, rfl, rfl⟩

theorem Outcome.forall₂_toldBy (outcomes : List Outcome) :
    List.Forall₂ ToldBy outcomes (outcomes.map event) :=
  List.forall₂_map_right_iff.2 (List.forall₂_same.2 fun o _ => o.toldBy_event)

/-! ## Refusals of a writer -/

section

variable {σ : Type} {w : Writer σ} {s s' : σ} {fault : Fault}

theorem Piece.exists_of_hand {piece : Piece} (h : piece.hand w s = (s', some fault)) :
    ∃ cause, fault = piece.fault cause := by
  unfold hand at h
  split at h
  · rename_i s₁ _ _
    cases hc : (w.close s₁).2 with
    | none => simp [hc] at h
    | some cause =>
      simp only [hc, Option.map_some, Prod.mk.injEq, Option.some.injEq] at h
      exact ⟨cause, h.2.symm⟩
  · simp at h
  · exact ⟨_, (Option.some.inj (congrArg Prod.snd h)).symm⟩
  · exact ⟨_, (Option.some.inj (congrArg Prod.snd h)).symm⟩

theorem Piece.exists_of_handAll {pieces : List Piece}
    (h : handAll w s pieces = (s', some fault)) :
    ∃ piece ∈ pieces, ∃ cause, fault = piece.fault cause := by
  induction pieces generalizing s with
  | nil => simp [handAll] at h
  | cons piece pieces ih =>
    rw [handAll] at h
    split at h
    · obtain ⟨piece', hmem, hcause⟩ := ih h
      exact ⟨piece', List.mem_cons_of_mem piece hmem, hcause⟩
    · rename_i hhand
      cases h
      exact ⟨piece, List.mem_cons_self, exists_of_hand hhand⟩

theorem Piece.category_of_mem_ofReport {format : OutputFormat} {report : Report}
    {cutting : Cutting} {piece : Piece} (h : piece ∈ ofReport format report cutting)
    (cause : IoFault) : (piece.fault cause).category = .system := by
  cases format with
  | text =>
    obtain ⟨pose, -, hpiece⟩ := List.mem_flatMap.1 h
    rw [fault_of_mem_formatted hpiece]
    rfl
  | json =>
    rcases List.mem_append.1 h with hpiece | hpiece
    · rw [fault_of_mem_formatted hpiece]
      rfl
    · rw [List.mem_singleton.1 hpiece]
      rfl
  | csv =>
    rcases fault_of_mem_buffered h with hpiece | hpiece <;> rw [hpiece] <;> rfl

/-- A report that cannot be written is a fault of the system, not of a rover. -/
theorem Report.category_of_writeTo {format : OutputFormat} {report : Report} {cutting : Cutting}
    (h : report.writeTo w s format cutting = (s', some fault)) : fault.category = .system := by
  rw [writeTo] at h
  split at h
  · rename_i hall
    cases h
    obtain ⟨piece, hmem, cause, rfl⟩ := Piece.exists_of_handAll hall
    exact Piece.category_of_mem_ofReport hmem cause
  · rename_i s₁ _
    cases hc : (w.flush s₁).2 with
    | none => simp [hc] at h
    | some cause =>
      simp only [hc, Option.map_some, Prod.mk.injEq, Option.some.injEq] at h
      rw [← h.2]
      rfl

end

/-! ## Runs -/

namespace Delivery

variable {σ : Type} {w : Writer σ} {s s' : σ} {settings : Settings} {label t : Text}
variable {cutting : Cutting} {source : Except Fault Text} {report : Report} {fault : Fault}
variable {m : Mission}

theorem result_attempt_of_value (h : (runOn w s settings label source cutting).value =
    (s', .ok report)) : (attempt settings label source).result = .ok report := by
  cases hattempt : (attempt settings label source).result with
  | error fault =>
    rw [value_runOn_of_error hattempt] at h
    cases h
  | ok report' =>
    rw [value_runOn_of_ok hattempt] at h
    rcases hw : report'.writeTo w s settings.format cutting with ⟨s₁, _ | fault⟩
    · rw [hw] at h
      cases h
      rfl
    · rw [hw] at h
      cases h

/-- What the runner says at the end of a run. -/
def closing : Except Fault Report → List Event
  | .ok report => [.finished report.outcomes.length report.failures.length]
  | .error _ => []

theorem events_runOn (w : Writer σ) (s : σ) (settings : Settings) (label : Text)
    (source : Except Fault Text) (cutting : Cutting) :
    (runOn w s settings label source cutting).events =
      (attempt settings label source).events ++
        closing (runOn w s settings label source cutting).value.2 := by
  rw [runOn, Logged.events_bind, Logged.value_bind]
  show (attempt settings label source).events ++ _ = _
  congr 1
  cases (attempt settings label source).run.value with
  | error fault => rfl
  | ok report =>
    simp only
    rcases report.writeTo w s settings.format cutting with ⟨s₁, _ | fault⟩ <;> rfl

theorem events_attempt_of_text (h : Mission.ofText t = .error fault) :
    (attempt settings label (.ok t)).events = [.reading label] := by
  have hread : (Mission.read t).events = [] := by
    rw [Mission.read, h]
    rfl
  rw [attempt, Attempt.events_bind_ok (Attempt.result_record _), Attempt.events_record,
    Attempt.events_bind_ok (Attempt.result_ofExcept _),
    Attempt.events_bind_error ((Mission.result_read t).trans h), hread]
  rfl

theorem events_attempt_of_mission (h : Mission.ofText t = .ok m) :
    (attempt settings label (.ok t)).events =
      [.reading label, .missionRead m.plateau m.plans.length,
        .running m.plans.length settings.policy settings.errorMode] ++
      (Report.ofMission settings.policy settings.errorMode m).events := by
  have hread : (Mission.read t).events = [.missionRead m.plateau m.plans.length] := by
    rw [Mission.read, h]
    rfl
  rw [attempt, Attempt.events_bind_ok (Attempt.result_record _), Attempt.events_record,
    Attempt.events_bind_ok (Attempt.result_ofExcept _),
    Attempt.events_bind_ok ((Mission.result_read t).trans h), hread,
    Attempt.events_bind_ok (Attempt.result_record _), Attempt.events_record]
  rfl

theorem finished_not_mem_attempt (settings : Settings) (label t : Text) (n k : Nat) :
    .finished n k ∉ (attempt settings label (.ok t)).events := by
  cases ht : Mission.ofText t with
  | error fault =>
    rw [events_attempt_of_text ht]
    simp
  | ok m =>
    rw [events_attempt_of_mission ht, List.mem_append, not_or]
    refine ⟨by simp, fun h => ?_⟩
    cases Report.origin_of_mem_ofMission h

theorem exists_mission_of_result (h : (attempt settings label (.ok t)).result = .ok report) :
    ∃ m, Mission.ofText t = .ok m ∧
      (Report.ofMission settings.policy settings.errorMode m).result = .ok report := by
  cases ht : Mission.ofText t with
  | error fault =>
    rw [result_attempt_of_text ht] at h
    cases h
  | ok m =>
    rw [result_attempt_of_mission ht] at h
    exact ⟨m, rfl, h⟩

/-- A fault that is not the writer's is one of the mission. -/
theorem result_attempt_of_value_error (hsystem : fault.category ≠ .system)
    (h : (runOn w s settings label source cutting).value = (s', .error fault)) :
    (attempt settings label source).result = .error fault := by
  cases hattempt : (attempt settings label source).result with
  | error fault' =>
    rw [value_runOn_of_error hattempt] at h
    cases h
    rfl
  | ok report =>
    rw [value_runOn_of_ok hattempt] at h
    rcases hw : report.writeTo w s settings.format cutting with ⟨s₁, _ | fault'⟩
    · rw [hw] at h
      cases h
    · rw [hw] at h
      cases h
      exact absurd (Report.category_of_writeTo hw) hsystem

/-- Among the events of a run that comes to a report, those that tell of outcomes. -/
theorem filter_events_of_ok (h : (runOn w s settings label (.ok t) cutting).value =
    (s', .ok report)) :
    ((runOn w s settings label (.ok t) cutting).events.filter
        fun e => e.origin = .runner).filter (fun e => e.level = .debug) =
      report.outcomes.map Outcome.event := by
  obtain ⟨m, hm, hr⟩ := exists_mission_of_result (result_attempt_of_value h)
  obtain ⟨rfl, hevents⟩ := Report.events_ofMission_of_ok hr
  have hclosing : closing (runOn w s settings label (.ok t) cutting).value.2 =
      closing (.ok (Report.collected settings.policy m)) := by
    rw [h]
  rw [events_runOn, hclosing, events_attempt_of_mission hm, hevents]
  simp only [List.filter_append, Report.filter_runner_transcript, Report.filter_transcript]
  exact List.append_nil _

/-- A run that ends at a rover has told of the rovers in front of it, which came through,
and of nothing else that rovers do. -/
theorem filter_events_of_outOfBounds {rover i : Nat} {pose : Pose}
    (h : (runOn w s settings label (.ok t) cutting).value =
      (s', .error (.outOfBounds rover i pose))) :
    settings.errorMode = .failFast ∧ ∃ m failing, Mission.ofText t = .ok m ∧
      (Report.collected settings.policy m).outcomes[rover - 1]? = some failing ∧
      failing.fault? = some (.outOfBounds rover i pose) ∧ 1 ≤ rover ∧
      (∀ o ∈ (Report.collected settings.policy m).outcomes.take (rover - 1), o.fault? = none) ∧
      (runOn w s settings label (.ok t) cutting).events.filter (fun e => e.origin = .runner) =
        ((Report.collected settings.policy m).outcomes.take (rover - 1)).map Outcome.event := by
  have hattempt := result_attempt_of_value_error (by simp [Fault.category]) h
  cases hm : Mission.ofText t with
  | error fault =>
    rw [result_attempt_of_text hm] at hattempt
    cases hattempt
    have hinput := Mission.category_of_ofText hm
    cases hinput
  | ok m =>
    rw [result_attempt_of_mission hm] at hattempt
    obtain ⟨hmode, n, plan, hplan, hfault, hbefore, hevents⟩ :=
      Report.exists_of_outcomesFrom_error (Report.result_outcomesFrom_of_error hattempt)
    have hstrict : settings.policy = .strict :=
      (Plan.policy_of_mark plan settings.policy m.plateau (1 + n)).2.2.2 _
        (Outcome.result_of_fault? hfault)
    have hstart := ((Mission.wellFormed_of_ofText hm).2 plan (List.mem_of_getElem? hplan)).1
    obtain ⟨_, _, heq, -⟩ := Plan.outOfBounds_of_result hstart (Outcome.result_of_fault? hfault)
    cases heq
    have hn : 1 + n - 1 = n := by omega
    have htake : (Report.collected settings.policy m).outcomes.take n =
        Report.outcomesOf settings.policy m.plateau 1 (m.plans.take n) :=
      (Report.outcomesOf_take settings.policy m.plateau 1 m.plans n).symm
    refine ⟨hmode, m, _, rfl, ?_, hfault, by omega, ?_, ?_⟩
    · rw [hn, Report.collected, Report.getElem?_outcomesOf, hplan]
      rfl
    · rw [hn, htake]
      exact hbefore
    · have hloud : settings.policy ≠ .ignore := by simp [hstrict]
      have htranscript :=
        Report.transcript_of_ne_ignore hloud m.plateau 1 (m.plans.take n)
      have hclosing : closing (runOn w s settings label (.ok t) cutting).value.2 = [] := by
        rw [h]
        rfl
      rw [hn, htake, ← htranscript, events_runOn, hclosing, events_attempt_of_mission hm,
        Report.events_ofMission, hevents, List.append_nil, List.filter_append,
        Report.filter_runner_transcript]
      rfl

/-- The events of a run are a transcript of it.  The rovers are told of in their order, one
event for each outcome of the report.  The end of the mission is told of at the end, and if
and only if the run has come to a report, with the numbers of that report.  A run that ends
at a rover has told of those in front of it, which came through, and of no other. -/
theorem transcript_runOn (w : Writer σ) (s : σ) (settings : Settings) (label t : Text)
    (cutting : Cutting) :
    let run := runOn w s settings label (.ok t) cutting
    let told := run.events.filter fun e => e.origin = .runner
    (∀ s' report, run.value = (s', .ok report) →
      report.outcomes.map Outcome.rover = List.range' 1 report.outcomes.length ∧
      List.Forall₂ Outcome.ToldBy report.outcomes (told.filter fun e => e.level = .debug) ∧
      ∃ earlier last, run.events = earlier ++ [last] ∧ report.ToldBy last ∧
        ∀ n k, .finished n k ∉ earlier) ∧
    (∀ n k, .finished n k ∈ run.events ↔ ∃ s' report, run.value = (s', .ok report) ∧
      n = report.outcomes.length ∧ k = report.failures.length) ∧
    ∀ s' rover i pose, run.value = (s', .error (.outOfBounds rover i pose)) →
      settings.errorMode = .failFast ∧ ∃ m failing, Mission.ofText t = .ok m ∧ 1 ≤ rover ∧
        let outcomes := (Report.collected settings.policy m).outcomes
        outcomes[rover - 1]? = some failing ∧
        failing.fault? = some (.outOfBounds rover i pose) ∧
        (outcomes.take (rover - 1)).map Outcome.rover = List.range' 1 (rover - 1) ∧
        (∀ o ∈ outcomes.take (rover - 1), o.fault? = none) ∧
        List.Forall₂ Outcome.ToldBy (outcomes.take (rover - 1)) told := by
  have hevents := events_runOn w s settings label (.ok t) cutting
  have hsilent := finished_not_mem_attempt settings label t
  intro run told
  refine ⟨?_, ?_, ?_⟩
  · intro s' report hvalue
    obtain ⟨m, -, hr⟩ := exists_mission_of_result (result_attempt_of_value hvalue)
    refine ⟨?_, ?_, _, _, ?_, ⟨rfl, rfl, rfl⟩, hsilent⟩
    · rw [(Report.events_ofMission_of_ok hr).1]
      exact Report.rover_outcomesOf settings.policy m.plateau 1 m.plans
    · show List.Forall₂ _ _ ((run.events.filter _).filter _)
      rw [filter_events_of_ok hvalue]
      exact Outcome.forall₂_toldBy report.outcomes
    · show run.events = _
      rw [hevents, hvalue]
      rfl
  · intro n k
    show _ ∈ run.events ↔ _
    rw [hevents, List.mem_append, or_iff_right (hsilent n k)]
    show Event.finished n k ∈ closing run.value.2 ↔ _
    rcases run.value with ⟨s', fault | report⟩ <;> simp [closing]
  · intro s' rover i pose hvalue
    obtain ⟨hmode, m, failing, hm, hat, hfault, hrover, hbefore, hfilter⟩ :=
      filter_events_of_outOfBounds hvalue
    refine ⟨hmode, m, failing, hm, hrover, hat, hfault, ?_, hbefore, ?_⟩
    · exact Report.rover_take_collected (List.getElem?_eq_some_iff.1 hat).1
    · show List.Forall₂ _ _ (run.events.filter _)
      rw [hfilter]
      exact Outcome.forall₂_toldBy _

/-- A mission whose second rover leaves the plateau, so that the third does not get its turn. -/
theorem transcript_runOn_second_fails :
    let t : Text := "1 1\n0 1 E\nL\n0 0 S\nM\n1 1 N\nR\n"
    let run := runOn Output.writer { room := none } {} "<stdin>" (.ok t)
    let corner : Pose := { position := { x := 0, y := 0 }, heading := .south }
    let edge : Pose := { position := { x := 0, y := 1 }, heading := .north }
    run.value.2 = .error (.outOfBounds 2 1 corner) ∧
      List.Forall₂ Outcome.ToldBy [{ rover := 1, result := .ok edge }]
        (run.events.filter fun e => e.origin = .runner) ∧
      ∀ n k, .finished n k ∉ run.events := by
  intro t run corner edge
  have hvalue : run.value = ({ room := none }, .error (.outOfBounds 2 1 corner)) := rfl
  obtain ⟨-, hfinished, hstopped⟩ :=
    transcript_runOn Output.writer { room := none } {} "<stdin>" t .whole
  obtain ⟨-, m, -, hm, -, -, -, -, -, htold⟩ := hstopped _ 2 1 corner hvalue
  refine ⟨congrArg Prod.snd hvalue, ?_, fun n k => ?_⟩
  · cases hm
    exact htold
  · rw [hfinished]
    rintro ⟨s', report, hok, -⟩
    cases hvalue.symm.trans hok

end Delivery
end RoverMission

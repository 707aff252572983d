/-
Error modes compared.

Rovers do not see each other, so the outcomes of a mission are those of its
plans, each for itself (`outcomesOf`).  Collecting errors gives all of them.
Failing fast gives the same report if no rover fails, and the fault of the first
rover that does otherwise.
-/
import RoverMission.Proofs.Attempts
import RoverMission.Proofs.Policies

namespace RoverMission
namespace Report

variable {policy : BoundaryPolicy} {mode : ErrorMode} {plateau : Plateau} {rover : Nat}
variable {plan : Plan} {plans : List Plan}

/-- The outcomes of plans, each for itself, the first that of rover number
`rover`. -/
def outcomesOf (policy : BoundaryPolicy) (plateau : Plateau) : (rover : Nat) → List Plan →
    List Outcome
  | _, [] => []
  | rover, plan :: plans =>
    plan.outcome policy plateau rover :: outcomesOf policy plateau (rover + 1) plans

theorem length_outcomesOf (policy : BoundaryPolicy) (plateau : Plateau) (rover : Nat)
    (plans : List Plan) : (outcomesOf policy plateau rover plans).length = plans.length := by
  induction plans generalizing rover with
  | nil => rfl
  | cons plan plans ih => rw [outcomesOf, List.length_cons, List.length_cons, ih]

theorem getElem?_outcomesOf (policy : BoundaryPolicy) (plateau : Plateau) (rover : Nat)
    (plans : List Plan) (i : Nat) :
    (outcomesOf policy plateau rover plans)[i]? =
      plans[i]?.map fun plan => plan.outcome policy plateau (rover + i) := by
  induction plans generalizing rover i with
  | nil => rfl
  | cons plan plans ih =>
    rw [outcomesOf]
    cases i with
    | zero => rfl
    | succ i =>
      rw [List.getElem?_cons_succ, List.getElem?_cons_succ, ih]
      have hn : rover + 1 + i = rover + (i + 1) := by omega
      rw [hn]

/-! ## One rover after the other -/

/-- An outcome that does not end the mission stands in front of the others. -/
theorem result_outcomesFrom_of_kept
    (h : (plan.outcome policy plateau rover).fault? = none ∨ mode = .collect) :
    (outcomesFrom policy mode plateau rover (plan :: plans)).result =
      (outcomesFrom policy mode plateau (rover + 1) plans).result.map
        (plan.outcome policy plateau rover :: ·) := by
  have hkept : (do
      Attempt.record (plan.outcome policy plateau rover).event
      let outcomes ← outcomesFrom policy mode plateau (rover + 1) plans
      pure (plan.outcome policy plateau rover :: outcomes) : Attempt (List Outcome)).result =
        (outcomesFrom policy mode plateau (rover + 1) plans).result.map
          (plan.outcome policy plateau rover :: ·) := by
    rw [Attempt.result_bind_ok (Attempt.result_record _)]
    cases hrest : (outcomesFrom policy mode plateau (rover + 1) plans).result with
    | error fault =>
      rw [Attempt.result_bind_error hrest]
      rfl
    | ok outcomes =>
      rw [Attempt.result_bind_ok hrest, Attempt.result_pure]
      rfl
  rw [← hkept, outcomesFrom, Attempt.result_bind_ok (Attempt.result_lift _)]
  rw [Plan.outcome] at h ⊢
  rcases h with h | rfl
  · rw [h]
  · cases (Outcome.ofPlan policy plateau rover plan).value.fault? <;> rfl

/-- Failing fast, the first fault is all that comes of the mission. -/
theorem result_outcomesFrom_of_fault {fault : Fault}
    (h : (plan.outcome policy plateau rover).fault? = some fault) :
    (outcomesFrom policy .failFast plateau rover (plan :: plans)).result = .error fault := by
  rw [outcomesFrom, Attempt.result_bind_ok (Attempt.result_lift _)]
  rw [Plan.outcome] at h
  rw [h]
  exact Attempt.result_bind_error (Attempt.result_throw fault) _

/-! ## All rovers -/

theorem result_outcomesFrom_collect (policy : BoundaryPolicy) (plateau : Plateau) (rover : Nat)
    (plans : List Plan) :
    (outcomesFrom policy .collect plateau rover plans).result =
      .ok (outcomesOf policy plateau rover plans) := by
  induction plans generalizing rover with
  | nil => rfl
  | cons plan plans ih =>
    rw [result_outcomesFrom_of_kept (Or.inr rfl), ih]
    rfl

theorem result_outcomesFrom_failFast (policy : BoundaryPolicy) (plateau : Plateau) (rover : Nat)
    (plans : List Plan) :
    (outcomesFrom policy .failFast plateau rover plans).result =
      match (outcomesOf policy plateau rover plans).findSome? Outcome.fault? with
      | none => .ok (outcomesOf policy plateau rover plans)
      | some fault => .error fault := by
  induction plans generalizing rover with
  | nil => rfl
  | cons plan plans ih =>
    rw [outcomesOf, List.findSome?_cons]
    cases hf : (plan.outcome policy plateau rover).fault? with
    | some fault => rw [result_outcomesFrom_of_fault hf]
    | none =>
      rw [result_outcomesFrom_of_kept (Or.inl hf), ih]
      simp only
      cases (outcomesOf policy plateau (rover + 1) plans).findSome? Outcome.fault? <;> rfl

/-- The report of a mission whose rovers all get their turn. -/
def collected (policy : BoundaryPolicy) (m : Mission) : Report where
  outcomes := outcomesOf policy m.plateau 1 m.plans

theorem exists_plan_of_mem_collected {m : Mission} {outcome : Outcome}
    (h : outcome ∈ (collected policy m).outcomes) :
    ∃ i, ∃ plan ∈ m.plans, outcome = plan.outcome policy m.plateau (1 + i) := by
  obtain ⟨i, hi⟩ := List.getElem?_of_mem h
  rw [collected, getElem?_outcomesOf, Option.map_eq_some_iff] at hi
  obtain ⟨plan, hplan, ho⟩ := hi
  exact ⟨i, plan, List.mem_of_getElem? hplan, ho.symm⟩

theorem result_ofMission_collect (policy : BoundaryPolicy) (m : Mission) :
    (ofMission policy .collect m).result = .ok (collected policy m) := by
  rw [ofMission, Attempt.result_bind_ok (result_outcomesFrom_collect policy m.plateau 1 m.plans)]
  rfl

theorem result_ofMission_failFast (policy : BoundaryPolicy) (m : Mission) :
    (ofMission policy .failFast m).result =
      match (collected policy m).outcomes.findSome? Outcome.fault? with
      | none => .ok (collected policy m)
      | some fault => .error fault := by
  have h := result_outcomesFrom_failFast policy m.plateau 1 m.plans
  rw [ofMission]
  show _ = match (outcomesOf policy m.plateau 1 m.plans).findSome? Outcome.fault? with
    | none => _
    | some fault => _
  cases hf : (outcomesOf policy m.plateau 1 m.plans).findSome? Outcome.fault? with
  | none =>
    rw [hf] at h
    rw [Attempt.result_bind_ok h]
    rfl
  | some fault =>
    rw [hf] at h
    rw [Attempt.result_bind_error h]

/-! ## Failures -/

theorem hasFailures_eq_isSome (report : Report) :
    report.hasFailures = (report.outcomes.findSome? Outcome.fault?).isSome := by
  rw [hasFailures, failures, ← List.head?_filterMap]
  cases report.outcomes.filterMap Outcome.fault? <;> rfl

/-- The first fault belongs to the failing rover with the lowest number. -/
theorem exists_first_failure {outcomes : List Outcome} {fault : Fault}
    (h : outcomes.findSome? Outcome.fault? = some fault) :
    ∃ (i : Nat) (outcome : Outcome), outcomes[i]? = some outcome ∧ outcome.fault? = some fault ∧
      ∀ i' < i, ∀ earlier : Outcome, outcomes[i']? = some earlier → earlier.fault? = none := by
  obtain ⟨before, outcome, behind, rfl, hf, hnone⟩ := List.findSome?_eq_some_iff.1 h
  refine ⟨before.length, outcome, by simp, hf, fun i' hi' earlier he => ?_⟩
  rw [List.getElem?_append_left hi'] at he
  exact hnone earlier (List.mem_of_getElem? he)

/-- Only the strict policy lets a rover fail. -/
theorem findSome?_fault?_eq_none (h : policy ≠ .strict) (m : Mission) :
    (collected policy m).outcomes.findSome? Outcome.fault? = none := by
  rw [List.findSome?_eq_none_iff]
  intro outcome hmem
  obtain ⟨i, plan, -, rfl⟩ := exists_plan_of_mem_collected hmem
  obtain ⟨-, -, -, hfail⟩ := Plan.policy_of_mark plan policy m.plateau (1 + i)
  cases hf : (plan.outcome policy m.plateau (1 + i)).fault? with
  | none => rfl
  | some fault => exact absurd (hfail fault (Outcome.result_of_fault? hf)) h

/-- Collecting errors gives one outcome for each plan, which is that of the plan
alone.  Failing fast gives the same report if no rover fails in it, and the
fault of the first rover that fails in it otherwise; so the two modes differ
under the strict policy only. -/
theorem error_modes_agree (policy : BoundaryPolicy) (m : Mission) :
    ∃ report, (ofMission policy .collect m).result = .ok report ∧
      report.outcomes.length = m.plans.length ∧
      (∀ (i : Nat) (plan : Plan), m.plans[i]? = some plan →
        report.outcomes[i]? = some (plan.outcome policy m.plateau (i + 1))) ∧
      ((∃ report', (ofMission policy .failFast m).result = .ok report') ↔
        report.hasFailures = false) ∧
      (report.hasFailures = false → (ofMission policy .failFast m).result = .ok report) ∧
      (report.hasFailures = true → ∃ (i : Nat) (outcome : Outcome) (fault : Fault),
        report.outcomes[i]? = some outcome ∧ outcome.fault? = some fault ∧
        (∀ i' < i, ∀ earlier : Outcome, report.outcomes[i']? = some earlier →
          earlier.fault? = none) ∧
        (ofMission policy .failFast m).result = .error fault) ∧
      (policy ≠ .strict →
        (ofMission policy .failFast m).result = (ofMission policy .collect m).result) := by
  have hfast := result_ofMission_failFast policy m
  have hfail := hasFailures_eq_isSome (collected policy m)
  refine ⟨collected policy m, result_ofMission_collect policy m,
    length_outcomesOf policy m.plateau 1 m.plans, fun i plan hplan => ?_, ?_, ?_, ?_, ?_⟩
  · rw [collected, getElem?_outcomesOf, hplan, Nat.add_comm 1 i]
    rfl
  · rw [hfast, hfail]
    cases (collected policy m).outcomes.findSome? Outcome.fault? <;> simp
  · rw [hfast, hfail]
    cases (collected policy m).outcomes.findSome? Outcome.fault? <;> simp
  · rw [hfast, hfail]
    cases hfirst : (collected policy m).outcomes.findSome? Outcome.fault? with
    | none => simp
    | some fault =>
      intro _
      obtain ⟨i, outcome, hi, ho, hbefore⟩ := exists_first_failure hfirst
      exact ⟨i, outcome, fault, hi, ho, hbefore, rfl⟩
  · intro hpolicy
    rw [hfast, findSome?_fault?_eq_none hpolicy, result_ofMission_collect]

end Report
end RoverMission

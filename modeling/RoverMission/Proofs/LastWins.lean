/-
The last request counts.

Requests are sorted by their topic.  A switch overrides the others of its topic and
none besides (`mem_overrides_iff`).  So of the requests of one topic the last one
decides what the flags say of it, and the requests before it leave no trace: one
more request keeps this so (`lastWins_grant`), hence all requests of a run do
(`lastWins_of_granted`).  As nothing else decides what the flags are, requests of
different topics may change places.
-/
import RoverMission.Proofs.Spellings

namespace RoverMission

theorem OutputFormat.name_injective {a b : OutputFormat} (h : a.name = b.name) : a = b :=
  Option.some.inj (by rw [← ofName?_name a, h, ofName?_name b])

namespace Flags

/-! ## Requests by topic -/

/-- What a request is about. -/
inductive Topic
  | policy
  | errorMode
  | verbose
  | help
  | option (option : Valued)
  | refusal
  deriving DecidableEq

namespace Request

def topic : Request → Topic
  | switch (.policy _) => .policy
  | switch (.mode _) => .errorMode
  | switch .verbose => .verbose
  | switch .help => .help
  | assign option _ => .option option
  | refuse _ => .refusal

def policy? : Request → Option BoundaryPolicy
  | switch (.policy p) => some p
  | _ => none

def errorMode? : Request → Option ErrorMode
  | switch (.mode m) => some m
  | _ => none

def value? (option : Valued) : Request → Option Text
  | assign option' value => if option' = option then some value else none
  | _ => none

end Request

variable {requests : List Request} {r : Request} {flags flags' : Flags}

/-- The last thing of a kind that is asked for. -/
def last {α : Type} (kind : Request → Option α) (requests : List Request) : Option α :=
  (requests.filterMap kind).getLast?

theorem last_append {α : Type} (kind : Request → Option α) (requests more : List Request) :
    last kind (requests ++ more) = (last kind more).or (last kind requests) := by
  rw [last, List.filterMap_append, List.getLast?_append]
  rfl

/-- Where requests in front say nothing of a kind, others may stand in for what is to
count for less than all that follows. -/
theorem last_or {α : Type} {kind : Request → Option α} {silent given : List Request}
    (h : last kind silent = none) (requests : List Request) :
    (last kind (silent ++ requests)).or (last kind given) = last kind (given ++ requests) := by
  rw [last_append, last_append, h, Option.or_none]

theorem last_singleton {α : Type} (kind : Request → Option α) (r : Request) :
    last kind [r] = kind r := by
  rw [last, List.filterMap_cons]
  cases kind r <;> rfl

theorem last_exchange {α : Type} {kind : Request → Option α} {x y : Request}
    (h : kind x = none ∨ kind y = none) (before after : List Request) :
    last kind (before ++ x :: y :: after) = last kind (before ++ y :: x :: after) := by
  rw [last, last, List.filterMap_append, List.filterMap_append]
  rcases h with h | h <;> simp [List.filterMap_cons, h]

theorem last_eq_none_iff {α : Type} {kind : Request → Option α} :
    last kind requests = none ↔ ∀ r ∈ requests, kind r = none := by
  rw [last, List.getLast?_eq_none_iff, List.filterMap_eq_nil_iff]

theorem value?_eq_some_iff {option : Valued} {value : Text} :
    r.value? option = some value ↔ r = .assign option value := by
  constructor
  · intro h
    unfold Request.value? at h
    split at h
    · split at h <;> cases h
      rename_i ho
      rw [ho]
    · cases h
  · rintro rfl
    exact if_pos rfl

theorem last_value?_eq_none_iff {option : Valued} :
    last (Request.value? option) requests = none ↔ ∀ value, .assign option value ∉ requests := by
  rw [last_eq_none_iff]
  constructor
  · intro h value hmem
    have hnone := h _ hmem
    rw [value?_eq_some_iff.2 rfl] at hnone
    cases hnone
  · intro h r hr
    rw [Option.eq_none_iff_forall_ne_some]
    intro value hvalue
    exact h value (value?_eq_some_iff.1 hvalue ▸ hr)

/-! ## Switches -/

/-- The flag of a policy. -/
def isOn (flags : Flags) : BoundaryPolicy → Bool
  | .strict => flags.strict
  | .ignore => flags.ignoreOob
  | .stop => flags.stopOnOob
  | .wrap => flags.wrap

/-- The flag of an error mode. -/
def isModeOn (flags : Flags) : ErrorMode → Bool
  | .failFast => flags.failFast
  | .collect => flags.collectErrors

/-- Whether a switch is on; of help no flag is kept. -/
def has (flags : Flags) : Switch → Bool
  | .policy p => flags.isOn p
  | .mode m => flags.isModeOn m
  | .verbose => flags.verbose
  | .help => false

/-- The lists are complete: a switch overrides all others of its topic, and no more. -/
theorem mem_overrides_iff {s t : Switch} :
    t ∈ s.overrides ↔ t ≠ s ∧ (Request.switch t).topic = (Request.switch s).topic := by
  rcases s with (_ | _ | _ | _) | (_ | _) | _ | _ <;>
    rcases t with (_ | _ | _ | _) | (_ | _) | _ | _ <;> decide

/-- Overriding is mutual, so it does not matter which of two switches lists the other. -/
theorem mem_overrides_comm {s t : Switch} : t ∈ s.overrides ↔ s ∈ t.overrides := by
  rw [mem_overrides_iff, mem_overrides_iff, ne_comm, eq_comm (a := (Request.switch t).topic)]

theorem has_put (flags : Flags) (on : Bool) {s : Switch} (hs : s ≠ .help) (t : Switch) :
    (flags.put on s).has t = if t = s then on else flags.has t := by
  rcases s with (_ | _ | _ | _) | (_ | _) | _ | _ <;>
    rcases t with (_ | _ | _ | _) | (_ | _) | _ | _ <;> first | rfl | exact absurd rfl hs

theorem has_foldl_put (flags : Flags) {off : List Switch} (hoff : .help ∉ off) (t : Switch) :
    (off.foldl (put · false) flags).has t = true ↔ flags.has t = true ∧ t ∉ off := by
  induction off generalizing flags with
  | nil => simp
  | cons s off ih =>
    obtain ⟨hs, hoff⟩ := List.ne_and_not_mem_of_not_mem_cons hoff
    rw [List.foldl_cons, ih (flags.put false s) hoff, has_put flags false hs.symm, List.mem_cons]
    by_cases h : t = s <;> simp [h]

/-- A switch that is turned on is on, those that it overrides are off, and the others
are what they were. -/
theorem has_of_turnOn {s : Switch} (h : flags.turnOn s = .ok flags') (t : Switch) :
    flags'.has t = true ↔ t = s ∨ flags.has t = true ∧ t ∉ s.overrides := by
  have hs : s ≠ .help := by
    rintro rfl
    cases h
  have hflags : flags' = (s.overrides.foldl (put · false) flags).put true s := by
    cases s <;> cases h <;> rfl
  have hoff : Switch.help ∉ s.overrides := by
    rw [mem_overrides_comm]
    exact List.not_mem_nil
  rw [hflags, has_put _ _ hs, ← has_foldl_put flags hoff]
  by_cases ht : t = s <;> simp [ht]

theorem has_of_turnOn_same {s t : Switch} (h : flags.turnOn s = .ok flags')
    (htopic : (Request.switch t).topic = (Request.switch s).topic) :
    flags'.has t = true ↔ t = s := by
  rw [has_of_turnOn h, mem_overrides_iff]
  by_cases ht : t = s <;> simp [ht, htopic]

theorem has_of_turnOn_other {s t : Switch} (h : flags.turnOn s = .ok flags')
    (htopic : (Request.switch t).topic ≠ (Request.switch s).topic) :
    flags'.has t = true ↔ flags.has t = true := by
  have ht : t ≠ s := ne_of_apply_ne (fun s => (Request.switch s).topic) htopic
  rw [has_of_turnOn h, mem_overrides_iff]
  simp [ht, htopic]

/-- Switches leave the values of options alone. -/
theorem options_of_turnOn {s : Switch} (h : flags.turnOn s = .ok flags') :
    flags'.input = flags.input ∧ flags'.config = flags.config ∧ flags'.format = flags.format := by
  rcases s with (_ | _ | _ | _) | (_ | _) | _ | _ <;> cases h <;> exact ⟨rfl, rfl, rfl⟩

/-! ## One request after the other -/

/-- Flags that say of each topic what the last request said. -/
structure LastWins (requests : List Request) (flags : Flags) : Prop where
  policy (p : BoundaryPolicy) : flags.isOn p = true ↔ last Request.policy? requests = some p
  errorMode (m : ErrorMode) : flags.isModeOn m = true ↔ last Request.errorMode? requests = some m
  input : flags.input = last (Request.value? .input) requests
  config : flags.config = last (Request.value? .config) requests
  format : flags.format.map OutputFormat.name = last (Request.value? .format) requests
  verbose : flags.verbose = true ↔ .switch .verbose ∈ requests

theorem lastWins_nil : LastWins [] {} where
  policy p := by cases p <;> decide
  errorMode m := by cases m <;> decide
  input := rfl
  config := rfl
  format := rfl
  verbose := by decide

theorem last_concat {α : Type} (kind : Request → Option α) (requests : List Request) (r : Request) :
    last kind (requests ++ [r]) = (kind r).or (last kind requests) := by
  rw [last_append, last_singleton]

/-- One more request: what it says counts, and what was said before only where it
says nothing. -/
theorem lastWins_concat
    (policy : ∀ p, flags'.isOn p = true ↔ r.policy?.or (last Request.policy? requests) = some p)
    (errorMode : ∀ m, flags'.isModeOn m = true ↔
      r.errorMode?.or (last Request.errorMode? requests) = some m)
    (input : flags'.input = (r.value? .input).or (last (Request.value? .input) requests))
    (config : flags'.config = (r.value? .config).or (last (Request.value? .config) requests))
    (format : flags'.format.map OutputFormat.name =
      (r.value? .format).or (last (Request.value? .format) requests))
    (verbose : flags'.verbose = true ↔ .switch .verbose ∈ requests ∨ .switch .verbose = r) :
    LastWins (requests ++ [r]) flags' where
  policy p := by rw [last_concat]; exact policy p
  errorMode m := by rw [last_concat]; exact errorMode m
  input := by rw [last_concat]; exact input
  config := by rw [last_concat]; exact config
  format := by rw [last_concat]; exact format
  verbose := by rw [List.mem_append, List.mem_singleton]; exact verbose

theorem lastWins_turnOn {s : Switch} (h : LastWins requests flags)
    (hs : flags.turnOn s = .ok flags') : LastWins (requests ++ [.switch s]) flags' := by
  obtain ⟨hinput, hconfig, hformat⟩ := options_of_turnOn hs
  have hsame (t : Switch) := has_of_turnOn_same (t := t) hs
  have hother (t : Switch) := has_of_turnOn_other (t := t) hs
  have hformat' := congrArg (Option.map OutputFormat.name) hformat
  refine lastWins_concat (fun p => ?_) (fun m => ?_) (hinput.trans h.input)
    (hconfig.trans h.config) (hformat'.trans h.format) ?_
  · cases s with
    | policy q =>
      refine (hsame (.policy p) rfl).trans ?_
      simp [Request.policy?, eq_comm]
    | mode _ | verbose => exact (hother (.policy p) nofun).trans (h.policy p)
    | help => cases hs
  · cases s with
    | mode n =>
      refine (hsame (.mode m) rfl).trans ?_
      simp [Request.errorMode?, eq_comm]
    | policy _ | verbose => exact (hother (.mode m) nofun).trans (h.errorMode m)
    | help => cases hs
  · cases s with
    | verbose => exact iff_of_true ((hsame .verbose rfl).2 rfl) (Or.inr rfl)
    | policy _ | mode _ =>
      exact (hother .verbose nofun).trans (h.verbose.trans (or_iff_left nofun).symm)
    | help => cases hs

theorem lastWins_grant (h : LastWins requests flags) (hr : flags.grant r = .ok flags') :
    LastWins (requests ++ [r]) flags' := by
  rcases r with s | ⟨option, value⟩ | fault
  · exact lastWins_turnOn h hr
  · replace hr : flags.assign option value = .ok flags' := hr
    have hverbose : flags.verbose = true ↔
        .switch .verbose ∈ requests ∨ .switch .verbose = Request.assign option value :=
      h.verbose.trans (or_iff_left nofun).symm
    unfold Flags.assign at hr
    split at hr
    · cases hr
    rcases option with _ | _ | _
    · cases hr
      exact lastWins_concat h.policy h.errorMode rfl h.config h.format hverbose
    · cases hr
      exact lastWins_concat h.policy h.errorMode h.input rfl h.format hverbose
    · cases hf : OutputFormat.ofName? value with
      | none =>
        simp only [hf] at hr
        cases hr
      | some format =>
        simp only [hf] at hr
        cases hr
        exact lastWins_concat h.policy h.errorMode h.input h.config
          (congrArg some (OutputFormat.name_of_ofName? hf)) hverbose
  · cases hr

theorem lastWins_foldlM {more : List Request} (h : LastWins requests flags)
    (hgranted : more.foldlM grant flags = .ok flags') : LastWins (requests ++ more) flags' := by
  induction more generalizing requests flags with
  | nil =>
    cases hgranted
    rwa [List.append_nil]
  | cons r more ih =>
    rw [List.foldlM_cons] at hgranted
    obtain ⟨granted, hr, hgranted⟩ := exists_of_bind_eq_ok hgranted
    rw [← List.singleton_append, ← List.append_assoc]
    exact ih (lastWins_grant h hr) hgranted

theorem lastWins_of_granted (h : requests.foldlM grant {} = .ok flags) :
    LastWins requests flags := lastWins_foldlM lastWins_nil h

/-! ## What flags report -/

theorem policy?_of_lastWins (h : LastWins requests flags) :
    flags.policy? = last Request.policy? requests := by
  have hstrict := h.policy .strict
  have hignore := h.policy .ignore
  have hstop := h.policy .stop
  have hwrap := h.policy .wrap
  simp only [isOn] at hstrict hignore hstop hwrap
  cases hlast : last Request.policy? requests with
  | none =>
    simp only [hlast] at hstrict hignore hstop hwrap
    simp [policy?, hstrict, hignore, hstop, hwrap]
  | some p =>
    simp only [hlast] at hstrict hignore hstop hwrap
    cases p <;> simp [policy?, hstrict, hignore, hstop, hwrap]

theorem errorMode?_of_lastWins (h : LastWins requests flags) :
    flags.errorMode? = last Request.errorMode? requests := by
  have hfailFast := h.errorMode .failFast
  have hcollect := h.errorMode .collect
  simp only [isModeOn] at hfailFast hcollect
  cases hlast : last Request.errorMode? requests with
  | none =>
    simp only [hlast] at hfailFast hcollect
    simp [errorMode?, hfailFast, hcollect]
  | some m =>
    simp only [hlast] at hfailFast hcollect
    cases m <;> simp [errorMode?, hfailFast, hcollect]

/-- Flags are determined by what was said last. -/
theorem eq_of_lastWins (h : LastWins requests flags) (h' : LastWins requests flags') :
    flags = flags' := by
  have hpolicy p : flags.isOn p = flags'.isOn p :=
    Bool.eq_iff_iff.2 ((h.policy p).trans (h'.policy p).symm)
  have hmode m : flags.isModeOn m = flags'.isModeOn m :=
    Bool.eq_iff_iff.2 ((h.errorMode m).trans (h'.errorMode m).symm)
  have hformat : flags.format = flags'.format :=
    (Option.map_inj_right fun _ _ => OutputFormat.name_injective).1
      (h.format.trans h'.format.symm)
  have hverbose : flags.verbose = flags'.verbose :=
    Bool.eq_iff_iff.2 (h.verbose.trans h'.verbose.symm)
  rcases flags with ⟨_, _, _, _, _, _, _, _, _, _⟩
  rcases flags' with ⟨_, _, _, _, _, _, _, _, _, _⟩
  rw [Flags.mk.injEq]
  exact ⟨hpolicy .strict, hpolicy .ignore, hpolicy .stop, hpolicy .wrap, hmode .failFast,
    hmode .collect, h.input.trans h'.input.symm, h.config.trans h'.config.symm, hformat, hverbose⟩

/-! ## Granting in another order -/

/-- A request is refused for what it is, whatever was granted before it. -/
theorem grant_error {fault : UsageFault} (h : flags.grant r = .error fault) (other : Flags) :
    other.grant r = .error fault := by
  rcases r with s | ⟨option, value⟩ | _
  · rcases s with p | m | _ | _
    · cases h
    · cases h
    · cases h
    · exact h
  · replace h : flags.assign option value = .error fault := h
    show other.assign option value = .error fault
    unfold Flags.assign at h ⊢
    split at h
    · rename_i hnil
      rw [if_pos hnil]
      exact h
    · rename_i hne
      rw [if_neg hne]
      rcases option with _ | _ | _
      · cases h
      · cases h
      · cases hf : OutputFormat.ofName? value with
        | none =>
          simp only [hf] at h ⊢
          exact h
        | some format =>
          simp only [hf] at h
          cases h
  · exact h

theorem exists_grant (h : flags.grant r = .ok flags') (other : Flags) :
    ∃ granted, other.grant r = .ok granted := by
  cases hr : other.grant r with
  | ok granted => exact ⟨granted, rfl⟩
  | error fault =>
    rw [grant_error hr flags] at h
    cases h

theorem foldlM_grant_error {fault : UsageFault} (h : requests.foldlM grant flags = .error fault)
    (other : Flags) : requests.foldlM grant other = .error fault := by
  induction requests generalizing flags other with
  | nil => cases h
  | cons r requests ih =>
    rw [List.foldlM_cons] at h ⊢
    rcases error_or_exists_of_bind_eq_error h with hr | ⟨granted, hr, h⟩
    · rw [grant_error hr other]
      rfl
    · obtain ⟨granted', hr'⟩ := exists_grant hr other
      rw [hr']
      exact ih h granted'

theorem exists_foldlM_grant (h : requests.foldlM grant flags = .ok flags') (other : Flags) :
    ∃ granted, requests.foldlM grant other = .ok granted := by
  cases hr : requests.foldlM grant other with
  | ok granted => exact ⟨granted, rfl⟩
  | error fault =>
    rw [foldlM_grant_error hr flags] at h
    cases h

/-- Arguments that are refused are refused behind others as well. -/
theorem ofArguments_append_error {given : List Request} {front arguments : List Text}
    {fault : UsageFault} (hfront : Groups given front) (hgiven : given.foldlM grant {} = .ok flags)
    (h : ofArguments arguments = .error fault) :
    ofArguments (front ++ arguments) = .error fault := by
  rw [ofArguments, foldlM_grant_groups hfront hgiven]
  exact foldlM_grant_error h flags

/-- Arguments that are accepted are accepted behind others as well. -/
theorem exists_ofArguments_append {given : List Request} {front arguments : List Text}
    (hfront : Groups given front) (hgiven : given.foldlM grant {} = .ok flags)
    (hspelled : Spelled requests arguments) (h : requests.foldlM grant {} = .ok flags') :
    ∃ granted, ofArguments (front ++ arguments) = .ok granted ∧
      LastWins (given ++ requests) granted := by
  obtain ⟨granted, hgranted⟩ := exists_foldlM_grant h flags
  have hboth : (given ++ requests).foldlM grant {} = .ok granted := by
    rw [List.foldlM_append, hgiven]
    exact hgranted
  refine ⟨granted, ?_, lastWins_of_granted hboth⟩
  rw [ofArguments, Request.ofArguments_of_spelled (spelled_append hfront hspelled)]
  exact hboth

/-- Two requests in the other order are granted as well. -/
theorem exists_foldlM_grant_exchange {before after : List Request} {x y : Request}
    (h : (before ++ x :: y :: after).foldlM grant flags = .ok flags') :
    ∃ granted, (before ++ y :: x :: after).foldlM grant flags = .ok granted := by
  rw [List.foldlM_append] at h ⊢
  obtain ⟨mid, hbefore, h⟩ := exists_of_bind_eq_ok h
  obtain ⟨mid', hx, h⟩ := exists_of_bind_eq_ok h
  obtain ⟨mid'', hy, h⟩ := exists_of_bind_eq_ok h
  obtain ⟨one, hy⟩ := exists_grant hy mid
  obtain ⟨two, hx⟩ := exists_grant hx one
  obtain ⟨granted, hafter⟩ := exists_foldlM_grant h two
  refine ⟨granted, ?_⟩
  rw [hbefore]
  show (mid.grant y >>= _) = _
  rw [hy]
  show (one.grant x >>= _) = _
  rw [hx]
  exact hafter

theorem topic_of_policy? {p : BoundaryPolicy} (h : r.policy? = some p) : r.topic = .policy := by
  unfold Request.policy? at h
  split at h <;> cases h
  rfl

theorem topic_of_errorMode? {m : ErrorMode} (h : r.errorMode? = some m) : r.topic = .errorMode := by
  unfold Request.errorMode? at h
  split at h <;> cases h
  rfl

theorem topic_of_value? {option : Valued} {value : Text} (h : r.value? option = some value) :
    r.topic = .option option := by
  rw [value?_eq_some_iff.1 h]
  rfl

/-- A kind of things that requests of one topic only say keeps apart two requests of
different topics. -/
theorem none_of_topic_ne {α : Type} {kind : Request → Option α} {topic : Topic} {x y : Request}
    (hkind : ∀ {r a}, kind r = some a → r.topic = topic) (h : x.topic ≠ y.topic) :
    kind x = none ∨ kind y = none := by
  cases hx : kind x with
  | none => exact Or.inl rfl
  | some a =>
    cases hy : kind y with
    | none => exact Or.inr rfl
    | some b => exact absurd ((hkind hx).trans (hkind hy).symm) h

theorem lastWins_exchange {before after : List Request} {x y : Request} (h : x.topic ≠ y.topic)
    (hlast : LastWins (before ++ x :: y :: after) flags) :
    LastWins (before ++ y :: x :: after) flags where
  policy p := by
    rw [← last_exchange (none_of_topic_ne topic_of_policy? h)]
    exact hlast.policy p
  errorMode m := by
    rw [← last_exchange (none_of_topic_ne topic_of_errorMode? h)]
    exact hlast.errorMode m
  input := by
    rw [← last_exchange (none_of_topic_ne topic_of_value? h)]
    exact hlast.input
  config := by
    rw [← last_exchange (none_of_topic_ne topic_of_value? h)]
    exact hlast.config
  format := by
    rw [← last_exchange (none_of_topic_ne topic_of_value? h)]
    exact hlast.format
  verbose := by
    rw [hlast.verbose, ((List.Perm.swap y x after).append_left before).mem_iff]

/-- Requests of different topics, one right behind the other, may change places. -/
theorem ofArguments_exchange {arguments arguments' : List Text} {before after : List Request}
    {x y : Request} (h : ofArguments arguments = .ok flags)
    (hspelled : Spelled (before ++ x :: y :: after) arguments) (htopic : x.topic ≠ y.topic)
    (hspelled' : Spelled (before ++ y :: x :: after) arguments') :
    ofArguments arguments' = .ok flags := by
  rw [ofArguments, Request.ofArguments_of_spelled hspelled] at h
  obtain ⟨flags', h'⟩ := exists_foldlM_grant_exchange h
  have hsame : flags = flags' := eq_of_lastWins (lastWins_exchange htopic (lastWins_of_granted h))
    (lastWins_of_granted h')
  rw [ofArguments, Request.ofArguments_of_spelled hspelled', hsame]
  exact h'

/-- So may the arguments that spell them. -/
theorem ofArguments_exchange_groups {x y : Request} {before group group' after : List Text}
    (h : ofArguments (before ++ group ++ group' ++ after) = .ok flags) (hx : Group [x] group)
    (hy : Group [y] group') (htopic : x.topic ≠ y.topic) :
    ofArguments (before ++ group' ++ group ++ after) = .ok flags := by
  obtain ⟨requests, hspelled, -⟩ := ofArguments_eq_ok_iff.1 h
  rw [List.append_assoc, List.append_assoc] at h hspelled
  obtain ⟨front, back, rfl, hfront, hback⟩ := Request.spelled_append_group hx hspelled
  obtain ⟨rest, rfl, hrest⟩ := Request.spelled_of_group_append hy hback
  rw [List.append_assoc, List.append_assoc]
  exact ofArguments_exchange h hspelled htopic
    (spelled_append hfront (.group hy (.group hx hrest)))

/-- Accepted arguments can be read in one way only, and of each topic the last request
counts.  At most one policy and one error mode are on, none of them only if none is
asked for, and the layer of settings is what was said last.  Where two requests of
different topics stand next to each other, the other order gives the same flags. -/
theorem last_flag_wins {arguments : List Text} {flags : Flags}
    (h : ofArguments arguments = .ok flags) :
    ∃ requests, Spelled requests arguments ∧
      (∀ other, Spelled other arguments → other = requests) ∧
      LastWins requests flags ∧
      (∀ p q, flags.isOn p = true → flags.isOn q = true → p = q) ∧
      ((∀ p, flags.isOn p = false) → ∀ p, .switch (.policy p) ∉ requests) ∧
      (∀ m n, flags.isModeOn m = true → flags.isModeOn n = true → m = n) ∧
      ((∀ m, flags.isModeOn m = false) → ∀ m, .switch (.mode m) ∉ requests) ∧
      flags.layer.policy = last Request.policy? requests ∧
      flags.layer.errorMode = last Request.errorMode? requests ∧
      flags.layer.format.map OutputFormat.name = last (Request.value? .format) requests ∧
      (∀ before x y after arguments', requests = before ++ x :: y :: after →
        x.topic ≠ y.topic → Spelled (before ++ y :: x :: after) arguments' →
        ofArguments arguments' = .ok flags) ∧
      ∀ x y before group group' after, arguments = before ++ group ++ group' ++ after →
        Group [x] group → Group [y] group' → x.topic ≠ y.topic →
        ofArguments (before ++ group' ++ group ++ after) = .ok flags := by
  obtain ⟨requests, hspelled, hgranted⟩ := ofArguments_eq_ok_iff.1 h
  have hlast := lastWins_of_granted hgranted
  refine ⟨requests, hspelled, fun other hother => ?_, hlast, fun p q hp hq => ?_,
    fun hnone p hp => ?_, fun m n hm hn => ?_, fun hnone m hm => ?_, policy?_of_lastWins hlast,
    errorMode?_of_lastWins hlast, hlast.format, ?_, ?_⟩
  · rw [← (Request.spelled_iff.1 hother).1, (Request.spelled_iff.1 hspelled).1]
  · rw [hlast.policy p] at hp
    rw [hlast.policy q, hp] at hq
    exact Option.some.inj hq
  · cases hlast' : last Request.policy? requests with
    | none => cases last_eq_none_iff.1 hlast' _ hp
    | some q =>
      have hq := (hlast.policy q).2 hlast'
      rw [hnone q] at hq
      cases hq
  · rw [hlast.errorMode m] at hm
    rw [hlast.errorMode n, hm] at hn
    exact Option.some.inj hn
  · cases hlast' : last Request.errorMode? requests with
    | none => cases last_eq_none_iff.1 hlast' _ hm
    | some n =>
      have hn := (hlast.errorMode n).2 hlast'
      rw [hnone n] at hn
      cases hn
  · rintro before x y after arguments' rfl htopic hspelled'
    exact ofArguments_exchange h hspelled htopic hspelled'
  · rintro x y before group group' after rfl hx hy htopic
    exact ofArguments_exchange_groups h hx hy htopic

/-- Arguments of every form, with a value that looks like a flag. -/
theorem last_flag_wins_mixed :
    let rest : List Text := ["--collect-errors", "--ignore-oob", "-f", "csv"]
    let flags : Flags :=
      { ignoreOob := true
        collectErrors := true
        input := some "--strict"
        format := some .csv
        verbose := true }
    ofArguments (["-vfjson".toList, "--wrap".toList, "-i=--strict".toList] ++ rest) = .ok flags ∧
      (∃ requests, Spelled requests
          (["-vfjson".toList, "--wrap".toList, "-i=--strict".toList] ++ rest) ∧
        last Request.policy? requests = some .ignore ∧
        last (Request.value? .input) requests = some "--strict".toList) ∧
      ofArguments (["-vfjson".toList, "-i=--strict".toList, "--wrap".toList] ++ rest) =
        .ok flags := by
  intro rest flags
  have h : ofArguments (["-vfjson".toList, "--wrap".toList, "-i=--strict".toList] ++ rest) =
      .ok flags := rfl
  obtain ⟨requests, hspelled, -, hlast, -, -, -, -, hpolicy, -, -, -, hexchange⟩ := last_flag_wins h
  have hwrap : Group [.switch (.policy .wrap)] ["--wrap"] := .single (.switch _)
  have hinput : Group [.assign .input "--strict"] ["-i=--strict"] :=
    .single (.letters (by decide) (.equals .input _))
  exact ⟨h, ⟨requests, hspelled, hpolicy.symm, hlast.input.symm⟩,
    hexchange _ _ ["-vfjson"] _ _ rest rfl hwrap hinput (by decide)⟩

example : ofArguments ["-i=--wrap"] = .ok { input := some "--wrap" } := rfl

end Flags
end RoverMission

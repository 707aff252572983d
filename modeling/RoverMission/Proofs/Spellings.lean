/-
Spellings of requests.

Arguments may ask for the same thing in several ways: a switch by its long name or
as a letter among others, and the value of an option behind an equals sign, right
behind its letter or as the next argument.  `Spelled` lists these ways without
reading anything.  The reader knows all of them and no others (`spelled_iff`), so
arguments ask for one thing at most, and a value is nothing but a value.
-/
import RoverMission.Proofs.Reading
import RoverMission.Flags.Reader

namespace RoverMission

/-! ## Names -/

/-- What is found by its name has that name. -/
theorem name_of_find? {α : Type} {all : List α} {name : α → Text} {t : Text} {a : α}
    (h : all.find? (name · == t) = some a) : name a = t := by
  simpa using List.find?_some h

theorem BoundaryPolicy.name_of_ofName? {t : Text} {policy : BoundaryPolicy}
    (h : ofName? t = some policy) : policy.name = t := name_of_find? h

theorem ErrorMode.name_of_ofName? {t : Text} {mode : ErrorMode} (h : ofName? t = some mode) :
    mode.name = t := name_of_find? h

theorem OutputFormat.name_of_ofName? {t : Text} {format : OutputFormat}
    (h : ofName? t = some format) : format.name = t := name_of_find? h

namespace Switch

def name : Switch → Text
  | policy p => p.name
  | mode m => m.name
  | verbose => "verbose"
  | help => "help"

/-- The letters of the switches that have one. -/
def letter? : Switch → Option Char
  | policy _ | mode _ => none
  | verbose => some 'v'
  | help => some 'h'

theorem ofName?_name (s : Switch) : ofName? s.name = some s := by
  rcases s with p | m | _ | _
  · cases p <;> decide
  · cases m <;> decide
  · decide
  · decide

theorem name_of_ofName? {t : Text} {s : Switch} (h : ofName? t = some s) : s.name = t := by
  unfold ofName? at h
  split at h
  · rename_i ht
    cases h
    exact ht.symm
  split at h
  · rename_i ht
    cases h
    exact ht.symm
  split at h
  · rename_i p hp
    cases h
    exact BoundaryPolicy.name_of_ofName? hp
  · rename_i m _ hm
    cases h
    exact ErrorMode.name_of_ofName? hm
  · cases h

theorem ofLetter?_eq_some_iff {c : Char} {s : Switch} :
    ofLetter? c = some s ↔ s.letter? = some c := by
  constructor
  · intro h
    unfold ofLetter? at h
    split at h <;> cases h <;> rfl
  · intro h
    cases s <;> cases h <;> rfl

theorem equals_not_mem_name (s : Switch) : '=' ∉ s.name := by
  rcases s with p | m | _ | _
  · cases p <;> decide
  · cases m <;> decide
  · decide
  · decide

end Switch

namespace Valued

def name : Valued → Text
  | input => "input"
  | config => "config"
  | format => "format"

def letter : Valued → Char
  | input => 'i'
  | config => 'c'
  | format => 'f'

theorem ofName?_name (option : Valued) : ofName? option.name = some option := by
  cases option <;> decide

theorem name_of_ofName? {t : Text} {option : Valued} (h : ofName? t = some option) :
    option.name = t := by
  unfold ofName? at h
  split at h
  · rename_i ht
    cases h
    exact ht.symm
  split at h
  · rename_i ht
    cases h
    exact ht.symm
  split at h
  · rename_i ht
    cases h
    exact ht.symm
  · cases h

theorem ofLetter?_eq_some_iff {c : Char} {option : Valued} :
    ofLetter? c = some option ↔ option.letter = c := by
  constructor
  · intro h
    unfold ofLetter? at h
    split at h <;> cases h <;> rfl
  · rintro rfl
    cases option <;> rfl

theorem equals_not_mem_name (option : Valued) : '=' ∉ option.name := by
  cases option <;> decide

theorem switch_ofName?_name (option : Valued) : Switch.ofName? option.name = none := by
  cases option <;> decide

theorem switch_ofLetter?_letter (option : Valued) : Switch.ofLetter? option.letter = none := by
  cases option <;> rfl

end Valued

/-! ## Spellings -/

namespace Flags

/-- A text that is an argument without beginning like one that names something. -/
def IsPlain (argument : Text) : Prop := argument = ['-'] ∨ argument.head? ≠ some '-'

instance (argument : Text) : Decidable (IsPlain argument) :=
  inferInstanceAs (Decidable (_ ∨ _))

/-- What letters behind a dash ask for, and the option that still has no value at
the end of them. -/
inductive Cluster : List Request → Option Valued → Text → Prop
  | nil : Cluster [] none []
  | switch {s : Switch} {c : Char} {requests : List Request} {left : Option Valued}
    {letters : Text} (hs : s.letter? = some c) (h : Cluster requests left letters) :
    Cluster (.switch s :: requests) left (c :: letters)
  | option (option : Valued) : Cluster [] (some option) [option.letter]
  | equals (option : Valued) (value : Text) :
    Cluster [.assign option value] none (option.letter :: '=' :: value)
  | attached (option : Valued) {value : Text} (hne : value ≠ [])
    (heq : value.head? ≠ some '=') : Cluster [.assign option value] none (option.letter :: value)

/-- What an argument asks for that is not plain, and the option that still has no
value at its end. -/
inductive Argument : List Request → Option Valued → Text → Prop
  | switch (s : Switch) : Argument [.switch s] none ('-' :: '-' :: s.name)
  | option (option : Valued) : Argument [] (some option) ('-' :: '-' :: option.name)
  | equals (option : Valued) (value : Text) :
    Argument [.assign option value] none ('-' :: '-' :: (option.name ++ '=' :: value))
  | letters {requests : List Request} {left : Option Valued} {letters : Text}
    (hne : letters ≠ []) (h : Cluster requests left letters) :
    Argument requests left ('-' :: letters)

/-- Complete arguments: one that leaves nothing open, or one and the value that it
leaves open. -/
inductive Group : List Request → List Text → Prop
  | single {requests : List Request} {argument : Text} (h : Argument requests none argument) :
    Group requests [argument]
  | pair {requests : List Request} {option : Valued} {argument value : Text}
    (h : Argument requests (some option) argument) (hvalue : IsPlain value) :
    Group (requests ++ [.assign option value]) [argument, value]

/-- Groups one behind the other. -/
inductive Groups : List Request → List Text → Prop
  | nil : Groups [] []
  | cons {first requests : List Request} {group arguments : List Text} (h : Group first group)
    (hrest : Groups requests arguments) : Groups (first ++ requests) (group ++ arguments)

/-- What arguments ask for; two dashes may stand behind them. -/
inductive Spelled : List Request → List Text → Prop
  | nil : Spelled [] []
  | dashes : Spelled [] [['-', '-']]
  | group {first requests : List Request} {group arguments : List Text} (h : Group first group)
    (hrest : Spelled requests arguments) : Spelled (first ++ requests) (group ++ arguments)

theorem groups_singleton {requests : List Request} {group : List Text} (h : Group requests group) :
    Groups requests group := by
  have hgroups := Groups.cons h .nil
  rwa [List.append_nil, List.append_nil] at hgroups

theorem groups_append {first second : List Request} {arguments arguments' : List Text}
    (h : Groups first arguments) (h' : Groups second arguments') :
    Groups (first ++ second) (arguments ++ arguments') := by
  induction h with
  | nil => exact h'
  | cons hgroup _ ih =>
    rw [List.append_assoc, List.append_assoc]
    exact .cons hgroup ih

theorem spelled_append {first second : List Request} {arguments arguments' : List Text}
    (h : Groups first arguments) (h' : Spelled second arguments') :
    Spelled (first ++ second) (arguments ++ arguments') := by
  induction h with
  | nil => exact h'
  | cons hgroup _ ih =>
    rw [List.append_assoc, List.append_assoc]
    exact .group hgroup ih

/-- An argument that is not plain begins with two dashes, or with one and a letter. -/
theorem dashed_of_not_isPlain {argument : Text} (h : ¬ IsPlain argument) :
    (∃ t, argument = '-' :: '-' :: t) ∨ ∃ c t, c ≠ '-' ∧ argument = '-' :: c :: t := by
  rw [IsPlain, not_or, Decidable.not_not] at h
  rcases argument with _ | ⟨d, t⟩
  · cases h.2
  obtain rfl : d = '-' := by simpa using h.2
  rcases t with _ | ⟨c, t⟩
  · exact absurd rfl h.1
  by_cases hc : c = '-'
  · exact Or.inl ⟨t, by rw [hc]⟩
  · exact Or.inr ⟨c, t, hc, rfl⟩

/-! ## Reading one argument -/

namespace Request

variable {awaited : Awaited} {requests : List Request} {left : Option Valued}

theorem ofArgument_short {c : Char} (hc : c ≠ '-') (t : Text) :
    ofArgument awaited ('-' :: c :: t) = ofShort awaited (c :: t) := by
  rw [ofArgument]
  exact hc

/-- A name ends at the first equals sign behind it. -/
theorem ofShort_switch {c : Char} {s : Switch} (hs : s.letter? = some c) (rest : Text) :
    ofShort awaited (c :: rest) =
      (settle awaited ++ switch s :: (ofShort none rest).1, (ofShort none rest).2) := by
  rw [ofShort, Switch.ofLetter?_eq_some_iff.2 hs]

theorem ofShort_attached (option : Valued) {value : Text} (hne : value ≠ [])
    (heq : value.head? ≠ some '=') :
    ofShort awaited (option.letter :: value) = (settle awaited ++ [assign option value], none) := by
  rw [ofShort]
  simp only [option.switch_ofLetter?_letter, Valued.ofLetter?_eq_some_iff.2 (Eq.refl option.letter)]
  split
  · exact absurd rfl hne
  · exact absurd rfl heq
  · rfl

theorem ofShort_of_cluster {letters : Text} (h : Cluster requests left letters)
    (hne : letters = [] → awaited = none) :
    ofShort awaited letters = (settle awaited ++ requests, left.map (·, none)) := by
  induction h generalizing awaited with
  | nil =>
    rw [hne rfl]
    rfl
  | switch hs h ih => rw [ofShort_switch hs, ih fun _ => rfl]; rfl
  | option option => cases option <;> rw [List.append_nil] <;> rfl
  | equals option value => cases option <;> rfl
  | attached option hvalue heq => exact ofShort_attached option hvalue heq

theorem dash_ne_of_cluster {c : Char} {letters : Text} (h : Cluster requests left (c :: letters)) :
    c ≠ '-' := by
  cases h with
  | @switch s _ _ _ _ hs _ =>
    rintro rfl
    cases s <;> cases hs
  | option option => cases option <;> decide
  | equals option value => cases option <;> decide
  | attached option _ _ => cases option <;> decide

theorem ofArgument_of_argument {argument : Text} (h : Argument requests left argument) :
    ofArgument awaited argument = (settle awaited ++ requests, left.map (·, none)) := by
  cases h with
  | switch s =>
    have hrun := Text.run_of_not_mem s.equals_not_mem_name
    simp only [ofArgument, ofLong, hrun, s.ofName?_name]
    rfl
  | option option =>
    have hrun := Text.run_of_not_mem option.equals_not_mem_name
    simp only [ofArgument, ofLong, hrun, option.switch_ofName?_name, option.ofName?_name,
      List.append_nil]
    rfl
  | equals option value =>
    have hrun : Text.run (· != '=') (option.name ++ '=' :: value) = (option.name, '=' :: value) :=
      Text.run_until option.equals_not_mem_name fun c hc => (Option.some.inj hc).symm
    simp only [ofArgument, ofLong, hrun, option.switch_ofName?_name, option.ofName?_name]
    rfl
  | letters hne hcluster =>
    obtain ⟨c, rest, rfl⟩ := List.exists_cons_of_ne_nil hne
    rw [ofArgument_short (dash_ne_of_cluster hcluster)]
    exact ofShort_of_cluster hcluster fun h => absurd h hne

/-! ## Letters and names that are known -/

theorem exists_cluster {letters : Text}
    (h : ∀ fault, refuse fault ∉ (ofShort awaited letters).1) :
    ∃ requests left, Cluster requests left letters := by
  induction letters generalizing awaited with
  | nil => exact ⟨[], none, .nil⟩
  | cons c letters ih =>
    rw [ofShort] at h
    cases hs : Switch.ofLetter? c with
    | some s =>
      rw [hs] at h
      obtain ⟨requests, left, hcluster⟩ := ih fun fault hf =>
        h fault (List.mem_append_right _ (List.mem_cons_of_mem _ hf))
      exact ⟨_, _, .switch (Switch.ofLetter?_eq_some_iff.1 hs) hcluster⟩
    | none =>
      cases ho : Valued.ofLetter? c with
      | none =>
        simp only [hs, ho] at h
        exact absurd (List.mem_singleton.2 rfl) (h .unknownArgument)
      | some option =>
        obtain rfl := Valued.ofLetter?_eq_some_iff.1 ho
        rcases letters with _ | ⟨d, value⟩
        · exact ⟨_, _, .option option⟩
        · by_cases hd : d = '='
          · subst hd
            exact ⟨_, _, .equals option value⟩
          · exact ⟨_, _, .attached option (List.cons_ne_nil d value) (by simpa using hd)⟩

/-- What follows a name that is cut off begins with an equals sign. -/
theorem eq_of_run {t name rest : Text} (h : Text.run (· != '=') t = (name, rest)) :
    t = name ++ rest ∧ (rest = [] ∨ ∃ value, rest = '=' :: value) := by
  have htake : t.takeWhile (· != '=') = name := congrArg Prod.fst h
  have hdrop : t.dropWhile (· != '=') = rest := congrArg Prod.snd h
  refine ⟨by rw [← htake, ← hdrop, List.takeWhile_append_dropWhile], ?_⟩
  rcases rest with _ | ⟨c, value⟩
  · exact Or.inl rfl
  · have hc := List.head?_dropWhile_not (· != '=') t
    rw [hdrop] at hc
    obtain rfl : c = '=' := by simpa using hc
    exact Or.inr ⟨value, rfl⟩

theorem exists_argument_of_long {t : Text}
    (h : ∀ fault, refuse fault ∉ (ofLong awaited t).1) :
    ∃ requests left, Argument requests left ('-' :: '-' :: t) := by
  rcases hrun : Text.run (· != '=') t with ⟨name, rest⟩
  obtain ⟨rfl, hrest⟩ := eq_of_run hrun
  rw [ofLong, hrun] at h
  cases hs : Switch.ofName? name with
  | some s =>
    obtain rfl := Switch.name_of_ofName? hs
    rcases hrest with rfl | ⟨value, rfl⟩
    · rw [List.append_nil]
      exact ⟨_, _, .switch s⟩
    · simp only [hs] at h
      exact absurd (List.mem_singleton.2 rfl) (h .tooManyValues)
  | none =>
    cases ho : Valued.ofName? name with
    | some option =>
      obtain rfl := Valued.name_of_ofName? ho
      rcases hrest with rfl | ⟨value, rfl⟩
      · rw [List.append_nil]
        exact ⟨_, _, .option option⟩
      · exact ⟨_, _, .equals option value⟩
    | none =>
      simp only [hs, ho] at h
      exact absurd (List.mem_singleton.2 rfl) (h .unknownArgument)

theorem exists_argument {argument : Text} (hplain : ¬ IsPlain argument)
    (h : ∀ fault, refuse fault ∉ (ofArgument awaited argument).1) :
    ∃ requests left, Argument requests left argument := by
  rcases dashed_of_not_isPlain hplain with ⟨t, rfl⟩ | ⟨c, t, hc, rfl⟩
  · exact exists_argument_of_long h
  · rw [ofArgument_short hc] at h
    obtain ⟨requests, left, hcluster⟩ := exists_cluster h
    exact ⟨requests, left, .letters (List.cons_ne_nil c t) hcluster⟩

theorem ofArgument_plain {argument : Text} (h : IsPlain argument) :
    ofArgument awaited argument = ofValue awaited argument := by
  rcases h with rfl | h
  · rfl
  · rcases argument with _ | ⟨c, t⟩
    · rfl
    · have hc : c ≠ '-' := by simpa using h
      rw [ofArgument]
      · exact fun _ he => hc (List.cons.inj he).1
      · exact fun _ _ he => hc (List.cons.inj he).1

/-! ## Reading arguments -/

theorem ne_dashes_of_argument {argument : Text} (h : Argument requests left argument) :
    argument ≠ ['-', '-'] := by
  cases h with
  | switch s =>
    rcases s with p | m | _ | _
    · cases p <;> decide
    · cases m <;> decide
    · decide
    · decide
  | option option => cases option <;> decide
  | equals option value =>
    intro he
    have hnil : option.name ++ '=' :: value = [] := (List.cons.inj (List.cons.inj he).2).2
    exact List.cons_ne_nil _ _ (List.append_eq_nil_iff.1 hnil).2
  | letters hne hcluster =>
    rintro he
    cases he
    exact dash_ne_of_cluster hcluster rfl

theorem ne_dashes_of_isPlain {argument : Text} (h : IsPlain argument) : argument ≠ ['-', '-'] := by
  rintro rfl
  revert h
  decide

theorem ofArguments_cons {argument : Text} (h : argument ≠ ['-', '-']) (arguments : List Text) :
    ofArguments awaited (argument :: arguments) =
      (ofArgument awaited argument).1 ++ ofArguments (ofArgument awaited argument).2 arguments := by
  rw [ofArguments]
  · exact fun hd => absurd hd h
  · exact h

/-- An argument that leaves an option open, and its value. -/
theorem ofArguments_pair {option : Valued} {argument value : Text}
    (h : Argument requests (some option) argument) (hvalue : IsPlain value)
    (arguments : List Text) :
    ofArguments awaited (argument :: value :: arguments) =
      settle awaited ++ requests ++ ofArguments (some (option, some value)) arguments := by
  rw [ofArguments_cons (ne_dashes_of_argument h), ofArgument_of_argument h,
    ofArguments_cons (ne_dashes_of_isPlain hvalue), ofArgument_plain hvalue]
  rfl

theorem ofArguments_dashes (arguments : List Text) :
    ofArguments awaited (['-', '-'] :: arguments) =
      if arguments = [] then settle awaited else [refuse .unknownArgument] := by
  cases arguments <;> rfl

theorem ofArguments_of_spelled {arguments : List Text} (h : Spelled requests arguments) :
    ofArguments awaited arguments = settle awaited ++ requests := by
  induction h generalizing awaited with
  | nil => exact (List.append_nil _).symm
  | dashes => exact (List.append_nil _).symm
  | group hgroup hrest ih =>
    cases hgroup with
    | single h =>
      rw [List.singleton_append, ofArguments_cons (ne_dashes_of_argument h),
        ofArgument_of_argument h, ← List.append_assoc]
      exact congrArg _ ih
    | pair h hvalue =>
      rw [List.cons_append, List.singleton_append, ofArguments_pair h hvalue, ih]
      simp only [List.append_assoc]
      rfl

/-- What has to stand in front of spelled arguments so that nothing is left open. -/
inductive Closes : Awaited → List Text → Prop
  | none : Closes none []
  | value (option : Valued) (value : Text) : Closes (some (option, some value)) []
  | pending (option : Valued) {value : Text} (h : IsPlain value) :
    Closes (some (option, none)) [value]

theorem closes_of_settle (h : ∀ fault, refuse fault ∉ settle awaited) : Closes awaited [] := by
  rcases awaited with _ | ⟨option, _ | value⟩
  · exact .none
  · exact absurd (List.mem_singleton.2 rfl) (h .invalidValue)
  · exact .value option value

/-- Arguments of which none is refused are spelled, up to a value that was left open
in front of them. -/
theorem exists_spelled {arguments : List Text}
    (h : ∀ fault, refuse fault ∉ ofArguments awaited arguments) :
    ∃ values rest requests, arguments = values ++ rest ∧ Closes awaited values ∧
      Spelled requests rest := by
  induction arguments generalizing awaited with
  | nil => exact ⟨[], [], [], rfl, closes_of_settle h, .nil⟩
  | cons argument arguments ih =>
    by_cases hd : argument = ['-', '-']
    · subst hd
      rw [ofArguments_dashes] at h
      split at h
      · rename_i hlast
        subst hlast
        exact ⟨[], _, [], rfl, closes_of_settle h, .dashes⟩
      · exact absurd (List.mem_singleton.2 rfl) (h .unknownArgument)
    rw [ofArguments_cons hd] at h
    have hfirst := fun fault hf => h fault (List.mem_append_left _ hf)
    obtain ⟨values, rest, requests, rfl, hcloses, hrest⟩ := ih fun fault hf =>
      h fault (List.mem_append_right _ hf)
    by_cases hplain : IsPlain argument
    · -- Only an option that is left open takes a plain argument.
      rw [ofArgument_plain hplain] at hfirst hcloses
      rcases awaited with _ | ⟨option, _ | value⟩
      · exact absurd (List.mem_singleton.2 rfl) (hfirst .unknownArgument)
      · cases hcloses
        exact ⟨[argument], rest, requests, rfl, .pending option hplain, hrest⟩
      · exact absurd (List.mem_singleton.2 rfl) (hfirst .unknownArgument)
    · obtain ⟨first, left, harg⟩ := exists_argument hplain hfirst
      rw [ofArgument_of_argument harg] at hfirst hcloses
      have hnone := closes_of_settle fun fault hf => hfirst fault (List.mem_append_left _ hf)
      rcases left with _ | option
      · cases hcloses
        exact ⟨[], _, _, rfl, hnone, .group (.single harg) hrest⟩
      · cases hcloses with
        | pending _ hvalue => exact ⟨[], _, _, rfl, hnone, .group (.pair harg hvalue) hrest⟩

theorem refuse_not_mem_of_cluster {letters : Text} (h : Cluster requests left letters)
    (fault : UsageFault) : refuse fault ∉ requests := by
  induction h with
  | nil => exact List.not_mem_nil
  | switch _ _ ih => simpa using ih
  | option option => exact List.not_mem_nil
  | equals option value => simp
  | attached option _ _ => simp

theorem refuse_not_mem_of_argument {argument : Text} (h : Argument requests left argument)
    (fault : UsageFault) : refuse fault ∉ requests := by
  cases h with
  | switch s => simp
  | option option => exact List.not_mem_nil
  | equals option value => simp
  | letters _ hcluster => exact refuse_not_mem_of_cluster hcluster fault

theorem refuse_not_mem_of_group {arguments : List Text} (h : Group requests arguments)
    (fault : UsageFault) : refuse fault ∉ requests := by
  cases h with
  | single h => exact refuse_not_mem_of_argument h fault
  | pair h _ => simpa using refuse_not_mem_of_argument h fault

theorem refuse_not_mem_of_spelled {arguments : List Text} (h : Spelled requests arguments)
    (fault : UsageFault) : refuse fault ∉ requests := by
  induction h with
  | nil => exact List.not_mem_nil
  | dashes => exact List.not_mem_nil
  | group hgroup _ ih =>
    rw [List.mem_append, not_or]
    exact ⟨refuse_not_mem_of_group hgroup fault, ih⟩

/-- Arguments spell exactly what is read from them, provided that nothing is refused. -/
theorem spelled_iff {arguments : List Text} :
    Spelled requests arguments ↔
      ofArguments none arguments = requests ∧ ∀ fault, refuse fault ∉ requests := by
  constructor
  · intro h
    exact ⟨ofArguments_of_spelled h, refuse_not_mem_of_spelled h⟩
  · rintro ⟨rfl, hrefuse⟩
    obtain ⟨values, rest, requests, rfl, hcloses, hrest⟩ := exists_spelled hrefuse
    cases hcloses
    rw [List.nil_append, ofArguments_of_spelled hrest]
    exact hrest

/-! ## Arguments behind a value -/

/-- What an argument does to an option in front of it: it is refused at once, or it
settles the option before anything else. -/
theorem ofLong_awaited (t : Text) :
    (∃ fault, ∀ awaited, ofLong awaited t = ([refuse fault], none)) ∨
      ∀ awaited, ofLong awaited t = (settle awaited ++ (ofLong none t).1, (ofLong none t).2) := by
  rcases hrun : Text.run (· != '=') t with ⟨name, rest⟩
  simp only [ofLong, hrun]
  cases Switch.ofName? name with
  | some s =>
    rcases rest with _ | ⟨c, value⟩
    · exact Or.inr fun awaited => rfl
    · exact Or.inl ⟨.tooManyValues, fun awaited => rfl⟩
  | none =>
    cases Valued.ofName? name with
    | some option =>
      rcases rest with _ | ⟨c, value⟩
      · exact Or.inr fun awaited => by simp [settle]
      · exact Or.inr fun awaited => rfl
    | none => exact Or.inl ⟨.unknownArgument, fun awaited => rfl⟩

theorem ofShort_awaited (c : Char) (rest : Text) :
    (∃ fault, ∀ awaited, ofShort awaited (c :: rest) = ([refuse fault], none)) ∨
      ∀ awaited, ofShort awaited (c :: rest) =
        (settle awaited ++ (ofShort none (c :: rest)).1, (ofShort none (c :: rest)).2) := by
  simp only [ofShort]
  cases Switch.ofLetter? c with
  | some s => exact Or.inr fun awaited => rfl
  | none =>
    cases Valued.ofLetter? c with
    | some option =>
      refine Or.inr fun awaited => ?_
      simp only
      split
      · simp [settle]
      · rfl
      · rfl
    | none => exact Or.inl ⟨.unknownArgument, fun awaited => rfl⟩

theorem ofArgument_awaited {argument : Text} (hplain : ¬ IsPlain argument) :
    (∃ fault, ∀ awaited, ofArgument awaited argument = ([refuse fault], none)) ∨
      ∀ awaited, ofArgument awaited argument =
        (settle awaited ++ (ofArgument none argument).1, (ofArgument none argument).2) := by
  rcases dashed_of_not_isPlain hplain with ⟨t, rfl⟩ | ⟨c, t, hc, rfl⟩
  · exact ofLong_awaited t
  · simp only [ofArgument_short hc]
    exact ofShort_awaited c t

/-! ## Complete arguments among others -/

theorem not_isPlain_of_argument {argument : Text} (h : Argument requests left argument) :
    ¬ IsPlain argument := by
  rintro (rfl | hhead)
  · cases h with
    | letters hne _ => exact hne rfl
  · cases h <;> exact hhead rfl

theorem exists_cons_of_group {group : List Text} (h : Group requests group) :
    ∃ argument rest, group = argument :: rest ∧ ∃ first left, Argument first left argument := by
  cases h with
  | single h => exact ⟨_, _, rfl, _, _, h⟩
  | pair h _ => exact ⟨_, _, rfl, _, _, h⟩

theorem spelled_of_group_append {first : List Request} {group arguments : List Text}
    (hgroup : Group first group) (h : Spelled requests (group ++ arguments)) :
    ∃ rest, requests = first ++ rest ∧ Spelled rest arguments := by
  obtain ⟨hread, hrefuse⟩ := spelled_iff.1 h
  cases hgroup with
  | single harg =>
    rw [List.singleton_append, ofArguments_cons (ne_dashes_of_argument harg),
      ofArgument_of_argument harg] at hread
    subst hread
    exact ⟨_, rfl, spelled_iff.2 ⟨rfl, fun fault hf => hrefuse fault (List.mem_append_right _ hf)⟩⟩
  | pair harg hvalue =>
    rw [List.cons_append, List.singleton_append, ofArguments_pair harg hvalue] at hread
    subst hread
    obtain ⟨values, arguments, rest, rfl, hcloses, hrest⟩ := exists_spelled fun fault hf =>
      hrefuse fault (List.mem_append_right _ hf)
    cases hcloses
    refine ⟨rest, ?_, hrest⟩
    rw [List.nil_append, ofArguments_of_spelled hrest, ← List.append_assoc]
    rfl

/-- Complete arguments cut a command line in two. -/
theorem spelled_append_group {first : List Request} {before group after : List Text}
    (hgroup : Group first group) (h : Spelled requests (before ++ (group ++ after))) :
    ∃ front back, requests = front ++ (first ++ back) ∧ Groups front before ∧
      Spelled back after := by
  obtain ⟨argument, rest, hhead, _, _, harg⟩ := exists_cons_of_group hgroup
  generalize hall : before ++ (group ++ after) = arguments at h
  induction h generalizing before with
  | nil => simp [hhead] at hall
  | dashes =>
    rcases before with _ | ⟨a, before⟩
    · rw [hhead] at hall
      exact absurd (List.cons.inj hall).1 (ne_dashes_of_argument harg)
    · simp [hhead] at hall
  | @group first' requests' group' arguments' hgroup' hrest ih =>
    rcases before with _ | ⟨a, before⟩
    · have hspelled := Spelled.group hgroup' hrest
      rw [← hall] at hspelled
      obtain ⟨back, heq, hback⟩ := spelled_of_group_append hgroup hspelled
      exact ⟨[], back, heq, .nil, hback⟩
    cases hgroup' with
    | @single _ argument' harg' =>
      obtain ⟨rfl, htail⟩ := List.cons.inj hall
      obtain ⟨front, back, rfl, hfront, hback⟩ := ih htail
      exact ⟨first' ++ front, back, (List.append_assoc _ _ _).symm, .cons (.single harg') hfront,
        hback⟩
    | @pair firsts option argument' value harg' hvalue =>
      obtain ⟨rfl, htail⟩ := List.cons.inj hall
      rcases before with _ | ⟨b, before⟩
      · rw [hhead] at htail
        obtain ⟨rfl, -⟩ := List.cons.inj htail
        exact absurd hvalue (not_isPlain_of_argument harg)
      · obtain ⟨rfl, hrest⟩ := List.cons.inj htail
        obtain ⟨front, back, rfl, hfront, hback⟩ := ih hrest
        exact ⟨firsts ++ [assign option b] ++ front, back, (List.append_assoc _ _ _).symm,
          .cons (.pair harg' hvalue) hfront, hback⟩

end Request

/-! ## Granting -/

theorem refuse_not_mem_of_granted {flags flags' : Flags} {requests : List Request}
    (h : requests.foldlM grant flags = .ok flags') (fault : UsageFault) :
    .refuse fault ∉ requests := by
  induction requests generalizing flags with
  | nil => exact List.not_mem_nil
  | cons r requests ih =>
    rw [List.foldlM_cons] at h
    obtain ⟨granted, hr, h⟩ := exists_of_bind_eq_ok h
    rw [List.mem_cons, not_or]
    refine ⟨?_, ih h⟩
    rintro rfl
    cases hr

/-- Arguments are accepted if they spell requests that are all granted. -/
theorem ofArguments_eq_ok_iff {arguments : List Text} {flags : Flags} :
    ofArguments arguments = .ok flags ↔
      ∃ requests, Spelled requests arguments ∧ requests.foldlM grant {} = .ok flags := by
  constructor
  · intro h
    exact ⟨_, Request.spelled_iff.2 ⟨rfl, refuse_not_mem_of_granted h⟩, h⟩
  · rintro ⟨requests, hspelled, h⟩
    rw [ofArguments, Request.ofArguments_of_spelled hspelled]
    exact h

/-- An option with a value that is accepted is granted before the arguments behind
it, or they are refused at once. -/
theorem foldlM_grant_awaited {flags flags' : Flags} {option : Valued} {value : Text}
    (h : flags.assign option value = .ok flags') (arguments : List Text) :
    (Request.ofArguments (some (option, some value)) arguments).foldlM grant flags =
      (Request.ofArguments none arguments).foldlM grant flags' := by
  have hsettled : ∀ requests,
      (Request.settle (some (option, some value)) ++ requests).foldlM grant flags =
        requests.foldlM grant flags' := fun requests => by
    show (flags.assign option value >>= _) = _
    rw [h]
    rfl
  rcases arguments with _ | ⟨argument, arguments⟩
  · exact hsettled []
  by_cases hd : argument = ['-', '-']
  · subst hd
    rw [Request.ofArguments_dashes, Request.ofArguments_dashes]
    split
    · exact hsettled []
    · rfl
  rw [Request.ofArguments_cons hd, Request.ofArguments_cons hd]
  by_cases hplain : IsPlain argument
  · rw [Request.ofArgument_plain hplain, Request.ofArgument_plain hplain]
    rfl
  rcases Request.ofArgument_awaited hplain with ⟨fault, hrefused⟩ | hread
  · rw [hrefused, hrefused]
    rfl
  · rw [hread, List.append_assoc]
    exact hsettled _

/-- Complete arguments are granted before the arguments behind them. -/
theorem foldlM_grant_group {flags flags' : Flags} {requests : List Request} {group : List Text}
    (h : Group requests group) (hgranted : requests.foldlM grant flags = .ok flags')
    (arguments : List Text) :
    (Request.ofArguments none (group ++ arguments)).foldlM grant flags =
      (Request.ofArguments none arguments).foldlM grant flags' := by
  cases h with
  | single h =>
    rw [List.singleton_append, Request.ofArguments_cons (Request.ne_dashes_of_argument h),
      Request.ofArgument_of_argument h]
    show (requests ++ Request.ofArguments none arguments).foldlM grant flags = _
    rw [List.foldlM_append, hgranted]
    rfl
  | pair h hvalue =>
    rw [List.foldlM_append] at hgranted
    obtain ⟨mid, hmid, hassign⟩ := exists_of_bind_eq_ok hgranted
    obtain ⟨mid', hassign, hpure⟩ := exists_of_bind_eq_ok hassign
    cases hpure
    rw [List.cons_append, List.singleton_append, Request.ofArguments_pair h hvalue]
    rw [Request.settle, List.nil_append, List.foldlM_append, hmid]
    exact foldlM_grant_awaited hassign arguments

theorem foldlM_grant_groups {flags flags' : Flags} {requests : List Request} {front : List Text}
    (h : Groups requests front) (hgranted : requests.foldlM grant flags = .ok flags')
    (arguments : List Text) :
    (Request.ofArguments none (front ++ arguments)).foldlM grant flags =
      (Request.ofArguments none arguments).foldlM grant flags' := by
  induction h generalizing flags with
  | nil =>
    cases hgranted
    rfl
  | cons hgroup _ ih =>
    rw [List.foldlM_append] at hgranted
    obtain ⟨mid, hmid, hgranted⟩ := exists_of_bind_eq_ok hgranted
    rw [List.append_assoc, foldlM_grant_group hgroup hmid, ih hgranted]

end Flags
end RoverMission

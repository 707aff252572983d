/-
What the operator reads of a configuration.

The fault of a setting quotes the value and the fault of a file its path, both as they are.
So the operator reads as many lines as what is quoted has: one, unless it has a line feed.
A setting can have any value, from a variable if not from the file itself.
-/
import RoverMission.Proofs.ConfigFiles
import RoverMission.Proofs.Logging

namespace RoverMission

/-! ## Counting lines -/

namespace Text

theorem length_extendFirst {c : Char} {pieces : List Text} (h : pieces ≠ []) :
    (extendFirst c pieces).length = pieces.length := by
  cases pieces with
  | nil => exact absurd rfl h
  | cons piece pieces => rfl

theorem length_lines (t : Text) : (lines t).length = t.count '\n' + 1 := by
  induction t with
  | nil => rfl
  | cons c t ih =>
    show (cut _ (c :: t)).length = _
    rw [cut_cons, List.count_cons]
    split
    · rw [List.length_cons]
      exact congrArg (· + 1) ih
    · rw [length_extendFirst (cut_ne_nil _ t)]
      exact ih

/-- Wording without a line feed adds no line in front of a text. -/
theorem length_lines_wording_append {wording : Text} (h : '\n' ∉ wording) (t : Text) :
    (lines (wording ++ t)).length = (lines t).length := by
  rw [length_lines, length_lines, List.count_append, List.count_eq_zero_of_not_mem h, Nat.zero_add]

/-- Nor does it behind a text. -/
theorem length_lines_append_wording {wording : Text} (h : '\n' ∉ wording) (t : Text) :
    (lines (t ++ wording)).length = (lines t).length := by
  rw [length_lines, length_lines, List.count_append, List.count_eq_zero_of_not_mem h, Nat.add_zero]

end Text

/-! ## What a check objects to -/

theorem checkOneOf_of_mem {field value : Text} {allowed : List Text} (h : value ∈ allowed) :
    checkOneOf field value allowed = .ok () :=
  if_pos h

theorem checkOneOf_of_not_mem {field value : Text} {allowed : List Text} (h : value ∉ allowed) :
    checkOneOf field value allowed = .error (.setting field value (.notOneOf allowed)) :=
  if_neg h

namespace Config

variable {c : Config} {fault : Fault}

/-- A setting of the log that is none of those allowed.  The level comes first. -/
inductive Objection (c : Config) : (field value : Text) → (allowed : List Text) → Prop
  | level {value : Text} (h : c.logLevel = some value) (hvalue : value ∉ logLevels) :
    Objection c "logging.level" value logLevels
  | format {value : Text} (hlevel : ∀ level ∈ c.logLevel, level ∈ logLevels)
    (h : c.logFormat = some value) (hvalue : value ∉ logFormats) :
    Objection c "logging.format" value logFormats

theorem check_of_unknown_level {level : Text} (h : c.logLevel = some level)
    (hlevel : level ∉ logLevels) :
    c.check = .error (.setting "logging.level" level (.notOneOf logLevels)) := by
  rw [check, h]
  show (checkOneOf _ level _ >>= _) = _
  rw [checkOneOf_of_not_mem hlevel]
  rfl

theorem check_of_known_level (h : ∀ level ∈ c.logLevel, level ∈ logLevels) :
    c.check = c.logFormat.elim (.ok ()) fun form =>
      checkOneOf "logging.format" form logFormats := by
  rw [check]
  cases hlevel : c.logLevel with
  | none => cases c.logFormat <;> rfl
  | some level =>
    show (checkOneOf _ level _ >>= _) = _
    rw [checkOneOf_of_mem (h level hlevel)]
    cases c.logFormat <;> rfl

theorem check_eq_error_iff : c.check = .error fault ↔ ∃ field value allowed,
    Objection c field value allowed ∧ fault = .setting field value (.notOneOf allowed) := by
  constructor
  · intro h
    by_cases hknown : ∀ level ∈ c.logLevel, level ∈ logLevels
    · rw [check_of_known_level hknown] at h
      cases hform : c.logFormat with
      | none =>
        rw [hform] at h
        cases h
      | some form =>
        rw [hform, Option.elim_some] at h
        by_cases hmem : form ∈ logFormats
        · rw [checkOneOf_of_mem hmem] at h
          cases h
        · rw [checkOneOf_of_not_mem hmem] at h
          exact ⟨_, form, _, .format hknown hform hmem, (Except.error.inj h).symm⟩
    · push Not at hknown
      obtain ⟨level, hlevel, hunknown⟩ := hknown
      rw [check_of_unknown_level hlevel hunknown] at h
      exact ⟨_, level, _, .level hlevel hunknown, (Except.error.inj h).symm⟩
  · rintro ⟨field, value, allowed, hobjection, rfl⟩
    cases hobjection with
    | level h hvalue => exact check_of_unknown_level h hvalue
    | format hlevel h hvalue =>
      rw [check_of_known_level hlevel, h]
      exact checkOneOf_of_not_mem hvalue

end Config

/-! ## What the operator reads -/

theorem Fault.length_lines_operatorLine (fault : Fault) :
    (Text.lines fault.operatorLine).length = (Text.lines fault.message).length := by
  have hfront : '\n' ∉ fault.category.caption ++ ": ".toList := by
    cases fault.category <;> decide
  exact Text.length_lines_wording_append hfront fault.message

/-- Of the causes that have a name, the wording is known. -/
theorem IoFault.newline_not_mem_message {cause : IoFault}
    (h : ∀ message, cause = .other message → '\n' ∉ message) : '\n' ∉ cause.message := by
  cases cause with
  | other message => exact h message rfl
  | _ => decide +kernel

theorem Config.length_lines_of_objection {c : Config} {field value : Text} {allowed : List Text}
    (h : Objection c field value allowed) :
    (Text.lines (Fault.setting field value (.notOneOf allowed)).operatorLine).length =
      (Text.lines value).length := by
  have hfront : '\n' ∉ "Invalid value for '".toList ++ field ++ "': '" := by
    cases h <;> decide +kernel
  have hallowed : '\n' ∉ (SettingFault.notOneOf allowed).message := by
    cases h <;> decide +kernel
  rw [Fault.length_lines_operatorLine]
  show (Text.lines (_ ++ value ++ _ ++ _ ++ _)).length = _
  rw [Text.length_lines_append_wording (by decide), Text.length_lines_append_wording hallowed,
    Text.length_lines_append_wording (by decide), Text.length_lines_wording_append hfront]

theorem Config.length_lines_of_unreadable (path : Text) {cause : IoFault}
    (h : '\n' ∉ cause.message) :
    (Text.lines (Fault.config (.unreadable path cause)).operatorLine).length =
      (Text.lines path).length := by
  rw [Fault.length_lines_operatorLine]
  show (Text.lines (_ ++ (_ ++ path ++ _ ++ _))).length = _
  rw [Text.length_lines_wording_append (by decide), Text.length_lines_append_wording h,
    Text.length_lines_append_wording (by decide), Text.length_lines_wording_append (by decide)]

namespace Config

/-! ## Any value -/

/-- What stands in front of the value of a file's only entry. -/
def entryFront (slot : Slot) : Text := header slot.home.name ++ slot.key ++ " = \""

/-- A file that takes one setting from a variable. -/
def variableFile (slot : Slot) : Text :=
  entryFront slot ++ (Substitution.reference "VALUE" ++ "\"\n")

theorem not_isInfix_entryFront (slot : Slot) : ¬ "$\x7b".toList <:+: entryFront slot := by
  cases slot <;> decide +kernel

/-- A setting can have any value: its escaped form may stand in a variable. -/
theorem ofText_variableFile (x : Setting) :
    ofText (fun _ => some (Toml.escape x.value)) (variableFile x.slot) = .ok (x.make {}) := by
  have hlists : Lists (x.make {}) [(x.slot.home, [x])] := by
    refine ⟨by simp, by simp, ?_⟩
    cases x <;> exact .refl _
  have hlines : Toml.Lines (statements [(x.slot.home, [x])])
      (header x.slot.home.name ++ entry x.slot.key x.value) :=
    (Toml.lines_append (lines_header x.slot.home) (lines_entry x.slot x.value) :)
  have hnone : Toml.IsBlanks [] := by decide
  have hshows := Toml.Shows.closed hlines (.blanks hnone) (Or.inl rfl)
  rw [List.append_nil, List.append_nil] at hshows
  have happly : Substitution.apply (fun _ => some (Toml.escape x.value)) (variableFile x.slot) =
      header x.slot.home.name ++ entry x.slot.key x.value := by
    have hend := Substitution.apply_of_not_mem (t := "\"\n") (by decide)
      (fun _ => some (Toml.escape x.value))
    rw [variableFile, Substitution.apply_plain_append (not_isInfix_entryFront x.slot) (by decide),
      Substitution.apply_reference_append (by decide) (by decide), hend]
    simp [entryFront, entry]
  rw [ofText, happly]
  exact ofDocument_of_shows hlists hshows

/-! ## Diagnostics -/

/-- A configuration that fails its check does so for the level or the format of its log, and
the operator reads as many lines as that value has.  Of a file that cannot be read it is as
many as its path has, if the system's own words take one line.  Every value can be that of a
setting. -/
theorem diagnostic_as_long_as_quoted (lookup : Text → Option Text) :
    (∀ (c : Config) fault, c.check = .error fault → ∃ field value allowed,
      Objection c field value allowed ∧ fault = .setting field value (.notOneOf allowed) ∧
        (Text.lines fault.operatorLine).length = (Text.lines value).length) ∧
    (∀ (files : Text → Except IoFault ByteArray) path cause,
      (files path >>= Source.decode) = .error cause →
        load files lookup path = .error (.config (.unreadable path cause)) ∧
          ((∀ message, cause = .other message → '\n' ∉ message) →
            (Text.lines (Fault.config (.unreadable path cause)).operatorLine).length =
              (Text.lines path).length)) ∧
    ∀ x : Setting,
      ofText (fun _ => some (Toml.escape x.value)) (variableFile x.slot) = .ok (x.make {}) := by
  refine ⟨?_, ?_, ofText_variableFile⟩
  · intro c fault h
    obtain ⟨field, value, allowed, hobjection, rfl⟩ := check_eq_error_iff.1 h
    exact ⟨field, value, allowed, hobjection, rfl, length_lines_of_objection hobjection⟩
  · intro files path cause h
    refine ⟨?_, fun hother => ?_⟩
    · rw [load, h]
    · exact length_lines_of_unreadable path (IoFault.newline_not_mem_message hother)

/-- A level of one line from a variable, and the path of a missing file. -/
theorem diagnostic_as_long_as_quoted_loud :
    let lookup : Text → Option Text := fun _ => some "loud"
    let fault : Fault := .setting "logging.level" "loud" (.notOneOf logLevels)
    let missing : Fault := .config (.unreadable "x" .notFound)
    ofText lookup (variableFile .logLevel) = .ok { logLevel := some "loud" } ∧
      ({ logLevel := some "loud" } : Config).check = .error fault ∧
      (Text.lines fault.operatorLine).length = 1 ∧
      load (fun _ => .error .notFound) lookup "x" = .error missing ∧
      (Text.lines missing.operatorLine).length = 1 := by
  intro lookup fault missing
  obtain ⟨hcheck, hload, hany⟩ := diagnostic_as_long_as_quoted lookup
  have hfault : ({ logLevel := some "loud" } : Config).check = .error fault := rfl
  obtain ⟨field, value, allowed, -, hsetting, hlines⟩ := hcheck _ _ hfault
  have hvalue : "loud".toList = value := (Fault.setting.inj hsetting).2.1
  rw [← hvalue] at hlines
  obtain ⟨hmissing, hpath⟩ := hload (fun _ => .error .notFound) "x" .notFound rfl
  exact ⟨hany (.logLevel "loud"), hfault, hlines, hmissing, hpath (by simp)⟩

/-- A level with an escaped line feed, and a path with one, are told of on two lines. -/
theorem exists_diagnostic_of_two_lines :
    let t : Text := "logging.level=\"a\\nb\""
    let c : Config := { logLevel := some "a\nb" }
    let fault : Fault := .setting "logging.level" "a\nb" (.notOneOf logLevels)
    let missing : Fault := .config (.unreadable "a\nb" .notFound)
    ofText (fun _ => none) t = .ok c ∧ c.check = .error fault ∧ '\n' ∈ fault.operatorLine ∧
      Text.lines fault.operatorLine = ["Config Error: Invalid value for 'logging.level': 'a".toList,
        "b' (Valid values: trace, debug, info, warn, error)".toList] ∧
      load (fun _ => .error .notFound) (fun _ => none) "a\nb" = .error missing ∧
      '\n' ∈ missing.operatorLine := by
  intro t c fault missing
  have htext : ofText (fun _ => none) t = .ok c :=
    Program.ofText_of_level rfl rfl (by decide) rfl (by decide) rfl
  exact ⟨htext, rfl, by decide +kernel, by decide +kernel, rfl, by decide +kernel⟩

end Config
end RoverMission

/-
What logging has no say in.

The log of a run is asked for in three ways: by a switch, by a variable of the
environment, and by a section of the configuration.  None of them changes what else a
run leaves behind.  The variable must not be referred to where configurations take
their values from, and the configuration must not be the mission at the same time.
-/
import RoverMission.Environment
import RoverMission.Proofs.Agreement
import RoverMission.Proofs.References
import RoverMission.Proofs.Spellings

namespace RoverMission

/-! ## Variables -/

namespace Environment

/-- An environment without the definitions of one variable. -/
def without (name : Text) (environment : Environment) : Environment :=
  environment.filter fun d => (Text.after? (name ++ ['=']) d).isNone

/-- A definition of one variable defines a second one only if the second name begins
with the first. -/
theorem isPrefix_of_definitions {name other definition value value' : Text}
    (hname : '=' ∉ name) (h : Text.after? (name ++ ['=']) definition = some value)
    (hother : Text.after? (other ++ ['=']) definition = some value') : name <+: other := by
  have hd := Text.eq_append_of_after? h
  rw [Text.eq_append_of_after? hother, List.append_assoc, List.append_assoc] at hd
  rcases List.append_eq_append_iff.1 hd with ⟨more, rfl, hrest⟩ | ⟨more, rfl, -⟩
  · rcases more with _ | ⟨c, more⟩
    · exact ⟨[], by simp⟩
    · obtain ⟨rfl, -⟩ := List.cons.inj hrest
      exact absurd (List.mem_append_right other List.mem_cons_self) hname
  · exact List.prefix_append name more

theorem lookup_without {name other : Text} (hname : '=' ∉ name) (h : ¬ name <+: other)
    (environment : Environment) :
    lookup (without name environment) other = lookup environment other := by
  induction environment with
  | nil => rfl
  | cons definition environment ih =>
    rw [lookup] at ih
    rw [lookup, lookup, without, List.filter_cons]
    split
    · rw [List.findSome?_cons, List.findSome?_cons]
      split
      · rfl
      · exact ih
    · rename_i hdefines
      rw [Option.isNone_iff_eq_none] at hdefines
      obtain ⟨value, hvalue⟩ := Option.ne_none_iff_exists'.1 hdefines
      have hnone : Text.after? (other ++ ['=']) definition = none := by
        cases hother : Text.after? (other ++ ['=']) definition with
        | none => rfl
        | some value' => exact absurd (isPrefix_of_definitions hname hvalue hother) h
      rw [List.findSome?_cons, hnone]
      exact ih

end Environment

/-! ## The switch -/

namespace Flags

variable {flags : Flags}

def withVerbose (flags : Flags) : Flags := { flags with verbose := true }

/-- Whether to tell more makes no difference to what is granted. -/
theorem grant_withVerbose (flags : Flags) (r : Request) :
    flags.withVerbose.grant r = (flags.grant r).map withVerbose := by
  rcases r with s | ⟨option, value⟩ | fault
  · rcases s with (_ | _ | _ | _) | (_ | _) | _ | _ <;> rfl
  · show flags.withVerbose.assign option value = (flags.assign option value).map withVerbose
    unfold Flags.assign
    split
    · rfl
    · rcases option with _ | _ | _
      · rfl
      · rfl
      · cases OutputFormat.ofName? value <;> rfl
  · rfl

theorem foldlM_grant_withVerbose (flags : Flags) (requests : List Request) :
    requests.foldlM grant flags.withVerbose = (requests.foldlM grant flags).map withVerbose := by
  induction requests generalizing flags with
  | nil => rfl
  | cons r requests ih =>
    rw [List.foldlM_cons, List.foldlM_cons, grant_withVerbose]
    cases flags.grant r with
    | error fault => rfl
    | ok granted => exact ih granted

theorem ofArguments_verbose (arguments : List Text) :
    ofArguments (['-', 'v'] :: arguments) = (ofArguments arguments).map withVerbose := by
  have hgroup : Group [.switch .verbose] [['-', 'v']] :=
    .single (.letters (by decide) (.switch rfl .nil))
  have hgranted : [Request.switch .verbose].foldlM grant {} = .ok (withVerbose {}) := rfl
  have hread := foldlM_grant_group hgroup hgranted arguments
  rw [List.singleton_append] at hread
  exact hread.trans (foldlM_grant_withVerbose {} _)

end Flags

namespace Program

variable {w : World}

theorem besidesLog_verbose (w : World) :
    (run { w with arguments := ['-', 'v'] :: w.arguments }).besidesLog = (run w).besidesLog := by
  rw [besidesLog_run, besidesLog_run]
  show (Flags.ofArguments (['-', 'v'] :: w.arguments)).map _ = _
  rw [Flags.ofArguments_verbose]
  cases Flags.ofArguments w.arguments <;> rfl

/-! ## The variable -/

/-- The text of the configuration file that is asked for, if it can be read. -/
def configText? (w : World) : Option Text := do
  let flags ← (Flags.ofArguments w.arguments).toOption
  let path ← flags.config
  (w.files path >>= Source.decode).toOption

/-- Variables that give the same for every name that the configuration refers to. -/
theorem besidesLog_variables {lookup : Text → Option Text}
    (h : ∀ t, configText? w = some t → ∀ name ∈ Substitution.names t,
      w.«variables» name = lookup name) :
    (run { w with «variables» := lookup }).besidesLog = (run w).besidesLog := by
  rw [besidesLog_run, besidesLog_run]
  show (Flags.ofArguments w.arguments).map _ = _
  cases hflags : Flags.ofArguments w.arguments with
  | error fault => rfl
  | ok flags =>
    have hconfig : config w.files lookup flags = config w.files w.«variables» flags := by
      rw [config, config]
      cases hpath : flags.config with
      | none => rfl
      | some path =>
        show Config.load w.files lookup path = Config.load w.files w.«variables» path
        rw [Config.load, Config.load]
        cases ht : w.files path >>= Source.decode with
        | error cause => rfl
        | ok t =>
          have htext : configText? w = some t := by
            rw [configText?, hflags]
            show (flags.config >>= fun path => (w.files path >>= Source.decode).toOption) = _
            rw [hpath]
            show (w.files path >>= Source.decode).toOption = _
            rw [ht]
            rfl
          show Config.ofText lookup t = Config.ofText w.«variables» t
          rw [Config.ofText, Config.ofText, Substitution.apply_congr (h t htext)]
    show Except.ok (exitOf (config w.files lookup flags >>= _)) = _
    rw [hconfig]
    rfl

/-! ## The section -/

/-- Other files, which make other settings for the log and are the same mission. -/
theorem besidesLog_files {files : Text → Except IoFault ByteArray} {flags : Flags} {path : Text}
    {c : Config} {level form : Option Text} (hflags : Flags.ofArguments w.arguments = .ok flags)
    (hpath : flags.config = some path) (hload : Config.load w.files w.«variables» path = .ok c)
    (hc : c.check = .ok ())
    (hload' : Config.load files w.«variables» path =
      .ok { c with logLevel := level, logFormat := form })
    (hc' : ({ c with logLevel := level, logFormat := form } : Config).check = .ok ())
    (htext : sourceText w.stdin files (Source.ofArgument flags.input) =
      sourceText w.stdin w.files (Source.ofArgument flags.input)) :
    (run { w with files }).besidesLog = (run w).besidesLog := by
  have hconfig : config w.files w.«variables» flags = .ok c := by
    rw [config, hpath]
    exact hload
  have hconfig' : config files w.«variables» flags =
      .ok { c with logLevel := level, logFormat := form } := by
    rw [config, hpath]
    exact hload'
  have hreported : reportedWith { w with files } flags
      { c with logLevel := level, logFormat := form } = reportedWith w flags c :=
    reportedWith_congr rfl (hc'.trans hc.symm) rfl rfl htext
  rw [besidesLog_of_flags (w := { w with files }) hflags, besidesLog_of_flags hflags]
  show Except.ok (exitOf (config files w.«variables» flags >>= _)) =
    Except.ok (exitOf (config w.files w.«variables» flags >>= _))
  rw [hconfig, hconfig']
  exact congrArg (fun r => Except.ok (exitOf r)) hreported

/-- A configuration that says nothing but a level. -/
theorem ofText_of_level {lookup : Text → Option Text} {t value level : Text}
    (hmark : Toml.skipMark t = t) (hgap : Toml.skipGap false t = some t) (hplain : '$' ∉ t)
    (hpath : Toml.readPath t = some (["logging".toList, "level".toList], '=' :: value))
    (hhead : t.head? ≠ some '[')
    (hvalue : Toml.quoted? (Toml.skipBlanks value) = some (some (level, []))) :
    Config.ofText lookup t = .ok { logLevel := some level } := by
  rw [Config.ofText_of_statement hmark hgap hplain
    (Toml.readStatement_of_quoted hhead hpath hvalue) rfl]
  show (Schema.readMembers Schema.loggingFields {} [("level", .string level)]).mapError _ = _
  rw [Schema.readMembers_singleton]
  rfl

theorem ofText_level_warn :
    Config.ofText (fun _ => none) "logging.level=\"warn\"" = .ok { logLevel := some "warn" } :=
  ofText_of_level rfl rfl (by decide) rfl (by decide) rfl

theorem ofText_level_error :
    Config.ofText (fun _ => none) "logging.level=\"error\"" = .ok { logLevel := some "error" } :=
  ofText_of_level rfl rfl (by decide) rfl (by decide) rfl

/-- What is asked of the log decides the log alone: the switch in front of the
arguments, the definition of the variable, as long as the configuration does not name
it, and the section of a configuration that passes its check before and after, as
long as the text of the mission stays. -/
theorem log_settings_stay_aside (w : World) :
    (run { w with arguments := ['-', 'v'] :: w.arguments }).besidesLog = (run w).besidesLog ∧
      (∀ environment environment' : Environment,
        environment.without logVariable = environment'.without logVariable →
        (∀ t, configText? w = some t → ¬ logVariable <:+: t) →
        (run { w with «variables» := Environment.lookup environment }).besidesLog =
          (run { w with «variables» := Environment.lookup environment' }).besidesLog) ∧
      ∀ (flags : Flags) (path : Text) (c : Config) (level form : Option Text)
        (files : Text → Except IoFault ByteArray),
        Flags.ofArguments w.arguments = .ok flags → flags.config = some path →
        Config.load w.files w.«variables» path = .ok c → c.check = .ok () →
        Config.load files w.«variables» path =
          .ok { c with logLevel := level, logFormat := form } →
        ({ c with logLevel := level, logFormat := form } : Config).check = .ok () →
        sourceText w.stdin files (Source.ofArgument flags.input) =
          sourceText w.stdin w.files (Source.ofArgument flags.input) →
        (run { w with files }).besidesLog = (run w).besidesLog := by
  refine ⟨besidesLog_verbose w, fun environment environment' hsame hname => ?_,
    fun flags path c level form files hflags hpath hload hc hload' hc' htext =>
      besidesLog_files hflags hpath hload hc hload' hc' htext⟩
  refine besidesLog_variables (w := { w with «variables» := Environment.lookup environment' })
    fun t ht name hmem => ?_
  have hother : ¬ logVariable <+: name := fun hbegins =>
    hname t ht (hbegins.isInfix.trans (Substitution.isInfix_of_mem_names hmem))
  have hequals : '=' ∉ logVariable := by decide
  show Environment.lookup environment' name = Environment.lookup environment name
  rw [← Environment.lookup_without hequals hother, ← hsame,
    Environment.lookup_without hequals hother]

/-- Another level in the configuration, and a variable that is set. -/
theorem log_settings_stay_aside_levels :
    let warn : Text := "logging.level=\"warn\""
    let error : Text := "logging.level=\"error\""
    let w : World :=
      { arguments := ["-c", "x"]
        stdin := ⟨(Text.utf8 "1 1\n0 0 S\nM\n").toArray⟩
        files := singleFile ['x'] warn
        «variables» := fun _ => none }
    configText? w = some warn ∧ ¬ logVariable <:+: warn ∧
      Config.load (singleFile ['x'] warn) w.«variables» ['x'] =
        .ok { logLevel := some "warn" } ∧
      Config.load (singleFile ['x'] error) w.«variables» ['x'] =
        .ok { logLevel := some "error" } ∧
      (run { w with arguments := ['-', 'v'] :: w.arguments }).besidesLog = (run w).besidesLog ∧
      (run { w with «variables» := Environment.lookup ["RUST_LOG=trace"] }).besidesLog =
        (run { w with «variables» := Environment.lookup [] }).besidesLog ∧
      (run { w with files := singleFile ['x'] error }).besidesLog = (run w).besidesLog := by
  intro warn error w
  have htext : configText? w = some warn := by
    show (singleFile ['x'] warn ['x'] >>= Source.decode).toOption = some warn
    rw [decode_singleFile]
    rfl
  have hname : ¬ logVariable <:+: warn := by
    intro hinfix
    have hmem : 'R' ∈ warn := hinfix.subset (by decide)
    exact absurd hmem (by decide)
  have hwarn : Config.load (singleFile ['x'] warn) w.«variables» ['x'] =
      .ok { logLevel := some "warn" } := by
    rw [Config.load_of_utf8 (singleFile_self ['x'] warn)]
    exact ofText_level_warn
  have herror : Config.load (singleFile ['x'] error) w.«variables» ['x'] =
      .ok { logLevel := some "error" } := by
    rw [Config.load_of_utf8 (singleFile_self ['x'] error)]
    exact ofText_level_error
  obtain ⟨hverbose, hvariable, hsection⟩ := log_settings_stay_aside w
  have hsame : Environment.without logVariable ["RUST_LOG=trace"] =
      Environment.without logVariable [] := by decide
  have hunnamed : ∀ t, configText? w = some t → ¬ logVariable <:+: t := by
    intro t ht
    rw [htext] at ht
    cases ht
    exact hname
  have hflags : Flags.ofArguments w.arguments = .ok { config := some ['x'] } := rfl
  have hstdin (files) : sourceText w.stdin files .stdin = (Source.decode w.stdin).mapError .io :=
    rfl
  have hlevel := hsection { config := some ['x'] } ['x'] { logLevel := some "warn" }
    (some "error".toList) none (singleFile ['x'] error) hflags rfl hwarn rfl herror rfl
    ((hstdin _).trans (hstdin _).symm)
  exact ⟨htext, hname, hwarn, herror, hverbose, hvariable _ _ hsame hunnamed, hlevel⟩

/-- A configuration that is the mission as well: what is said of its first line quotes
the level. -/
theorem besidesLog_ne_of_config_as_mission :
    let warn : Text := "logging.level=\"warn\""
    let error : Text := "logging.level=\"error\""
    let w : World :=
      { arguments := ["-c", "x", "-i", "x"]
        stdin := ⟨#[]⟩
        files := singleFile ['x'] warn
        «variables» := fun _ => none }
    let c : Config := { logLevel := some "warn" }
    let c' : Config := { c with logLevel := some "error" }
    Flags.ofArguments w.arguments = .ok { input := some ['x'], config := some ['x'] } ∧
      Config.load w.files w.«variables» ['x'] = .ok c ∧ c.check = .ok () ∧
      Config.load (singleFile ['x'] error) w.«variables» ['x'] = .ok c' ∧ c'.check = .ok () ∧
      (run { w with files := singleFile ['x'] error }).besidesLog ≠ (run w).besidesLog := by
  intro warn error w c c'
  have hwarn : Config.load w.files w.«variables» ['x'] = .ok c := by
    rw [Config.load_of_utf8 (singleFile_self ['x'] warn)]
    exact ofText_level_warn
  have herror : Config.load (singleFile ['x'] error) w.«variables» ['x'] = .ok c' := by
    rw [Config.load_of_utf8 (singleFile_self ['x'] error)]
    exact ofText_level_error
  let flags : Flags := { input := some ['x'], config := some ['x'] }
  have hflags : Flags.ofArguments w.arguments = .ok flags := rfl
  -- The mission is read from the file, and its first line is no plateau line.
  have hrun : ∀ t c fault, Config.load (singleFile ['x'] t) w.«variables» ['x'] = .ok c →
      c.check = .ok () → Mission.ofText t = .error fault →
      (run { w with files := singleFile ['x'] t }).besidesLog = .ok (failed fault) := by
    intro t c fault hload hc hmission
    have htext : sourceText w.stdin (singleFile ['x'] t) (.file ['x']) = .ok t := by
      show (singleFile ['x'] t ['x'] >>= Source.decode).mapError _ = .ok t
      rw [decode_singleFile]
      rfl
    have hreported : reported { w with files := singleFile ['x'] t } flags = .error fault :=
      reported_of_mission_error hload rfl hc htext hmission
    rw [besidesLog_of_flags (w := { w with files := singleFile ['x'] t }) hflags, hreported]
    rfl
  refine ⟨hflags, hwarn, rfl, herror, rfl, ?_⟩
  have hbefore := hrun warn c (.mission (.plateauLine warn)) hwarn rfl rfl
  have hafter := hrun error c' (.mission (.plateauLine error)) herror rfl rfl
  rw [hafter]
  intro hsame
  have hexit := Except.ok.inj (hsame.trans hbefore)
  exact absurd hexit (by decide +kernel)

end Program
end RoverMission

/-
Configuration files as flags put in front.

What a configuration says can be said by flags (`Config.arguments`).  Put in front of
other arguments, they give way to these as the configuration does, for the last flag
counts and the configuration is the lowest layer.  So a configuration file can be
spared (`besidesLog_of_config`).
-/
import RoverMission.Proofs.Agreement
import RoverMission.Proofs.LastWins

namespace RoverMission

namespace Config

/-- The requests that say what a configuration says. -/
def requests (c : Config) : List Flags.Request :=
  c.policy.toList.map (fun p => .switch (.policy p)) ++
    (c.errorMode.toList.map (fun m => .switch (.mode m)) ++
      c.format.toList.map fun f => .assign .format f.name)

/-- The flags that spell them: a switch for the policy, one for the error mode, and
the output format as an option. -/
def arguments (c : Config) : List Text :=
  c.policy.toList.map (fun p => '-' :: '-' :: p.name) ++
    (c.errorMode.toList.map (fun m => '-' :: '-' :: m.name) ++
      c.format.toList.flatMap fun f => [['-', 'f'], f.name])

end Config

namespace Flags

theorem groups_arguments (c : Config) : Groups c.requests c.arguments := by
  refine groups_append ?_ (groups_append ?_ ?_)
  · cases c.policy with
    | none => exact .nil
    | some p => exact groups_singleton (.single (.switch (.policy p)))
  · cases c.errorMode with
    | none => exact .nil
    | some m => exact groups_singleton (.single (.switch (.mode m)))
  · cases c.format with
    | none => exact .nil
    | some f =>
      have hplain : IsPlain f.name := by cases f <;> decide
      exact groups_singleton (.pair (.letters (by decide) (.option .format)) hplain)

theorem exists_granted_requests (c : Config) :
    ∃ flags, c.requests.foldlM grant {} = .ok flags := by
  obtain ⟨policy, mode, format, level, form⟩ := c
  -- The names of the formats are the values that the option takes.
  have hformat (flags : Flags) : ∃ flags',
      (format.toList.map fun f => Request.assign .format f.name).foldlM grant flags =
        .ok flags' := by
    cases format with
    | none => exact ⟨_, rfl⟩
    | some f => cases f <;> exact ⟨_, rfl⟩
  rw [Config.requests, List.foldlM_append]
  cases policy <;> cases mode <;> exact hformat _

theorem last_policy_requests (c : Config) : last Request.policy? c.requests = c.policy := by
  rcases c with ⟨_ | _, _ | _, _ | _, _, _⟩ <;> rfl

theorem last_errorMode_requests (c : Config) :
    last Request.errorMode? c.requests = c.errorMode := by
  rcases c with ⟨_ | _, _ | _, _ | _, _, _⟩ <;> rfl

theorem last_format_requests (c : Config) :
    last (Request.value? .format) c.requests = c.format.map OutputFormat.name := by
  rcases c with ⟨_ | _, _ | _, _ | _, _, _⟩ <;> rfl

/-- No path is among what a configuration says. -/
theorem last_value?_requests (c : Config) {option : Valued} (h : option ≠ .format) :
    last (Request.value? option) c.requests = none := by
  cases option with
  | input => rcases c with ⟨_ | _, _ | _, _ | _, _, _⟩ <;> rfl
  | config => rcases c with ⟨_ | _, _ | _, _ | _, _, _⟩ <;> rfl
  | format => exact absurd rfl h

/-- Where the path of the configuration passes, the path of the input is left. -/
theorem check_eq_of_config {flags : Flags}
    (h : ∀ path, flags.config = some path → checkPath "config" path = .ok ()) :
    flags.check = ({ input := flags.input } : Flags).check := by
  cases hconfig : flags.config with
  | none =>
    rw [check, hconfig]
    rfl
  | some path =>
    have hpath := h path hconfig
    rw [check, hconfig]
    cases flags.input with
    | none => exact hpath
    | some input =>
      show (checkPath "input" input >>= fun _ => checkPath "config" path) = _
      rw [hpath]
      rfl

end Flags

namespace Program

open Flags

variable {w : World} {path : Text} {c : Config} {requests : List Request}

/-- A run with a configuration file reports the same as one with flags in its place. -/
theorem reported_of_config {filed flagged : Flags} (arguments : List Text)
    (hpath : checkPath "config" path = .ok ())
    (hload : Config.load w.files w.«variables» path = .ok c) (hc : c.check = .ok ())
    (hnone : ∀ value, .assign .config value ∉ requests)
    (hfiled : LastWins ([.assign .config path] ++ requests) filed)
    (hflagged : LastWins (c.requests ++ requests) flagged) :
    reported w filed = reported { w with arguments } flagged := by
  have hlast := last_value?_eq_none_iff.2 hnone
  have hfiledConfig : filed.config = some path := by
    rw [hfiled.config, last_append, hlast]
    rfl
  have hflaggedConfig : flagged.config = none := by
    rw [hflagged.config, last_append, hlast, last_value?_requests c (by decide)]
    rfl
  have hinput : filed.input = flagged.input := by
    rw [hfiled.input, hflagged.input, last_append, last_append,
      last_value?_requests c (by decide)]
    rfl
  have hfiledCheck : filed.check = ({ input := filed.input } : Flags).check :=
    check_eq_of_config fun p hp => by
      rw [hfiledConfig] at hp
      cases hp
      exact hpath
  have hflaggedCheck : flagged.check = ({ input := flagged.input } : Flags).check :=
    check_eq_of_config fun p hp => by
      rw [hflaggedConfig] at hp
      cases hp
  have hpolicy : filed.policy?.or c.policy = flagged.policy?.or none := by
    rw [policy?_of_lastWins hfiled, policy?_of_lastWins hflagged, Option.or_none,
      ← last_policy_requests c]
    exact last_or rfl requests
  have hmode : filed.errorMode?.or c.errorMode = flagged.errorMode?.or none := by
    rw [errorMode?_of_lastWins hfiled, errorMode?_of_lastWins hflagged, Option.or_none,
      ← last_errorMode_requests c]
    exact last_or rfl requests
  have hformat : filed.format.or c.format = flagged.format.or none := by
    refine (Option.map_inj_right fun _ _ => OutputFormat.name_injective).1 ?_
    rw [Option.or_none, Option.map_or, hfiled.format, hflagged.format, ← last_format_requests c]
    exact last_or rfl requests
  have hfiledLoaded : config w.files w.«variables» filed = .ok c := by
    rw [config, hfiledConfig]
    exact hload
  have hflaggedLoaded : config w.files w.«variables» flagged = .ok {} := by
    rw [config, hflaggedConfig]
  rw [reported, reported, hfiledLoaded, hflaggedLoaded]
  exact reportedWith_congr (by rw [hfiledCheck, hflaggedCheck, hinput]) hc hinput
    (settings_congr hpolicy hmode hformat) rfl

/-- A configuration file that loads and passes its check does what the flags do that
say what it says, put in the same place: both are refused for the same reason, or
leave the same behind but for the log.  The path is one that a file can have, and
behind it no other configuration may be asked for. -/
theorem besidesLog_of_config {front arguments : List Text}
    (hpath : checkPath "config" path = .ok ())
    (hload : Config.load w.files w.«variables» path = .ok c) (hc : c.check = .ok ())
    (hfront : Group [.assign .config path] front)
    (hnone : ∀ requests, Spelled requests arguments → ∀ value, .assign .config value ∉ requests) :
    (run { w with arguments := front ++ arguments }).besidesLog =
      (run { w with arguments := c.arguments ++ arguments }).besidesLog := by
  have hne : path ≠ [] := by
    rintro rfl
    cases hpath
  have hgiven : [Request.assign .config path].foldlM grant {} =
      .ok ({ config := some path } : Flags) := by
    show (assign {} .config path >>= pure) = _
    rw [assign, if_neg hne]
    rfl
  obtain ⟨said, hsaid⟩ := exists_granted_requests c
  rw [besidesLog_run, besidesLog_run]
  show (ofArguments (front ++ arguments)).map _ = (ofArguments (c.arguments ++ arguments)).map _
  cases h : ofArguments arguments with
  | error fault =>
    rw [ofArguments_append_error (groups_singleton hfront) hgiven h,
      ofArguments_append_error (groups_arguments c) hsaid h]
    rfl
  | ok flags =>
    obtain ⟨requests, hspelled, hgranted⟩ := ofArguments_eq_ok_iff.1 h
    obtain ⟨filed, hfiledRead, hfiled⟩ :=
      exists_ofArguments_append (groups_singleton hfront) hgiven hspelled hgranted
    obtain ⟨flagged, hflaggedRead, hflagged⟩ :=
      exists_ofArguments_append (groups_arguments c) hsaid hspelled hgranted
    have hreported := reported_of_config (w := { w with arguments := front ++ arguments })
      (c.arguments ++ arguments) hpath hload hc (hnone requests hspelled) hfiled hflagged
    rw [hfiledRead, hflaggedRead]
    show Except.ok (exitOf _) = Except.ok (exitOf _)
    rw [hreported]

/-- A policy from a file, with another one among the arguments. -/
theorem besidesLog_of_config_overridden :
    let t : Text := "mission.boundary_policy=\"wrap\""
    let c : Config := { policy := some .wrap }
    let w : World :=
      { arguments := []
        stdin := ⟨(Text.utf8 "1 1\n0 0 S\nMM\n").toArray⟩
        files := singleFile ['x'] t
        «variables» := fun _ => none }
    Config.load w.files w.«variables» ['x'] = .ok c ∧ c.check = .ok () ∧
      Group [.assign .config ['x']] ["-c".toList, "x".toList] ∧
      (∀ requests, Spelled requests ["--stop-on-oob".toList, "-fcsv".toList] →
        ∀ value, .assign .config value ∉ requests) ∧
      (run { w with arguments := ["-c", "x", "--stop-on-oob", "-fcsv"] }).besidesLog =
        (run { w with arguments := ["--wrap", "--stop-on-oob", "-fcsv"] }).besidesLog := by
  intro t c w
  have hpath : Toml.readPath t =
      some (["mission".toList, "boundary_policy".toList], '=' :: "\"wrap\"".toList) := rfl
  have hhead : t.head? ≠ some '[' := by decide
  have hplain : '$' ∉ t := by decide
  have hstatement := Toml.readStatement_of_quoted (s := "wrap") hhead hpath rfl
  have hload : Config.load w.files w.«variables» ['x'] = .ok c := by
    rw [Config.load_of_utf8 (singleFile_self ['x'] t),
      Config.ofText_of_statement rfl rfl hplain hstatement rfl]
    show (Schema.readMembers Schema.missionFields {}
      [("boundary_policy", .string "wrap")]).mapError _ = _
    rw [Schema.readMembers_singleton]
    rfl
  have hfront : Group [.assign .config ['x']] ["-c", "x"] :=
    .pair (.letters (by decide) (.option .config)) (by decide)
  have hnone : ∀ requests, Spelled requests ["--stop-on-oob", "-fcsv"] →
      ∀ value, .assign .config value ∉ requests := by
    intro requests hspelled value
    rw [← (Request.spelled_iff.1 hspelled).1]
    show Request.assign .config value ∉ [.switch (.policy .stop), .assign .format "csv"]
    simp
  exact ⟨hload, rfl, hfront, hnone, besidesLog_of_config rfl hload rfl hfront hnone⟩

end Program
end RoverMission

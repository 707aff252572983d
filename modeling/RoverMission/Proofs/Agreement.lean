/-
Runs that agree but for the log.

Besides the log, a run leaves behind what its flags and what it reports come to
(`besidesLog_run`).  What it reports depends on the checks of the settings, on the
settings themselves and on the text of the mission (`reportedWith_congr`), so two
runs that have these in common differ in the log at most.
-/
import RoverMission.Proofs.Exits

namespace RoverMission

/-- Of two layers the upper one decides, and the lower one where the upper is silent. -/
theorem Settings.layered_pair (lower upper : Layer) :
    layered [lower, upper] =
      { policy := (upper.policy.or lower.policy).getD .strict
        errorMode := (upper.errorMode.or lower.errorMode).getD .failFast
        format := (upper.format.or lower.format).getD .text } := by
  show overlay (overlay {} lower) upper = _
  simp only [overlay, Option.getD_or]

namespace Program

/-- All that comes of a run but its log. -/
def Result.besidesLog : Result → Except UsageFault Exit
  | usage fault => .error fault
  | finished exit _ => .ok exit

variable {w w' : World} {flags flags' : Flags} {c c' : Config}

theorem besidesLog_run (w : World) :
    (run w).besidesLog =
      (Flags.ofArguments w.arguments).map fun flags => exitOf (reported w flags) := by
  cases h : Flags.ofArguments w.arguments with
  | error fault =>
    rw [run, h]
    rfl
  | ok flags =>
    obtain ⟨log, hrun⟩ := run_eq h
    rw [hrun]
    rfl

theorem besidesLog_of_flags (h : Flags.ofArguments w.arguments = .ok flags) :
    (run w).besidesLog = .ok (exitOf (reported w flags)) := by
  rw [besidesLog_run, h]
  rfl

theorem settings_congr (hpolicy : flags.policy?.or c.policy = flags'.policy?.or c'.policy)
    (hmode : flags.errorMode?.or c.errorMode = flags'.errorMode?.or c'.errorMode)
    (hformat : flags.format.or c.format = flags'.format.or c'.format) :
    settings flags c = settings flags' c' := by
  rw [settings, settings, Settings.layered_pair, Settings.layered_pair]
  show Settings.mk ((flags.policy?.or c.policy).getD _) ((flags.errorMode?.or c.errorMode).getD _)
    ((flags.format.or c.format).getD _) = _
  rw [hpolicy, hmode, hformat]
  rfl

theorem reportedWith_congr (hflags : flags.check = flags'.check) (hc : c.check = c'.check)
    (hinput : flags.input = flags'.input) (hsettings : settings flags c = settings flags' c')
    (htext : sourceText w.stdin w.files (Source.ofArgument flags.input) =
      sourceText w'.stdin w'.files (Source.ofArgument flags.input)) :
    reportedWith w flags c = reportedWith w' flags' c' := by
  have hsource : source flags c = source flags' c' := by
    rw [source, source, hflags, hc, hinput]
  rw [reportedWith, reportedWith, ← hsource, ← hsettings]
  cases h : source flags c with
  | error fault => rfl
  | ok mission =>
    obtain ⟨-, -, rfl⟩ := source_eq_ok_iff.1 h
    show (missionReport _ (sourceText w.stdin w.files _) >>= _) = _
    rw [htext]
    rfl

/-- A mission that cannot be read is reported, once everything in front of it succeeds. -/
theorem reported_of_mission_error {t : Text} {fault : Fault}
    (hconfig : config w.files w.«variables» flags = .ok c) (hflags : flags.check = .ok ())
    (hc : c.check = .ok ())
    (htext : sourceText w.stdin w.files (Source.ofArgument flags.input) = .ok t)
    (hmission : Mission.ofText t = .error fault) : reported w flags = .error fault := by
  have hreport : missionReport (settings flags c)
      (sourceText w.stdin w.files (Source.ofArgument flags.input)) = .error fault := by
    rw [htext]
    show (Mission.ofText t >>= _) = _
    rw [hmission]
    rfl
  rw [reported, hconfig]
  show reportedWith w flags c = _
  rw [reportedWith, source_eq_ok_iff.2 ⟨hflags, hc, rfl⟩]
  show (missionReport _ _ >>= _) = _
  rw [hreport]
  rfl

/-- A file of one name and nothing else. -/
def singleFile (name t : Text) (path : Text) : Except IoFault ByteArray :=
  if path = name then .ok ⟨(Text.utf8 t).toArray⟩ else .error .notFound

theorem singleFile_self (name t : Text) :
    singleFile name t name = .ok ⟨(Text.utf8 t).toArray⟩ := if_pos rfl

theorem decode_singleFile (name t : Text) :
    (singleFile name t name >>= Source.decode) = .ok t := by
  rw [singleFile_self]
  exact Source.decode_utf8 t

end Program
end RoverMission

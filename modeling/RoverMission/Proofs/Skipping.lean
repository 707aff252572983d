/-
The moves that the ignoring policy leaves out.

A rover that ignores the edge leaves out the moves that would take it off the plateau,
and tells of each of them in an event of its own (`LeftOut`).  The commands that are
left make a plan that never meets the edge, and so comes to the same end under every
policy.  The other policies leave nothing out and report no event on the way.
-/
import Mathlib.Data.List.Induction
import RoverMission.Proofs.Continuing

namespace RoverMission

namespace Command

variable {places places' : List Nat} {commands : List Command} {k : Command}

/-- The commands that are left without those at some places, counted from zero. -/
def without (places : List Nat) (commands : List Command) : List Command :=
  (commands.zipIdx.filter fun c => c.2 ∉ places).map Prod.fst

theorem without_concat_of_mem (h : commands.length ∈ places) :
    without places (commands ++ [k]) = without places commands := by
  simp [without, List.zipIdx_append, h]

theorem without_concat_of_not_mem (h : commands.length ∉ places) :
    without places (commands ++ [k]) = without places commands ++ [k] := by
  simp [without, List.zipIdx_append, h]

/-- Only the places of commands matter. -/
theorem without_congr (h : ∀ i < commands.length, i ∈ places ↔ i ∈ places') :
    without places commands = without places' commands := by
  rw [without, without]
  congr 1
  refine List.filter_congr fun c hc => ?_
  have hlt : c.2 < commands.length := by
    have hget := List.mem_zipIdx_iff_getElem?.1 hc
    exact (List.getElem?_eq_some_iff.1 hget).1
  simp [h c.2 hlt]

end Command

namespace Journey

variable {policy : BoundaryPolicy} {plateau : Plateau} {rover : Nat} {pose : Pose}
variable {commands : List Command} {k : Command} {places : List Nat} {i : Nat}

/-! ## Places that are left out -/

/-- The journey of a rover that ignores the edge. -/
def ignoring (plateau : Plateau) (rover : Nat) (pose : Pose) (commands : List Command) : Journey :=
  drive .ignore plateau rover (start pose) commands

theorem ignoring_concat (plateau : Plateau) (rover : Nat) (pose : Pose) (commands : List Command)
    (k : Command) :
    ignoring plateau rover pose (commands ++ [k]) =
      step .ignore plateau rover (ignoring plateau rover pose commands) k :=
  drive_concat .ignore plateau rover (start pose) commands k

/-- Nothing ends such a journey early. -/
theorem ending_ignoring : (ignoring plateau rover pose commands).ending = none :=
  ending_eq_none_of_marked (marked_drive .ignore plateau rover pose commands) (by decide) (by decide)

/-- The command at a place is a move that would lead off the plateau, for a rover that
has ignored all such moves before. -/
def BlockedAt (plateau : Plateau) (rover : Nat) (pose : Pose) (commands : List Command) (i : Nat) :
    Prop :=
  commands[i]? = some .move ∧
    ¬ ((ignoring plateau rover pose (commands.take i)).pose.walker.follow .move).On plateau

theorem lt_length_of_blockedAt (h : BlockedAt plateau rover pose commands i) :
    i < commands.length :=
  (List.getElem?_eq_some_iff.1 h.1).1

/-- One more command changes nothing at the places before it. -/
theorem blockedAt_concat :
    BlockedAt plateau rover pose (commands ++ [k]) i ↔
      BlockedAt plateau rover pose commands i ∨
        i = commands.length ∧ k = .move ∧
          ¬ ((ignoring plateau rover pose commands).pose.walker.follow .move).On plateau := by
  rcases Nat.lt_trichotomy i commands.length with hlt | rfl | hgt
  · rw [or_iff_left fun h => Nat.ne_of_lt hlt h.1, BlockedAt, BlockedAt,
      List.getElem?_append_left hlt, List.take_append_of_le_length (Nat.le_of_lt hlt)]
  · have hout : ¬ BlockedAt plateau rover pose commands commands.length :=
      fun h => Nat.lt_irrefl _ (lt_length_of_blockedAt h)
    rw [or_iff_right hout, and_iff_right rfl, BlockedAt, List.getElem?_concat_length,
      List.take_left, Option.some.injEq]
  · constructor
    · intro h
      have hlt := lt_length_of_blockedAt h
      rw [List.length_append, List.length_singleton] at hlt
      omega
    · rintro (h | ⟨rfl, -⟩)
      · have hlt := lt_length_of_blockedAt h
        omega
      · omega

/-- What a journey that ignores the edge tells of the places that it leaves out. -/
structure LeftOut (plateau : Plateau) (rover : Nat) (pose : Pose) (commands : List Command)
    (places : List Nat) : Prop where
  mem_iff : ∀ i, i ∈ places ↔ BlockedAt plateau rover pose commands i
  increasing : places.Pairwise (· < ·)
  reported : (ignoring plateau rover pose commands).reported.reverse =
    places.map fun i => .moveSkipped rover (i + 1)
      (ignoring plateau rover pose (commands.take i)).pose
  skipped : (ignoring plateau rover pose commands).skipped = places.length
  clear : pose.walker.Clear plateau (Command.without places commands)
  walk : pose.walker.walk (Command.without places commands) =
    (ignoring plateau rover pose commands).pose.walker

theorem leftOut_nil : LeftOut plateau rover pose [] [] where
  mem_iff i := by simp [BlockedAt]
  increasing := .nil
  reported := rfl
  skipped := rfl
  clear := Walker.clear_nil
  walk := rfl

theorem lt_length_of_mem (h : LeftOut plateau rover pose commands places) (hi : i ∈ places) :
    i < commands.length :=
  lt_length_of_blockedAt ((h.mem_iff i).1 hi)

theorem length_not_mem (h : LeftOut plateau rover pose commands places) :
    commands.length ∉ places := fun hi => Nat.lt_irrefl _ (lt_length_of_mem h hi)

/-- The events of the places so far, told of one more command. -/
theorem map_moveSkipped_concat (h : LeftOut plateau rover pose commands places) (k : Command) :
    (places.map fun i => Event.moveSkipped rover (i + 1)
        (ignoring plateau rover pose ((commands ++ [k]).take i)).pose) =
      places.map fun i => .moveSkipped rover (i + 1)
        (ignoring plateau rover pose (commands.take i)).pose := by
  refine List.map_congr_left fun i hi => ?_
  rw [List.take_append_of_le_length (Nat.le_of_lt (lt_length_of_mem h hi))]

theorem leftOut_concat_of_on (h : LeftOut plateau rover pose commands places)
    (hk : k = .move → ((ignoring plateau rover pose commands).pose.walker.follow k).On plateau) :
    LeftOut plateau rover pose (commands ++ [k]) places := by
  have hout := length_not_mem h
  have hs := ignoring_concat plateau rover pose commands k
  rw [step_of_on ending_ignoring hk] at hs
  refine ⟨fun i => ?_, h.increasing, ?_, ?_, ?_, ?_⟩
  · rw [h.mem_iff, blockedAt_concat, or_iff_left]
    rintro ⟨-, rfl, hoff⟩
    exact hoff (hk rfl)
  · rw [hs, map_moveSkipped_concat h]
    exact h.reported
  · rw [hs]
    exact h.skipped
  · rw [Command.without_concat_of_not_mem hout, Walker.clear_append, Walker.clear_singleton, h.walk]
    exact ⟨h.clear, hk⟩
  · rw [Command.without_concat_of_not_mem hout, Walker.walk_append, h.walk, hs]
    exact (walker_pose_follow hk).symm

theorem leftOut_concat_of_not_on (h : LeftOut plateau rover pose commands places)
    (hoff : ¬ ((ignoring plateau rover pose commands).pose.walker.follow .move).On plateau) :
    LeftOut plateau rover pose (commands ++ [.move]) (places ++ [commands.length]) := by
  have hread : (ignoring plateau rover pose commands).read = commands.length :=
    (read_drive ending_ignoring).trans (Nat.zero_add _)
  have hs := ignoring_concat plateau rover pose commands .move
  rw [step_of_not_on ending_ignoring hoff] at hs
  have hleft : Command.without (places ++ [commands.length]) (commands ++ [.move]) =
      Command.without places commands := by
    rw [Command.without_concat_of_mem (List.mem_append_right _ List.mem_cons_self)]
    refine Command.without_congr fun i hi => ?_
    rw [List.mem_append, List.mem_singleton, or_iff_left (by omega)]
  refine ⟨fun i => ?_, ?_, ?_, ?_, ?_, ?_⟩
  · rw [List.mem_append, List.mem_singleton, h.mem_iff, blockedAt_concat, and_iff_left ⟨rfl, hoff⟩]
  · refine List.pairwise_append.2 ⟨h.increasing, List.pairwise_singleton _ _, fun i hi i' hi' => ?_⟩
    rw [List.mem_singleton.1 hi']
    exact lt_length_of_mem h hi
  · rw [hs, List.map_append, map_moveSkipped_concat h, ← h.reported]
    show (Event.moveSkipped rover _ _ :: _).reverse = _
    rw [List.reverse_cons, hread, List.map_singleton, List.take_left]
  · rw [hs, List.length_append, ← h.skipped]
    rfl
  · rw [hleft]
    exact h.clear
  · rw [hleft, h.walk, hs]
    rfl

/-- Every journey that ignores the edge leaves out the blocked moves and no others. -/
theorem exists_leftOut (plateau : Plateau) (rover : Nat) (pose : Pose) (commands : List Command) :
    ∃ places, LeftOut plateau rover pose commands places := by
  -- The events are numbered from the first command, so commands are added at the end.
  induction commands using List.reverseRecOn with
  | nil => exact ⟨[], leftOut_nil⟩
  | append_singleton commands k ih =>
    obtain ⟨places, h⟩ := ih
    rcases step_cases .ignore plateau rover (ignoring plateau rover pose commands) k
      with ⟨hover, -⟩ | ⟨-, hk, -⟩ | ⟨-, rfl, hoff, -⟩
    · exact absurd ending_ignoring hover
    · exact ⟨places, leftOut_concat_of_on h hk⟩
    · exact ⟨places ++ [commands.length], leftOut_concat_of_not_on h hoff⟩

/-! ## Policies that leave nothing out -/

theorem reported_step (h : policy ≠ .ignore) (j : Journey) (k : Command) :
    (step policy plateau rover j k).reported = j.reported := by
  rcases step_cases policy plateau rover j k with ⟨-, hs⟩ | ⟨-, -, hs⟩ | ⟨-, -, -, hs⟩
  · rw [hs]
  · rw [hs]
    rfl
  · rw [hs]
    cases policy with
    | strict => rfl
    | ignore => exact absurd rfl h
    | stop => rfl
    | wrap => rfl

theorem reported_drive (h : policy ≠ .ignore) (j : Journey) (commands : List Command) :
    (drive policy plateau rover j commands).reported = j.reported :=
  drive_invariant (P := fun j' => j'.reported = j.reported)
    (fun j' k hj => (reported_step h j' k).trans hj) rfl commands

end Journey

namespace Plan

/-- The plan without the commands at some places. -/
def without (plan : Plan) (places : List Nat) : Plan :=
  { plan with commands := Command.without places plan.commands }

theorem outcome_without {plateau : Plateau} {rover : Nat} {plan : Plan} {places : List Nat}
    (h : Journey.LeftOut plateau rover plan.start plan.commands places)
    (policy : BoundaryPolicy) :
    (plan.without places).outcome policy plateau rover =
      .unhindered rover (Journey.ignoring plateau rover plan.start plan.commands).pose := by
  have hclear : (plan.without places).start.walker.Clear plateau (plan.without places).commands :=
    h.clear
  rw [outcome_of_clear hclear]
  show Outcome.unhindered rover
    (plan.start.walker.walk (Command.without places plan.commands)).pose = _
  rw [h.walk, Pose.pose_walker]

/-- A rover that ignores the edge reports one trace event for each move it leaves out,
in order, with the number of the move and the pose at that moment; these are the moves
that would have led off the plateau.  Without them the plan comes to the same pose under
every policy, and the edge never hinders it.  No other policy reports events. -/
theorem events_tell_left_out (plateau : Plateau) (rover : Nat) (plan : Plan) :
    (∃ places : List Nat,
      (Outcome.ofPlan .ignore plateau rover plan).events =
        (places.map fun i => .moveSkipped rover (i + 1)
          (plan.journey .ignore plateau rover i).pose) ∧
      (∀ event ∈ (Outcome.ofPlan .ignore plateau rover plan).events, event.level = .trace) ∧
      places.length = (plan.outcome .ignore plateau rover).skipped ∧
      places.Pairwise (· < ·) ∧
      (∀ i, i ∈ places ↔ plan.commands[i]? = some .move ∧
        ¬ ((plan.journey .ignore plateau rover i).pose.walker.follow .move).On plateau) ∧
      ∃ pose, (plan.outcome .ignore plateau rover).result = .ok pose ∧
        ∀ policy, (plan.without places).outcome policy plateau rover = .unhindered rover pose) ∧
    ∀ policy, policy ≠ .ignore → (Outcome.ofPlan policy plateau rover plan).events = [] := by
  refine ⟨?_, fun policy hpolicy => ?_⟩
  · obtain ⟨places, h⟩ := Journey.exists_leftOut plateau rover plan.start plan.commands
    have hevents : (Outcome.ofPlan .ignore plateau rover plan).events =
        places.map fun i => .moveSkipped rover (i + 1)
          (plan.journey .ignore plateau rover i).pose := h.reported
    refine ⟨places, hevents, fun event hmem => ?_, h.skipped.symm, h.increasing, h.mem_iff, ?_⟩
    · rw [hevents] at hmem
      obtain ⟨i, -, rfl⟩ := List.mem_map.1 hmem
      rfl
    · rw [outcome_eq]
      exact ⟨_, Journey.result_outcome Journey.ending_ignoring, outcome_without h⟩
  · show (Journey.drive policy plateau rover (.start plan.start) plan.commands).reported.reverse = []
    rw [Journey.reported_drive hpolicy]
    rfl

/-- A rover that looks for the plateau from beside it, and would fall off behind it. -/
theorem events_tell_left_out_beside :
    let plateau : Plateau := { maxX := 0, maxY := 1 }
    let plan : Plan :=
      { start := { position := { x := 1, y := 0 }, heading := .west }
        commands := [.right, .move, .left, .move, .move] }
    let final : Pose := { position := { x := 0, y := 0 }, heading := .west }
    ¬ plateau.Contains plan.start.position ∧
      (plan.outcome .ignore plateau 9).skipped = 2 ∧
      (Outcome.ofPlan .stop plateau 9 plan).events = [] ∧
      ∃ places : List Nat, places.length = 2 ∧ 1 ∈ places ∧ 4 ∈ places ∧
        ∀ policy, (plan.without places).outcome policy plateau 9 = .unhindered 9 final := by
  intro plateau plan final
  have hskipped : (plan.outcome .ignore plateau 9).skipped = 2 := by decide +kernel
  have hresult : (plan.outcome .ignore plateau 9).result = .ok final := by decide +kernel
  obtain ⟨⟨places, -, -, hlength, -, hmem, pose, hr, hsame⟩, hsilent⟩ :=
    events_tell_left_out plateau 9 plan
  rw [hresult] at hr
  cases hr
  exact ⟨by decide, hskipped, hsilent .stop (by decide), places, hlength.trans hskipped,
    (hmem 1).2 ⟨rfl, by decide +kernel⟩, (hmem 4).2 ⟨rfl, by decide +kernel⟩, hsame⟩

end Plan
end RoverMission

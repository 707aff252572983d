/-
Single steps around the torus.

A step adds a unit to one coordinate and takes both around (`toInt_wrapStep`), so from
anywhere it leads onto the plateau and nothing is lost when the results become coordinates
again.  A cell of the plateau is told by its residues (`eq_of_congruent`).  Steps can therefore
be undone, exchanged and counted like additions of residues, and a step that meets no edge
is the one that a rover without a plateau makes.
-/
import Mathlib.Data.Int.ModEq
import Mathlib.Logic.Function.Iterate
import RoverMission.Proofs.Ground

namespace RoverMission

theorem Position.eq_of_toInt {p q : Position} (hx : p.x.toInt = q.x.toInt)
    (hy : p.y.toInt = q.y.toInt) : p = q := by
  obtain ⟨x, y⟩ := p
  obtain ⟨x', y'⟩ := q
  rw [Position.mk.injEq]
  exact ⟨Int32.toInt_inj.1 hx, Int32.toInt_inj.1 hy⟩

namespace Plateau

variable {plateau : Plateau} {p q : Position}

/-! ## One step -/

/-- The coordinates of a step are exact residues. -/
theorem toInt_wrapStep (h : plateau.Sound) (p : Position) (d : Heading) :
    (plateau.wrapStep p d).x.toInt = (p.x.toInt + d.step.1) % plateau.width ∧
      (plateau.wrapStep p d).y.toInt = (p.y.toInt + d.step.2) % plateau.height := by
  let pose : Pose := { position := p, heading := d }
  have hw := Walker.walker_pose (wrapped_on h (pose.walker.follow .move))
  rw [← moveTo_wrapStep] at hw
  exact ⟨congrArg Walker.x hw, congrArg Walker.y hw⟩

theorem contains_iff_toInt :
    plateau.Contains p ↔
      (0 ≤ p.x.toInt ∧ p.x.toInt < plateau.width) ∧ 0 ≤ p.y.toInt ∧ p.y.toInt < plateau.height :=
  contains_iff (p := { position := p, heading := .north })

theorem contains_wrapStep (h : plateau.Sound) (p : Position) (d : Heading) :
    plateau.Contains (plateau.wrapStep p d) := by
  obtain ⟨hx, hy⟩ := toInt_wrapStep h p d
  have hw := width_pos h
  have hh := height_pos h
  rw [contains_iff_toInt, hx, hy]
  exact ⟨⟨Int.emod_nonneg _ (by omega), Int.emod_lt_of_pos _ hw⟩,
    Int.emod_nonneg _ (by omega), Int.emod_lt_of_pos _ hh⟩

/-! ## Residues -/

/-- Positions that differ by whole turns around the torus from given integers. -/
def Congruent (plateau : Plateau) (p : Position) (x y : Int) : Prop :=
  p.x.toInt ≡ x [ZMOD plateau.width] ∧ p.y.toInt ≡ y [ZMOD plateau.height]

theorem congruent_refl (plateau : Plateau) (p : Position) :
    plateau.Congruent p p.x.toInt p.y.toInt := ⟨Int.ModEq.refl _, Int.ModEq.refl _⟩

/-- A step adds its unit to the residues. -/
theorem congruent_wrapStep (h : plateau.Sound) {x y : Int} (hp : plateau.Congruent p x y)
    (d : Heading) :
    plateau.Congruent (plateau.wrapStep p d) (x + d.step.1) (y + d.step.2) := by
  obtain ⟨hx, hy⟩ := toInt_wrapStep h p d
  rw [Congruent, hx, hy]
  exact ⟨(Int.mod_modEq _ _).trans (hp.1.add_right _), (Int.mod_modEq _ _).trans (hp.2.add_right _)⟩

/-- Cells of the plateau with the same residues are the same. -/
theorem eq_of_congruent (hp : plateau.Contains p) (hq : plateau.Contains q) {x y : Int}
    (hpc : plateau.Congruent p x y) (hqc : plateau.Congruent q x y) : p = q := by
  obtain ⟨⟨hpx, hpx'⟩, hpy, hpy'⟩ := contains_iff_toInt.1 hp
  obtain ⟨⟨hqx, hqx'⟩, hqy, hqy'⟩ := contains_iff_toInt.1 hq
  have hx : p.x.toInt % plateau.width = q.x.toInt % plateau.width := hpc.1.trans hqc.1.symm
  have hy : p.y.toInt % plateau.height = q.y.toInt % plateau.height := hpc.2.trans hqc.2.symm
  rw [Int.emod_eq_of_lt hpx hpx', Int.emod_eq_of_lt hqx hqx'] at hx
  rw [Int.emod_eq_of_lt hpy hpy', Int.emod_eq_of_lt hqy hqy'] at hy
  exact Position.eq_of_toInt hx hy

/-- A step to a cell of the plateau meets no edge. -/
theorem wrapStep_of_ahead? {d : Heading} (ha : p.ahead? d = some q) (hq : plateau.Contains q) :
    plateau.wrapStep p d = q := by
  have hs := sound_of_contains hq
  obtain ⟨hx, hy⟩ := Position.toInt_of_ahead? ha
  have hstep := congruent_wrapStep hs (congruent_refl plateau p) d
  rw [← hx, ← hy] at hstep
  exact eq_of_congruent (contains_wrapStep hs p d) hq hstep (congruent_refl plateau q)

theorem wrapStep_opposite (hp : plateau.Contains p) (d : Heading) :
    plateau.wrapStep (plateau.wrapStep p d) d.opposite = p := by
  have hs := sound_of_contains hp
  have hback := congruent_wrapStep hs
    (congruent_wrapStep hs (congruent_refl plateau p) d) d.opposite
  simp only [Heading.step_opposite, Int.add_neg_cancel_right] at hback
  exact eq_of_congruent (contains_wrapStep hs _ _) hp hback (congruent_refl plateau p)

theorem wrapStep_comm (h : plateau.Sound) (p : Position) (d d' : Heading) :
    plateau.wrapStep (plateau.wrapStep p d) d' = plateau.wrapStep (plateau.wrapStep p d') d := by
  have hone := congruent_wrapStep h (congruent_wrapStep h (congruent_refl plateau p) d) d'
  have hother := congruent_wrapStep h (congruent_wrapStep h (congruent_refl plateau p) d') d
  rw [Int.add_right_comm p.x.toInt, Int.add_right_comm p.y.toInt] at hother
  exact eq_of_congruent (contains_wrapStep h _ _) (contains_wrapStep h _ _) hone hother

/-! ## Many steps -/

theorem contains_iterate_wrapStep (hp : plateau.Contains p) (d : Heading) (n : Nat) :
    plateau.Contains ((plateau.wrapStep · d)^[n] p) := by
  cases n with
  | zero => exact hp
  | succ n =>
    rw [Function.iterate_succ_apply']
    exact contains_wrapStep (sound_of_contains hp) _ d

theorem congruent_iterate_wrapStep (h : plateau.Sound) (p : Position) (d : Heading) (n : Nat) :
    plateau.Congruent ((plateau.wrapStep · d)^[n] p) (p.x.toInt + n * d.step.1)
      (p.y.toInt + n * d.step.2) := by
  induction n with
  | zero => simpa using congruent_refl plateau p
  | succ n ih =>
    have hstep := congruent_wrapStep h ih d
    rw [Function.iterate_succ_apply']
    simpa [add_mul, Int.add_assoc] using hstep

/-- Only whole turns around the torus lead back to the residues of a position. -/
theorem congruent_add_iff (a b : Int) :
    plateau.Congruent p (p.x.toInt + a) (p.y.toInt + b) ↔
      plateau.width ∣ a ∧ plateau.height ∣ b := by
  rw [Congruent, Int.modEq_iff_dvd, Int.modEq_iff_dvd, add_sub_cancel_left, add_sub_cancel_left]

theorem iterate_wrapStep_eq_iff (hp : plateau.Contains p) (d : Heading) (n : Nat) :
    (plateau.wrapStep · d)^[n] p = p ↔
      plateau.width ∣ n * d.step.1 ∧ plateau.height ∣ n * d.step.2 := by
  have hc := congruent_iterate_wrapStep (sound_of_contains hp) p d n
  rw [← congruent_add_iff (p := p)]
  constructor
  · intro he
    rwa [he] at hc
  · intro hturns
    exact eq_of_congruent (contains_iterate_wrapStep hp d n) hp hc hturns

/-- A step across the edges of a plateau is a step on a torus, for the largest plateaus and
from positions beside the plateau too.  It leads onto the plateau, its coordinates are the
exact sums taken around the torus, and where no edge is in the way it is a step like any
other.  On the plateau steps are undone by the opposite heading and may be exchanged, and
steps eastward or northward lead back after as many as there are columns or rows, after
multiples of these, and never else. -/
theorem wrapStep_on_torus {x y : Coordinate} {plateau : Plateau}
    (h : ofCorner? x y = some plateau) :
    (∀ (p : Position) (d : Heading),
      plateau.Contains (plateau.wrapStep p d) ∧
      (plateau.wrapStep p d).x.toInt = (p.x.toInt + d.step.1) % (plateau.maxX.toInt + 1) ∧
      (plateau.wrapStep p d).y.toInt = (p.y.toInt + d.step.2) % (plateau.maxY.toInt + 1) ∧
      ∀ q, p.ahead? d = some q → plateau.Contains q → plateau.wrapStep p d = q) ∧
    ∀ p : Position, plateau.Contains p →
      (∀ d : Heading, plateau.wrapStep (plateau.wrapStep p d) d.opposite = p) ∧
      (∀ d d' : Heading, plateau.wrapStep (plateau.wrapStep p d) d' =
        plateau.wrapStep (plateau.wrapStep p d') d) ∧
      ∀ n : Nat,
        ((plateau.wrapStep · .east)^[n] p = p ↔ plateau.maxX.toInt + 1 ∣ n) ∧
        ((plateau.wrapStep · .north)^[n] p = p ↔ plateau.maxY.toInt + 1 ∣ n) := by
  have hs := sound_of_ofCorner? h
  constructor
  · intro p d
    obtain ⟨hx, hy⟩ := toInt_wrapStep hs p d
    exact ⟨contains_wrapStep hs p d, hx, hy, fun q => wrapStep_of_ahead?⟩
  · intro p hp
    refine ⟨wrapStep_opposite hp, wrapStep_comm hs p, fun n => ?_⟩
    have heast := iterate_wrapStep_eq_iff hp .east n
    have hnorth := iterate_wrapStep_eq_iff hp .north n
    simp only [Heading.step, Int.mul_one, Int.mul_zero, dvd_zero, and_true, true_and]
      at heast hnorth
    exact ⟨heast, hnorth⟩

/-- The widest plateau, one row high: a step from far beside it, and the steps once around
it. -/
theorem wrapStep_on_torus_widest :
    let plateau : Plateau := { maxX := 2147483647, maxY := 0 }
    let beside : Position := { x := -2147483648, y := 5 }
    let corner : Position := { x := 2147483647, y := 0 }
    ofCorner? 2147483647 0 = some plateau ∧ plateau.Contains corner ∧
      (plateau.wrapStep beside .west).x.toInt = 2147483647 ∧
      (plateau.wrapStep beside .west).y.toInt = 0 ∧
      plateau.wrapStep (plateau.wrapStep corner .east) .west = corner ∧
      (plateau.wrapStep · .east)^[2147483648] corner = corner ∧
      (plateau.wrapStep · .east)^[2147483647] corner ≠ corner := by
  intro plateau beside corner
  have hcorner : plateau.Contains corner := by decide
  have hbuilt : ofCorner? 2147483647 0 = some plateau := rfl
  obtain ⟨hstep, hplateau⟩ := wrapStep_on_torus hbuilt
  obtain ⟨-, hx, hy, -⟩ := hstep beside .west
  obtain ⟨hback, -, hround⟩ := hplateau corner hcorner
  exact ⟨hbuilt, hcorner, hx.trans (by decide), hy.trans (by decide), hback .east,
    (hround 2147483648).1.2 (by decide), mt (hround 2147483647).1.1 (by decide)⟩

end Plateau
end RoverMission

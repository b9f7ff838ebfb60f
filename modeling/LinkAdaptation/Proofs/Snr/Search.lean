import LinkAdaptation.Proofs.Binary64.Order
import LinkAdaptation.Snr.Search
/-!
# Answers of the search

What the search for the least SNR promises of its answer, whatever the curve.  The invariant of the bisection is one
sentence: at the upper end of the bracket the error is not above the target.  Where error and target can be compared the
answer therefore meets the target; a curve that is undefined on the way can lead to an answer at which it is undefined.
-/
namespace LinkAdaptation
namespace Search

open Binary64 (lt_or_le not_lt_of_le isNaN_of_le)

variable {error : Rat → Float} {target : Float}

namespace Bracket

theorem halve_not_above {b : Bracket} (hb : ¬ target < error b.high) :
    ¬ target < error (b.halve error target).high := by
  unfold halve
  split
  · exact hb
  · assumption

/-- **At the upper end of every bracket of a search the error is not above the target.** -/
theorem refine_not_above (steps : Nat) {b : Bracket} (hb : ¬ target < error b.high) :
    ¬ target < error (b.refine error target steps).high := by
  induction steps generalizing b with
  | zero => exact hb
  | succ steps ih =>
    unfold refine
    split
    · exact hb
    · exact ih (halve_not_above hb)

end Bracket

variable {scale : Scale} {curve : Float → Float} {snr : Float}

/-- The search in one look at each end of the axis. -/
theorem leastSnr_eq : leastSnr scale curve target =
    if curve (scale 10) ≤ target then
      if curve (scale (-10)) ≤ target then some (scale (-10))
      else some (scale (Bracket.whole.refine (fun h => curve (scale h)) target maxSteps).high)
    else none :=
  ite_not _ _ _

theorem leastSnr_eq_none_iff : leastSnr scale curve target = none ↔ ¬ curve (scale 10) ≤ target := by
  rw [leastSnr_eq]
  by_cases hhigh : curve (scale 10) ≤ target
  · rw [if_pos hhigh]
    split <;> simp [hhigh]
  · simp [hhigh]

theorem high_le_of_leastSnr (h : leastSnr scale curve target = some snr) : curve (scale 10) ≤ target := by
  by_contra hmiss
  rw [leastSnr_eq_none_iff.2 hmiss] at h
  cases h

theorem leastSnr_eq_low (hhigh : curve (scale 10) ≤ target) (hlow : curve (scale (-10)) ≤ target) :
    leastSnr scale curve target = some (scale (-10)) := by
  rw [leastSnr_eq, if_pos hhigh, if_pos hlow]

theorem leastSnr_eq_refined (hhigh : curve (scale 10) ≤ target) (hlow : ¬ curve (scale (-10)) ≤ target) :
    leastSnr scale curve target = some (scale (Bracket.whole.refine (fun h => curve (scale h)) target maxSteps).high) := by
  rw [leastSnr_eq, if_pos hhigh, if_neg hlow]

/-- What the search finds stands on the scale, at a point where the error is not above the target. -/
theorem exists_point (h : leastSnr scale curve target = some snr) :
    ∃ p, scale p = snr ∧ ¬ target < curve (scale p) := by
  have hhigh := high_le_of_leastSnr h
  by_cases hlow : curve (scale (-10)) ≤ target
  · rw [leastSnr_eq_low hhigh hlow] at h
    exact ⟨_, Option.some.inj h, not_lt_of_le hlow⟩
  · rw [leastSnr_eq_refined hhigh hlow] at h
    have hnot := @Bracket.refine_not_above (fun p => curve (scale p)) target maxSteps Bracket.whole (not_lt_of_le hhigh)
    exact ⟨_, Option.some.inj h, hnot⟩

/-- **What the search finds meets the target**, on a curve that can be compared with it everywhere on the scale. -/
theorem le_of_leastSnr (hall : ∀ h, target < curve (scale h) ∨ curve (scale h) ≤ target)
    (h : leastSnr scale curve target = some snr) : curve snr ≤ target := by
  obtain ⟨p, rfl, hp⟩ := exists_point h
  exact (hall p).resolve_left hp

/-- **The search never answers an SNR at which the error is above the target**, on any scale, for any curve and for any
target: the error meets the target there or it is undefined.  It answers nothing exactly if the upper end of the axis misses
the target. -/
theorem leastSnr_not_above (scale : Scale) (curve : Float → Float) (target : Float) :
    match leastSnr scale curve target with
    | none => ¬ curve (scale 10) ≤ target
    | some snr =>
      curve (scale 10) ≤ target ∧ ¬ target < curve snr ∧ (curve snr ≤ target ∨ (curve snr).isNaN = true) := by
  cases h : leastSnr scale curve target with
  | none => exact leastSnr_eq_none_iff.1 h
  | some snr =>
    have hhigh := high_le_of_leastSnr h
    obtain ⟨p, rfl, hp⟩ := exists_point h
    refine ⟨hhigh, hp, ?_⟩
    cases hnan : (curve (scale p)).isNaN with
    | true => exact Or.inr rfl
    | false => exact Or.inl ((lt_or_le (isNaN_of_le hhigh).2 hnan).resolve_left hp)

/-! ## A scale of whole decades -/

/-- The powers of ten from `10 ^ (-10)` to `10 ^ 10`, 21 in all: a point stands for that of its integer part. -/
def wholeDecades : Scale := fun h =>
  let steps := min (h.floor + 10).toNat 20
  if steps < 10 then 1.0 / Float.ofNat (10 ^ (10 - steps)) else Float.ofNat (10 ^ (steps - 10))

/-- The bisection takes an undefined error for one that meets the target: on a curve that is undefined from 2 to 500 it
answers an SNR at which the curve is undefined. -/
theorem leastSnr_undefined :
    let curve : Float → Float := fun snr => if snr < 2.0 then 1.0 else if snr < 500.0 then 0.0 / 0.0 else 0.0
    leastSnr wholeDecades curve 0.5 = some 10.0 ∧ ¬ curve 10.0 ≤ 0.5 := by
  decide +kernel

end Search
end LinkAdaptation

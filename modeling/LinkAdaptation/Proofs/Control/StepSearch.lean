import LinkAdaptation.Proofs.Control.ErrorBound
import LinkAdaptation.Proofs.Snr.Bisection
/-!
# Steps found by search

A step curve knows its thresholds, so its model has no need to search.  A search on the success curve all the same would
end just behind the step, at the first point of the bisection's grid that the step is not above (`leastSnr_agrees`).  Two
tables of one device, one with the steps and one with what a search finds, therefore let the same configurations pass at
every SNR outside of that gap.
-/
namespace LinkAdaptation
namespace StepCurve

open Binary64 (lt_or_le le_of_lt not_lt_of_le isNaN_of_lt)
open ErrorModel (bitError searchedOn)

variable {c : StepCurve} {scale : Search.Scale} {target step : Float} {v : TxVector}

/-! ## The error curve of a step -/

theorem bitError_of_step (h : c.threshold? v.mode = some step) (snr : Float) :
    bitError c.chunkSuccess v snr = if step ≤ snr then 0.0 else 1.0 := by
  unfold bitError chunkSuccess
  rw [h]
  dsimp only
  split
  · decide
  · decide

theorem bitError_of_no_step (h : c.threshold? v.mode = none) (snr : Float) : bitError c.chunkSuccess v snr = 1.0 := by
  unfold bitError chunkSuccess
  rw [h]
  dsimp only
  decide

theorem zero_le_of_isProbability (h : Thresholds.isProbability target = true) : 0.0 ≤ target :=
  le_of_lt (of_decide_eq_true (Bool.and_eq_true_iff.1 h).1)

theorem lt_one_of_isProbability (h : Thresholds.isProbability target = true) : target < 1.0 :=
  of_decide_eq_true (Bool.and_eq_true_iff.1 h).2

/-- **The error is above a target exactly below the step.** -/
theorem lt_bitError_iff (htarget : Thresholds.isProbability target = true) (h : c.threshold? v.mode = some step)
    (snr : Float) : target < bitError c.chunkSuccess v snr ↔ ¬ step ≤ snr := by
  rw [bitError_of_step h]
  split
  · rename_i hle
    exact iff_of_false (not_lt_of_le (zero_le_of_isProbability htarget)) (not_not_intro hle)
  · rename_i hle
    exact iff_of_true (lt_one_of_isProbability htarget) hle

/-! ## The answer of a search -/

theorem leastSnr_of_no_step (htarget : Thresholds.isProbability target = true) (h : c.threshold? v.mode = none) :
    (searchedOn scale c.chunkSuccess).leastSnr v target = none := by
  refine Search.leastSnr_eq_none_iff.2 ?_
  rw [bitError_of_no_step h]
  exact fun hle => not_lt_of_le hle (lt_one_of_isProbability htarget)

/-- **A search ends at the first point of the grid that the step is not above.** -/
theorem exists_gridPoint (htarget : Thresholds.isProbability target = true) (h : c.threshold? v.mode = some step)
    (hlow : ¬ step ≤ scale (-10)) (hhigh : step ≤ scale 10) :
    ∃ k < 2 ^ 45, (searchedOn scale c.chunkSuccess).leastSnr v target = some (scale (Search.gridPoint (k + 1))) ∧
      step ≤ scale (Search.gridPoint (k + 1)) ∧ ¬ step ≤ scale (Search.gridPoint k) := by
  have hmeets : bitError c.chunkSuccess v (scale 10) ≤ target := by
    rw [bitError_of_step h, if_pos hhigh]
    exact zero_le_of_isProbability htarget
  obtain ⟨k, hk, hanswer, habove, hbelow⟩ := Search.exists_crossing hmeets ((lt_bitError_iff htarget h _).2 hlow)
  exact ⟨k, hk, hanswer, not_not.1 (mt (lt_bitError_iff htarget h _).2 habove), (lt_bitError_iff htarget h _).1 hbelow⟩

/-! ## The tables -/

/-- Models of which each knows one threshold for all configurations of a mode let a configuration pass apart exactly
between the two thresholds. -/
theorem isBelow_ne_iff {model model' : ErrorModel} {d : Device} {t t' : Thresholds} {x y : Float}
    (hx : ∀ w : TxVector, w.mode = v.mode → model.leastSnr w target = some x)
    (hy : ∀ w : TxVector, w.mode = v.mode → model'.leastSnr w target = some y) (hxy : x ≤ y)
    (ht : Thresholds.build d model target = .ok t) (ht' : Thresholds.build d model' target = .ok t') (snr : Float) :
    t.isBelow snr v ≠ t'.isBelow snr v ↔ (t.lookup? v).isSome = true ∧ x < snr ∧ snr ≤ y := by
  have hlookup := Thresholds.lookup?_of_build ht v
  have hlookup' := Thresholds.lookup?_of_build ht' v
  cases hfirst : d.vectors.find? (·.key = v.key) with
  | none =>
    rw [hfirst] at hlookup hlookup'
    simp [Thresholds.isBelow, hlookup, hlookup']
  | some w =>
    have hkey : w.key = v.key := by simpa using List.find?_some hfirst
    have hmode : w.mode = v.mode := congrArg ThresholdKey.mode hkey
    rw [hfirst, Option.bind_some, hx w hmode] at hlookup
    rw [hfirst, Option.bind_some, hy w hmode] at hlookup'
    simp only [Thresholds.isBelow, hlookup, hlookup', Option.any_some, Option.isSome_some, true_and]
    have hnotNumber := (Binary64.isNaN_of_le hxy).2
    constructor
    · intro hne
      by_cases hlt : x < snr
      · refine ⟨hlt, (lt_or_le hnotNumber (isNaN_of_lt hlt).2).resolve_left fun hlt' => hne ?_⟩
        simp [hlt, hlt']
      · refine absurd ?_ hne
        have hlt' : ¬ y < snr := fun h => hlt (Binary64.lt_of_le_of_lt hxy h)
        simp [hlt, hlt']
    · rintro ⟨hlt, hle⟩
      simp [hlt, not_lt_of_le hle]

/-- **Knowing the step and searching for it agree**, for any target and on any scale that is a number on the grid: where the
scale reaches the step, the search answers the point of its grid that the step is not above while it is above the point
before, and tables built either way let a configuration pass apart only behind the step and up to that point; a mode without
a step has no threshold either way. -/
theorem leastSnr_agrees (hscale : ∀ k ≤ 2 ^ 45, (scale (Search.gridPoint k)).isNaN = false)
    (htarget : Thresholds.isProbability target = true) (c : StepCurve) (v : TxVector) :
    (∀ step, c.threshold? v.mode = some step → scale (-10) < step → step ≤ scale 10 →
      c.model.leastSnr v target = some step ∧
      ∃ (k : Nat) (h : Rat), k ≤ 2 ^ 45 ∧ h = -10 + k * (20 / 2 ^ 45) ∧
        (searchedOn scale c.chunkSuccess).leastSnr v target = some (scale h) ∧
        step ≤ scale h ∧ scale (h - 20 / 2 ^ 45) < step ∧
        ∀ d t t', Thresholds.build d c.model target = .ok t →
          Thresholds.build d (searchedOn scale c.chunkSuccess) target = .ok t' →
          ∀ snr, t.isBelow snr v ≠ t'.isBelow snr v ↔ (t.lookup? v).isSome = true ∧ step < snr ∧ snr ≤ scale h) ∧
    (c.threshold? v.mode = none →
      c.model.leastSnr v target = none ∧ (searchedOn scale c.chunkSuccess).leastSnr v target = none) := by
  refine ⟨fun step hstep hlow hhigh => ⟨hstep, ?_⟩, fun hnone => ⟨hnone, leastSnr_of_no_step htarget hnone⟩⟩
  have hlow' : ¬ step ≤ scale (-10) := fun h => not_lt_of_le h hlow
  obtain ⟨k, hk, hanswer, hle, hbefore⟩ := exists_gridPoint htarget hstep hlow' hhigh
  refine ⟨k + 1, Search.gridPoint (k + 1), hk, rfl, hanswer, hle, ?_, fun d t t' ht ht' snr => ?_⟩
  · rw [Search.gridPoint_succ_sub]
    exact (lt_or_le (hscale k (Nat.le_of_lt hk)) (isNaN_of_lt hlow).2).resolve_right hbefore
  · have hknown : ∀ w : TxVector, w.mode = v.mode → c.model.leastSnr w target = some step := by
      intro w hw
      rw [← hstep, ← hw]
      rfl
    have hfound : ∀ w : TxVector, w.mode = v.mode →
        (searchedOn scale c.chunkSuccess).leastSnr w target = some (scale (Search.gridPoint (k + 1))) := by
      intro w hw
      rw [← hanswer]
      show Search.leastSnr scale (bitError c.chunkSuccess w) target =
        Search.leastSnr scale (bitError c.chunkSuccess v) target
      congr 1
      funext x
      rw [bitError, bitError, chunkSuccess, chunkSuccess, hw]
    exact isBelow_ne_iff hknown hfound hle ht ht' snr

/-- Steps at 2 and at 20, found on the scale of whole decades at 10 and at 100. -/
theorem leastSnr_agrees_wholeDecades :
    let near := Catalog.slowestOfdm
    let far := Catalog.slowestDsss
    let c := (StepCurve.empty.set far 2.0).set near 20.0
    let v := TxVector.legacy near
    let d := Device.legacy [far, near]
    let scale := Search.wholeDecades
    ∃ t t', (∀ k ≤ 2 ^ 45, (scale (Search.gridPoint k)).isNaN = false) ∧ c.threshold? v.mode = some 20.0 ∧
      scale (-10) < 20.0 ∧ 20.0 ≤ scale 10 ∧ c.model.leastSnr v 0.5 = some 20.0 ∧
      Thresholds.build d c.model 0.5 = .ok t ∧ Thresholds.build d (searchedOn scale c.chunkSuccess) 0.5 = .ok t' ∧
      t.lookup? (.legacy far) = some 2.0 ∧ t'.lookup? (.legacy far) = some 10.0 ∧
      ∃ (k : Nat) (h : Rat), k ≤ 2 ^ 45 ∧ h = -10 + k * (20 / 2 ^ 45) ∧ scale h = 100.0 ∧
        (searchedOn scale c.chunkSuccess).leastSnr v 0.5 = some (scale h) ∧ 20.0 ≤ scale h ∧
        scale (h - 20 / 2 ^ 45) < 20.0 ∧
        ∀ snr, t.isBelow snr v ≠ t'.isBelow snr v ↔ (t.lookup? v).isSome = true ∧ 20.0 < snr ∧ snr ≤ scale h := by
  intro near far c v d scale
  have hscale : ∀ k ≤ 2 ^ 45, (scale (Search.gridPoint k)).isNaN = false := fun k hk =>
    (Binary64.isNaN_of_le (Search.ascending_wholeDecades k k (Nat.le_refl k) hk)).1
  have hfar : (searchedOn scale c.chunkSuccess).leastSnr (.legacy far) 0.5 = some 10.0 := by decide +kernel
  have hfound : (searchedOn scale c.chunkSuccess).leastSnr v 0.5 = some 100.0 := by decide +kernel
  have ht : Thresholds.build d c.model 0.5 = .ok ⟨[(.legacy far, 2.0), (v, 20.0)], 0.5⟩ := rfl
  have ht' : Thresholds.build d (searchedOn scale c.chunkSuccess) 0.5 = .ok ⟨[(.legacy far, 10.0), (v, 100.0)], 0.5⟩ := by
    refine Thresholds.build_eq_ok_iff.2 ⟨by decide, Attempt.mapM_eq_ok_iff.2 ?_, rfl⟩
    exact .cons (Thresholds.solve_eq_ok_iff.2 ⟨rfl, hfar, by decide, by decide⟩)
      (.cons (Thresholds.solve_eq_ok_iff.2 ⟨rfl, hfound, by decide, by decide⟩) .nil)
  have hlow : scale (-10) < 20.0 := by decide +kernel
  have hhigh : (20.0 : Float) ≤ scale 10 := by decide +kernel
  obtain ⟨hknown, k, h, hk, hh, hanswer, hle, hbefore, htables⟩ :=
    (leastSnr_agrees hscale (by decide : Thresholds.isProbability 0.5 = true) c v).1 20.0 rfl hlow hhigh
  exact ⟨_, _, hscale, rfl, hlow, hhigh, hknown, ht, ht', rfl, rfl, k, h, hk, hh,
    Option.some.inj (hanswer.symm.trans hfound), hanswer, hle, hbefore, htables d _ _ ht ht'⟩

end StepCurve
end LinkAdaptation

import LinkAdaptation.Proofs.Control.Terms
/-!
# Better conditions

Lower thresholds and a higher SNR take nothing away from what may be sent in a generation (`Thresholds.eligible_mono`).  So
a search finds something wherever it did before, and what it finds is no worse (`Selector.selectData_mono`).  Rates compare
within one generation only: a newer generation is taken at once, also where an older one would be faster.
-/
namespace LinkAdaptation

variable {d : Device} {t t' : Thresholds} {peer : Capabilities} {snr snr' : Float}

/-! ## The order of choices -/

/-- The place of a generation among those that are tried: HE is the first one and legacy the last. -/
def Generation.turn : Generation → Nat
  | .he => 0
  | .vht => 1
  | .ht => 2
  | .legacy => 3

/-- **A configuration is no worse than another one**: its generation is tried earlier, or it is the same one and the rate
is no lower. -/
def TxVector.NoWorse (v w : TxVector) : Prop :=
  v.mode.generation.turn < w.mode.generation.turn ∨ v.mode.generation = w.mode.generation ∧ w.dataRate ≤ v.dataRate

theorem Device.pairwise_applicable (d : Device) (peer : Capabilities) :
    (d.applicable peer).Pairwise fun g g' => g.turn < g'.turn := by
  unfold applicable
  split
  · decide
  split
  · decide
  split
  · decide
  · decide

namespace Thresholds

/-- **No threshold is higher than in another table.** -/
def NowhereAbove (t' t : Thresholds) : Prop :=
  ∀ v x y, t.lookup? v = some x → t'.lookup? v = some y → y ≤ x

/-- **A model that asks for no more leads to thresholds that are nowhere above.** -/
theorem nowhereAbove_of_build {model model' : ErrorModel} {target target' : Float} (ht : build d model target = .ok t)
    (ht' : build d model' target' = .ok t')
    (hle : ∀ w ∈ d.vectors, ∀ x ∈ model.leastSnr w target, ∀ y ∈ model'.leastSnr w target', y ≤ x) :
    t'.NowhereAbove t := by
  intro v x y hx hy
  rw [lookup?_of_build ht] at hx
  rw [lookup?_of_build ht'] at hy
  obtain ⟨w, hw, hx⟩ := Option.bind_eq_some_iff.1 hx
  rw [hw] at hy
  exact hle w (List.mem_of_find?_eq_some hw) x hx y hy

theorem dataRate_le_of_isFirstBest {vs : List TxVector} {v w : TxVector} (hv : IsFirstBest isFaster vs v) (hw : w ∈ vs) :
    w.dataRate ≤ v.dataRate := by
  obtain ⟨before, after, rfl, hbefore, hafter⟩ := hv
  rcases List.mem_append.1 hw with hw | hw
  · exact Nat.le_of_lt (of_decide_eq_true (hbefore w hw))
  rcases List.mem_cons.1 hw with rfl | hw
  · exact Nat.le_refl _
  · exact Nat.le_of_not_lt (of_decide_eq_false (hafter w hw))

theorem eligible_mono (hd : d.Faultless) (ht' : t'.Covers d) (hle : t'.NowhereAbove t) (hsnr : snr ≤ snr')
    {g : Generation} {v : TxVector} (hv : v ∈ t.eligible d peer snr g) : v ∈ t'.eligible d peer snr' g := by
  obtain ⟨hcandidate, hbelow⟩ := mem_eligible.1 hv
  obtain ⟨x, hx, hlt⟩ := isBelow_iff.1 hbelow
  obtain ⟨y, hy⟩ := Option.isSome_iff_exists.1 (ht'.candidate hd hcandidate)
  have hlt' : y < snr' := Binary64.lt_of_lt_of_le (Binary64.lt_of_le_of_lt (hle v x y hx hy) hlt) hsnr
  exact mem_eligible.2 ⟨hcandidate, isBelow_iff.2 ⟨y, hy, hlt'⟩⟩

theorem choose_mono (hd : d.Faultless) (ht' : t'.Covers d) (hle : t'.NowhereAbove t) (hsnr : snr ≤ snr') {v : TxVector}
    (hv : t.choose d peer snr = some v) : ∃ v', t'.choose d peer snr' = some v' ∧ v'.NoWorse v := by
  obtain ⟨earlier, g, later, happlicable, -, hbest⟩ := choose_eq_some hv
  have hstill := eligible_mono hd ht' hle hsnr hbest.mem
  cases hv' : t'.choose d peer snr' with
  | none =>
    have hnothing := choose_eq_none_iff.1 hv' g (by rw [happlicable]; simp)
    rw [hnothing] at hstill
    cases hstill
  | some v' =>
    refine ⟨v', rfl, ?_⟩
    obtain ⟨earlier', g', later', happlicable', hearlier', hbest'⟩ := choose_eq_some hv'
    have hgeneration := generation_of_mem_eligible hbest.mem
    have hgeneration' := generation_of_mem_eligible hbest'.mem
    have hmem : g ∈ earlier' ++ g' :: later' := by rw [← happlicable', happlicable]; simp
    rcases List.mem_append.1 hmem with hg | hg
    -- What could be sent in worse conditions still can, so no generation after its own is chosen from.
    · rw [hearlier' g hg] at hstill
      cases hstill
    rcases List.mem_cons.1 hg with rfl | hg
    · exact Or.inr ⟨hgeneration'.trans hgeneration.symm, dataRate_le_of_isFirstBest hbest' hstill⟩
    -- A generation that is tried earlier may have something by now, which can be slower.
    · have horder := d.pairwise_applicable peer
      rw [happlicable', List.pairwise_append] at horder
      have hturn := List.rel_of_pairwise_cons horder.2.1 hg
      exact Or.inl (by rw [hgeneration, hgeneration']; exact hturn)

end Thresholds

namespace Selector

/-- **A search has found something exactly if it is not counted as a fallback.** -/
theorem choose_eq_some_iff (hd : d.Faultless) (ht : t.Covers d) (observers : Observers) {st : Station}
    (hst : st.isCacheValid = false) {v : TxVector} :
    t.choose d st.capabilities st.observed = some v ↔ ∃ chosen, selectData ⟨d, t, observers⟩ st = .ok chosen ∧
      chosen.station.counters.fallbacks = st.counters.fallbacks ∧ chosen.vector = v := by
  rw [selectData_of_search hd ht observers (Station.reusable?_eq_none_iff.2 hst)]
  cases t.choose d st.capabilities st.observed with
  | none =>
    constructor
    · rintro ⟨⟩
    · rintro ⟨chosen, hchosen, hfound, -⟩
      cases hchosen
      exact absurd hfound (Nat.succ_ne_self _)
  | some w =>
    dsimp only
    rw [adopt_eq]
    constructor
    · rintro ⟨⟩
      exact ⟨_, rfl, rfl, rfl⟩
    · rintro ⟨chosen, hchosen, -, rfl⟩
      cases hchosen
      rfl

/-- **Better conditions never lead to a worse search**: where a data selection finds something, one with lower thresholds
for the same device and a higher SNR finds something too, of the same generation or of one that is tried earlier, and
within the same generation it is no slower. -/
theorem selectData_mono {model model' : ErrorModel} {target target' : Float} (hd : d.fault? = none)
    (ht : Thresholds.build d model target = .ok t) (ht' : Thresholds.build d model' target' = .ok t')
    (hle : t'.NowhereAbove t) (observers observers' : Observers) {st st' : Station} (hst : st.isCacheValid = false)
    (hst' : st'.isCacheValid = false) (hpeer : st'.capabilities = st.capabilities) (hsnr : st.observed ≤ st'.observed)
    {chosen : Selection} (hchosen : selectData ⟨d, t, observers⟩ st = .ok chosen)
    (hfound : chosen.station.counters.fallbacks = st.counters.fallbacks) :
    ∃ chosen', selectData ⟨d, t', observers'⟩ st' = .ok chosen' ∧
      chosen'.station.counters.fallbacks = st'.counters.fallbacks ∧ chosen'.vector.NoWorse chosen.vector := by
  have hfaultless := (Device.fault?_eq_none_iff d).1 hd
  have hcovers := Thresholds.covers_of_build ht
  have hcovers' := Thresholds.covers_of_build ht'
  have hchoice := (choose_eq_some_iff hfaultless hcovers observers hst).2 ⟨chosen, hchosen, hfound, rfl⟩
  obtain ⟨v', hv', hworse⟩ := Thresholds.choose_mono hfaultless hcovers' hle hsnr hchoice
  rw [← hpeer] at hv'
  obtain ⟨chosen', hchosen', hfound', rfl⟩ := (choose_eq_some_iff hfaultless hcovers' observers' hst').1 hv'
  exact ⟨chosen', hchosen', hfound', hworse⟩

/-- Above a lower threshold an HE MCS takes the place of a legacy mode that is faster. -/
theorem selectData_mono_slowerGeneration :
    let fast := Mode.ofdmRate .ofdm 7 54 64 .threeQuarters
    let d : Device := { Device.legacy [Catalog.slowestOfdm, fast, Mode.mcs .he 0] with he := true }
    let curve := (StepCurve.empty.set Catalog.slowestOfdm 1.0).set fast 2.0
    let st : Station := { Station.fresh (.locallyAdministered 1) d.toCapabilities with observed := 2.5 }
    let st' : Station := { st with observed := 4.0 }
    ∃ t t' chosen chosen', d.fault? = none ∧ Thresholds.build d (curve.set (Mode.mcs .he 0) 3.5).model 0.5 = .ok t ∧
      Thresholds.build d (curve.set (Mode.mcs .he 0) 3.0).model 0.5 = .ok t' ∧ t'.NowhereAbove t ∧
      st.isCacheValid = false ∧ st'.isCacheValid = false ∧ st.observed ≤ st'.observed ∧
      selectData ⟨d, t, {}⟩ st = .ok chosen ∧ chosen.station.counters.fallbacks = st.counters.fallbacks ∧
      selectData ⟨d, t', {}⟩ st' = .ok chosen' ∧ chosen'.station.counters.fallbacks = st'.counters.fallbacks ∧
      chosen'.vector.NoWorse chosen.vector ∧ chosen'.vector.dataRate < chosen.vector.dataRate := by
  intro fast d curve st st'
  let step : Float → TxVector → Float := fun x v => if v.mode = fast then 2.0 else if v.mode.isMcs then x else 1.0
  let table : Float → Thresholds := fun x => ⟨(distinctKeys d.vectors).map fun v => (v, step x v), 0.5⟩
  have hd : d.fault? = none := rfl
  have ht : Thresholds.build d (curve.set (Mode.mcs .he 0) 3.5).model 0.5 = .ok (table 3.5) := rfl
  have ht' : Thresholds.build d (curve.set (Mode.mcs .he 0) 3.0).model 0.5 = .ok (table 3.0) := rfl
  have hle : (table 3.0).NowhereAbove (table 3.5) := Thresholds.nowhereAbove_of_build ht ht' (by decide +kernel)
  have hst : st.isCacheValid = false := rfl
  have hst' : st'.isCacheValid = false := rfl
  have hsnr : st.observed ≤ st'.observed := by decide +kernel
  have hchoose : (table 3.5).choose d st.capabilities st.observed = some (.legacy fast) := by decide +kernel
  have hchoose' : (table 3.0).choose d st'.capabilities st'.observed = some ⟨Mode.mcs .he 0, 1, 800, 20⟩ := by
    decide +kernel
  have hfaultless := (Device.fault?_eq_none_iff d).1 hd
  obtain ⟨chosen, hchosen, hfound, hvector⟩ :=
    (choose_eq_some_iff hfaultless (Thresholds.covers_of_build ht) {} hst).1 hchoose
  obtain ⟨chosen', hchosen', hfound', hworse⟩ := selectData_mono hd ht ht' hle {} {} hst hst' rfl hsnr hchosen hfound
  have hvector' := (choose_eq_some_iff hfaultless (Thresholds.covers_of_build ht') {} hst').2
    ⟨chosen', hchosen', hfound', rfl⟩
  rw [hchoose'] at hvector'
  have hslower : chosen'.vector.dataRate < chosen.vector.dataRate := by
    rw [← Option.some.inj hvector', hvector]
    decide
  exact ⟨_, _, chosen, chosen', hd, ht, ht', hle, hst, hst', hsnr, hchosen, hfound, hchosen', hfound', hworse, hslower⟩

end Selector
end LinkAdaptation

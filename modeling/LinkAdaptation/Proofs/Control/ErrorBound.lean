import LinkAdaptation.Proofs.Binary64.Subtraction
import LinkAdaptation.Proofs.Control.Cache
import LinkAdaptation.Proofs.Snr.Search
/-!
# The error that a selection accepts

Thresholds are searched for on the error curve of one bit.  Where that curve is a falling one, a configuration whose
threshold lies below the observed SNR keeps the error of a bit within the target at that SNR, although the threshold may
have been solved for another guard interval than the one it is sent with.
-/
namespace LinkAdaptation

open Binary64 (lt_or_le isNaN_sub isNaN_of_lt)

/-- A success curve of a single bit that rises with the SNR and does not depend on the guard interval. -/
structure Rising (success : TxVector → Float → Nat → Float) : Prop where
  isNaN : ∀ v snr, (success v snr 1).isNaN = false
  mono : ∀ v {x y}, x ≤ y → success v x 1 ≤ success v y 1
  congr : ∀ {v w} snr, v.key = w.key → success v snr 1 = success w snr 1

theorem StepCurve.rising_chunkSuccess (s : StepCurve) : Rising s.chunkSuccess where
  isNaN v snr := by
    unfold chunkSuccess
    cases s.threshold? v.mode with
    | none =>
      dsimp only
      decide
    | some step =>
      dsimp only
      split <;> decide
  mono v {x y} h := by
    unfold chunkSuccess
    cases s.threshold? v.mode with
    | none =>
      dsimp only
      decide
    | some step =>
      dsimp only
      by_cases hx : step ≤ x
      · rw [if_pos hx, if_pos (Binary64.le_trans hx h)]
        decide
      · rw [if_neg hx]
        split <;> decide
  congr {v w} snr h := by
    have hmode : v.mode = w.mode := congrArg ThresholdKey.mode h
    unfold chunkSuccess
    rw [hmode]

variable {d : Device} {t : Thresholds} {scale : Search.Scale} {success : TxVector → Float → Nat → Float} {target : Float}

theorem one_isFinite : (1.0 : Float).isFinite = true := by
  decide

theorem Thresholds.isNaN_of_isProbability (h : isProbability target = true) : target.isNaN = false := by
  have hpos : (0.0 : Float) < target := of_decide_eq_true (Bool.and_eq_true_iff.1 h).1
  exact (isNaN_of_lt hpos).2

namespace ErrorModel

/-- **A threshold that was found meets the target.** -/
theorem bitError_of_leastSnr (hs : Rising success) (htarget : target.isNaN = false) {v : TxVector} {x : Float}
    (h : (searchedOn scale success).leastSnr v target = some x) : bitError success v x ≤ target :=
  Search.le_of_leastSnr (fun p => lt_or_le htarget (isNaN_sub one_isFinite (hs.isNaN v (scale p)))) h

/-- **The error falls with the SNR.** -/
theorem bitError_antitone (hs : Rising success) (v : TxVector) {x y : Float} (h : x ≤ y) :
    bitError success v y ≤ bitError success v x :=
  Binary64.sub_le_sub_left one_isFinite (hs.mono v h)

theorem bitError_congr (hs : Rising success) {v w : TxVector} (h : v.key = w.key) (x : Float) :
    bitError success v x = bitError success w x := by
  rw [bitError, bitError, hs.congr x h]

end ErrorModel

open ErrorModel

/-- **Above its threshold a configuration meets the target**, whatever guard interval the threshold was solved for. -/
theorem Thresholds.bitError_le_of_isBelow (hs : Rising success)
    (ht : build d (searchedOn scale success) target = .ok t) {snr : Float} {v : TxVector}
    (hv : t.isBelow snr v = true) : bitError success v snr ≤ target := by
  obtain ⟨x, hx, hlt⟩ := isBelow_iff.1 hv
  rw [lookup?_of_build ht] at hx
  obtain ⟨w, hw, hsolved⟩ := Option.bind_eq_some_iff.1 hx
  have hkey : w.key = v.key := by simpa using List.find?_some hw
  have htarget := isNaN_of_isProbability (build_eq_ok_iff.1 ht).1
  calc bitError success v snr
      ≤ bitError success v x := bitError_antitone hs v (Binary64.le_of_lt hlt)
    _ = bitError success w x := bitError_congr hs hkey.symm x
    _ ≤ target := bitError_of_leastSnr hs htarget hsolved

namespace Selector

/-- **What a data selection answers without falling back clears the observed SNR**; a fall-back is counted as one. -/
theorem selectData_isBelow (hd : d.Faultless) (ht : t.Covers d) (observers : Observers) {st : Station}
    (hst : st.Current d t) :
    ∃ chosen, selectData ⟨d, t, observers⟩ st = .ok chosen ∧
      ((chosen.station.counters.fallbacks = st.counters.fallbacks ∧ t.isBelow st.observed chosen.vector = true) ∨
        (chosen.station.counters.fallbacks = st.counters.fallbacks + 1 ∧ chosen.vector = .legacy d.defaultMode)) := by
  cases hv : st.reusable? with
  | some v =>
    obtain ⟨found, hfound, rfl⟩ := hst.search_eq hv
    rw [Thresholds.search_eq hd ht] at hfound
    obtain ⟨w, hw, rfl⟩ := Option.map_eq_some_iff.1 (Except.ok.inj hfound)
    obtain ⟨g, hg⟩ := Thresholds.mem_eligible_of_choose hw
    exact ⟨_, selectData_of_reusable hv, Or.inl ⟨rfl, (Thresholds.mem_eligible.1 hg).2⟩⟩
  | none =>
    refine ⟨_, selectData_of_search hd ht observers hv, ?_⟩
    cases hchoose : t.choose d st.capabilities st.observed with
    | none => exact Or.inr ⟨rfl, rfl⟩
    | some v =>
      obtain ⟨g, hg⟩ := Thresholds.mem_eligible_of_choose hchoose
      dsimp only
      rw [adopt_eq]
      exact Or.inl ⟨rfl, (Thresholds.mem_eligible.1 hg).2⟩

/-- **What protects a frame clears the observed SNR**, once some basic mode does. -/
theorem selectRts_isBelow (hd : d.Faultless) (ht : t.Covers d) (observers : Observers) {st : Station} {m : Mode}
    (hm : m ∈ d.basicModes) (hbelow : t.isBelow st.observed (.legacy m) = true) :
    ∃ v, selectRts ⟨d, t, observers⟩ st = .ok v ∧ (∃ b ∈ d.basicModes, v = .legacy b) ∧
      t.isBelow st.observed v = true := by
  refine ⟨_, selectRts_eq hd ht observers st, ?_⟩
  cases hprotect : t.protect d st.observed with
  | none =>
    have := Thresholds.protect_eq_none_iff.1 hprotect m hm
    rw [hbelow] at this
    cases this
  | some v => exact Thresholds.mem_of_protect hprotect

end Selector

namespace RateControl

/-- **The error that a selection accepts**: on thresholds searched for on a rising success curve, whatever was performed
before, a data selection that does not fall back answers a configuration that keeps the error of a bit within the target at
the SNR observed now, and so does a selection for a protective frame once some basic mode clears that SNR. -/
theorem error_le_target {r s : RateControl} {past : List Deed} (hs : Rising success)
    (hr : build d (.searchedOn scale success) target = .ok r) (hrun : Run r past s) {h : Handle} {st : Station}
    (hst : s.stations.get? h = some st) :
    (∃ o v st', s.perform (.selectData h) = .ok o ∧ o.answer = .vector (some v) ∧ o.next.stations.get? h = some st' ∧
      ((st'.counters.fallbacks = st.counters.fallbacks ∧ 1.0 - success v st.observed 1 ≤ target) ∨
        (st'.counters.fallbacks = st.counters.fallbacks + 1 ∧ v = .legacy d.defaultMode))) ∧
    ∃ o v, s.perform (.selectRts h) = .ok o ∧ o.answer = .vector (some v) ∧
      ((∃ m ∈ d.basicModes, r.selector.thresholds.isBelow st.observed (.legacy m) = true) →
        (∃ m ∈ d.basicModes, v = .legacy m) ∧ 1.0 - success v st.observed 1 ≤ target) := by
  obtain ⟨hfault, t, ht, rfl⟩ := build_eq_ok_iff.1 hr
  have hd := (Device.fault?_eq_none_iff d).1 hfault
  have hcovers := Thresholds.covers_of_build ht
  obtain ⟨observers, hselector⟩ := hrun.lives.1.selector
  obtain ⟨l, -, hl⟩ := hrun.exists_life hst
  constructor
  · obtain ⟨chosen, hchosen, hbelow⟩ := Selector.selectData_isBelow hd hcovers observers hl.current
    refine ⟨_, chosen.vector, chosen.station, selectData_of_get? hst (by rw [hselector]; exact hchosen), rfl, ?_, ?_⟩
    · show (s.stations.modify h fun _ => chosen.station).get? h = some chosen.station
      rw [Registry.get?_modify, if_pos rfl, hst]
      rfl
    · obtain ⟨hcount, hbelow⟩ | hfallback := hbelow
      · exact Or.inl ⟨hcount, Thresholds.bitError_le_of_isBelow hs ht hbelow⟩
      · exact Or.inr hfallback
  · obtain ⟨v, hv⟩ : ∃ v, Selector.selectRts ⟨d, t, observers⟩ st = .ok v :=
      ⟨_, Selector.selectRts_eq hd hcovers observers st⟩
    refine ⟨_, v, selectRts_of_get? hst (by rw [hselector]; exact hv), rfl, ?_⟩
    rintro ⟨m, hm, hbelow⟩
    obtain ⟨w, hw, hbasic, hbelow⟩ := Selector.selectRts_isBelow hd hcovers observers hm hbelow
    cases hv.symm.trans hw
    exact ⟨hbasic, Thresholds.bitError_le_of_isBelow hs ht hbelow⟩

/-- Two steps, searched for on the scale of whole decades, and a station that is heard above both of them. -/
theorem error_le_target_twoSteps :
    let slow := Catalog.slowestDsss
    let fast := Catalog.slowestOfdm
    let d := Device.legacy [slow, fast]
    let success := ((StepCurve.empty.set slow 2.0).set fast 20.0).chunkSuccess
    let model := ErrorModel.searchedOn Search.wholeDecades success
    ∃ r s past st, Rising success ∧ build d model 0.5 = .ok r ∧ Run r past s ∧ s.stations.get? ⟨0⟩ = some st ∧
      r.selector.thresholds.entries = [(.legacy slow, 10.0), (.legacy fast, 100.0)] ∧ st.observed = 400.0 ∧
      (∃ o st', s.perform (.selectData ⟨0⟩) = .ok o ∧ o.answer = .vector (some (.legacy fast)) ∧
        o.next.stations.get? ⟨0⟩ = some st' ∧ st'.counters.fallbacks = st.counters.fallbacks ∧
        1.0 - success (.legacy fast) st.observed 1 ≤ 0.5) ∧
      ∃ o, s.perform (.selectRts ⟨0⟩) = .ok o ∧ o.answer = .vector (some (.legacy slow)) ∧
        1.0 - success (.legacy slow) st.observed 1 ≤ 0.5 := by
  intro slow fast d success model
  have hs : Rising success := StepCurve.rising_chunkSuccess _
  have hslow : model.leastSnr (.legacy slow) 0.5 = some 10.0 := by decide +kernel
  have hfast : model.leastSnr (.legacy fast) 0.5 = some 100.0 := by decide +kernel
  let t : Thresholds := ⟨[(.legacy slow, 10.0), (.legacy fast, 100.0)], 0.5⟩
  have ht : Thresholds.build d model 0.5 = .ok t := by
    refine Thresholds.build_eq_ok_iff.2 ⟨by decide, Attempt.mapM_eq_ok_iff.2 ?_, rfl⟩
    exact .cons (Thresholds.solve_eq_ok_iff.2 ⟨rfl, hslow, by decide, by decide⟩)
      (.cons (Thresholds.solve_eq_ok_iff.2 ⟨rfl, hfast, by decide, by decide⟩) .nil)
  let r : RateControl := ⟨⟨d, t, {}⟩, {}⟩
  have hr : build d model 0.5 = .ok r := build_eq_ok_iff.2 ⟨rfl, _, ht, rfl⟩
  have hregistered := Run.step (r := r) (a := .register (.locallyAdministered 1) d.toCapabilities) .start rfl
  let heard : Station :=
    { Station.fresh (.locallyAdministered 1) d.toCapabilities with observed := 400.0, counters := { snrUpdates := 1 } }
  have hrun : Run r _ (alone r.selector heard) := (hregistered.step (a := .report ⟨0⟩ (.rtsAnswered 400.0 400.0)) rfl :)
  have hchoose : t.choose d heard.capabilities heard.observed = some (.legacy fast) := by decide +kernel
  have hchosen := Selector.selectData_of_choose ((Device.fault?_eq_none_iff d).1 rfl) (Thresholds.covers_of_build ht) {}
    (rfl : heard.reusable? = none) hchoose
  obtain ⟨⟨o, v, st', ho, hanswer, hst', hcases⟩, o', v', ho', hanswer', hprotected⟩ :=
    error_le_target hs hr hrun (rfl : (alone r.selector heard).stations.get? ⟨0⟩ = some heard)
  cases ho.symm.trans (selectData_of_get? rfl hchosen)
  obtain rfl : v = .legacy fast := by
    cases hanswer
    exact Selector.adopt_vector _ _
  obtain ⟨⟨m, hm, rfl⟩, herror'⟩ := hprotected ⟨slow, List.mem_singleton_self _, by decide +kernel⟩
  cases List.mem_singleton.1 hm
  obtain ⟨hcount, herror⟩ | ⟨-, hdefault⟩ := hcases
  · exact ⟨r, _, _, heard, hs, hr, hrun, rfl, rfl, rfl, ⟨_, st', ho, hanswer, hst', hcount, herror⟩,
      o', ho', hanswer', herror'⟩
  · exact absurd hdefault (by decide +kernel)

end RateControl
end LinkAdaptation

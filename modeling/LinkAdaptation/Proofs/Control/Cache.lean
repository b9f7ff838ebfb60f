import LinkAdaptation.Proofs.Binary64.Order
import LinkAdaptation.Proofs.Control.Lives
/-!
# The cache is transparent

A data selection may answer from the choice kept in the station.  It never shows: along every run the kept choice is
what a search at the SNR it was made for would find now (`Station.Current`), since every change of capabilities drops it;
and SNRs that IEEE 754 holds for equal are not told apart by a search (`Thresholds.search_congr`).  So every answer is that
of a search without memory, on nothing but the capabilities and the SNR known last.
-/
namespace LinkAdaptation

variable {d : Device} {t : Thresholds}

namespace Thresholds

/-- A selection without memory. -/
def uncached (t : Thresholds) (d : Device) (peer : Capabilities) (snr : Float) : Except MissingThreshold TxVector := do
  match ← t.search d peer snr with
  | some found => return found.vector
  | none => return .legacy d.defaultMode

theorem clears_congr {x y : Float} (h : (x == y) = true) (c : Candidate) : c.clears x = c.clears y :=
  decide_eq_decide.2 (Binary64.lt_congr_right h)

/-- **A search cannot tell equal SNRs apart.** -/
theorem search_congr {x y : Float} (h : (x == y) = true) (t : Thresholds) (d : Device) (peer : Capabilities) :
    t.search d peer x = t.search d peer y := by
  have hfastest : t.fastest d peer x = t.fastest d peer y := by
    funext g
    unfold fastest
    rw [show (fun c : Candidate => c.clears x) = (fun c => c.clears y) from funext (clears_congr h)]
  rw [search, search, hfastest]

theorem uncached_of_search {peer : Capabilities} {snr : Float} {found : Option Candidate}
    (h : t.search d peer snr = .ok found) :
    t.uncached d peer snr = .ok (found.elim (.legacy d.defaultMode) Candidate.vector) := by
  rw [uncached, h]
  cases found <;> rfl

end Thresholds

namespace Station

theorem reusable?_eq_some_iff {st : Station} {v : TxVector} :
    st.reusable? = some v ↔ st.cached = some v ∧ ∃ x, st.used = some x ∧ (x == st.observed) = true := by
  unfold reusable? isCacheValid
  cases hused : st.used with
  | none => simp
  | some x =>
    cases hcached : st.cached with
    | none => simp
    | some w => cases hx : x == st.observed <;> simp [hx]

theorem reusable?_eq_none_iff {st : Station} : st.reusable? = none ↔ st.isCacheValid = false := by
  unfold reusable? isCacheValid
  cases st.cached with
  | none => simp
  | some v => simp

/-- **The kept choice is what a search at its SNR finds now.** -/
def Current (d : Device) (t : Thresholds) (st : Station) : Prop :=
  ∀ x, st.used = some x → ∃ found, t.search d st.capabilities x = .ok (some found) ∧ st.cached = some found.vector

theorem current_fresh (a : MacAddress) (c : Capabilities) : (fresh a c).Current d t := by
  intro x hx
  cases hx

theorem current_readvertise (st : Station) (c : Capabilities) : (st.readvertise c).Current d t := by
  intro x hx
  cases hx

theorem Current.apply {st : Station} (h : st.Current d t) (f : Feedback) : (st.apply f).1.Current d t := by
  rw [apply_fst]
  exact h

theorem Current.selectData {st : Station} (h : st.Current d t) {chosen : Selection}
    (hchosen : Selector.selectData ⟨d, t, {}⟩ st = .ok chosen) : chosen.station.Current d t := by
  cases Selector.selects_of_selectData hchosen with
  | reuses => exact h
  | fallsBack => exact h
  | adopts _ hfound =>
    intro x hx
    cases hx
    exact ⟨_, hfound, rfl⟩

theorem Current.undergoes {st st' : Station} {deed : Deed} (h : st.Current d t) (hdeed : Undergoes d t st deed st') :
    st'.Current d t := by
  cases hdeed with
  | register => exact current_readvertise st _
  | update => exact current_readvertise st _
  | report => exact h.apply _
  | reportFrom => exact h.apply _
  | selectData hchosen => exact h.selectData hchosen
  | selectRts => exact h

/-- **A choice that may be used again is what a search would find.** -/
theorem Current.search_eq {st : Station} (h : st.Current d t) {v : TxVector} (hv : st.reusable? = some v) :
    ∃ found, t.search d st.capabilities st.observed = .ok (some found) ∧ found.vector = v := by
  obtain ⟨hcached, x, hused, hx⟩ := reusable?_eq_some_iff.1 hv
  obtain ⟨found, hfound, hkept⟩ := h x hused
  exact ⟨found, by rw [← Thresholds.search_congr hx]; exact hfound, Option.some.inj (hkept.symm.trans hcached)⟩

end Station

theorem Lives.current {l : Life} {st : Station} (h : Lives d t l st) : st.Current d t :=
  h.invariant Station.current_fresh fun hst hdeed => hst.undergoes hdeed

/-- **With or without memory**: a data selection answers as the search does. -/
theorem Selector.selectData_eq_uncached (hd : d.Faultless) (ht : t.Covers d) (observers : Observers) {st : Station}
    (hst : st.Current d t) :
    ∃ chosen, selectData ⟨d, t, observers⟩ st = .ok chosen ∧
      t.uncached d st.capabilities st.observed = .ok chosen.vector := by
  cases hv : st.reusable? with
  | some v =>
    obtain ⟨found, hfound, rfl⟩ := hst.search_eq hv
    exact ⟨_, selectData_of_reusable hv, Thresholds.uncached_of_search hfound⟩
  | none =>
    refine ⟨_, selectData_of_search hd ht observers hv, ?_⟩
    rw [Thresholds.uncached_of_search (Thresholds.search_eq hd ht _ _)]
    cases t.choose d st.capabilities st.observed with
    | none => rfl
    | some v => dsimp only; rw [adopt_eq]; rfl

namespace RateControl

/-- **The cache is transparent**: after every run, a data selection answers as a search without memory does, on the
capabilities advertised last and the SNR accepted last since the station registered; and a choice is used again only when
the search on the record as it stands finds the same. -/
theorem selectData_transparent {model : ErrorModel} {target : Float} {r s : RateControl} {past : List Deed}
    (hr : build d model target = .ok r) (hrun : Run r past s) (h : Handle) :
    (∃ o, s.perform (.selectData h) = .ok o ∧
      match lifeAt h past with
      | none => o.answer = .vector none
      | some l => ∃ v, r.selector.thresholds.uncached d l.capabilities l.snr = .ok v ∧ o.answer = .vector (some v)) ∧
    ∀ st v, s.stations.get? h = some st → st.reusable? = some v →
      r.selector.thresholds.uncached d st.capabilities st.observed = .ok v := by
  obtain ⟨hfault, t, ht, rfl⟩ := build_eq_ok_iff.1 hr
  have hd := (Device.fault?_eq_none_iff d).1 hfault
  have hcovers := Thresholds.covers_of_build ht
  obtain ⟨⟨-, observers, hselector⟩, hlives⟩ := hrun.lives
  constructor
  · have hrel := hlives h
    cases hlife : lifeAt h past with
    | none =>
      rw [hlife] at hrel
      refine ⟨s.answering s.stations (.vector none), ?_, rfl⟩
      show s.selectData h = _
      cases hst : s.stations.get? h with
      | some st => rw [hst] at hrel; cases hrel
      | none => rw [selectData, hst]
    | some l =>
      rw [hlife] at hrel
      cases hst : s.stations.get? h with
      | none => rw [hst] at hrel; cases hrel
      | some st =>
        rw [hst] at hrel
        cases hrel with
        | some hl =>
          obtain ⟨chosen, hchosen, huncached⟩ := Selector.selectData_eq_uncached hd hcovers observers hl.current
          rw [hl.capabilities, hl.observed] at huncached
          exact ⟨_, selectData_of_get? hst (by rw [hselector]; exact hchosen), chosen.vector, huncached, rfl⟩
  · intro st v hst hv
    obtain ⟨l, -, hl⟩ := hrun.exists_life hst
    obtain ⟨found, hfound, rfl⟩ := hl.current.search_eq hv
    exact Thresholds.uncached_of_search hfound

/-- One station that was sent to once and is asked for again at the same SNR. -/
theorem selectData_transparent_cacheHit :
    let d : Device := { Device.legacy [Catalog.slowestDsss, Mode.mcs .he 0] with he := true, widthMHz := 40, streams := 2 }
    let model := ((StepCurve.empty.set Catalog.slowestDsss 2.0).set (Mode.mcs .he 0) 3.0).model
    let v : TxVector := ⟨Mode.mcs .he 0, 2, 800, 40⟩
    ∃ r s past l st, build d model 0.5 = .ok r ∧ Run r past s ∧ past.length = 3 ∧ lifeAt ⟨0⟩ past = some l ∧
      s.stations.get? ⟨0⟩ = some st ∧ st.reusable? = some v ∧
      (∃ o, s.perform (.selectData ⟨0⟩) = .ok o ∧ r.selector.thresholds.uncached d l.capabilities l.snr = .ok v ∧
        o.answer = .vector (some v)) ∧
      r.selector.thresholds.uncached d st.capabilities st.observed = .ok v := by
  intro d model v
  let t : Thresholds :=
    ⟨(distinctKeys d.vectors).map fun v => (v, if v.mode.generation = .legacy then 2.0 else 3.0), 0.5⟩
  let r : RateControl := ⟨⟨d, t, {}⟩, {}⟩
  have ht : Thresholds.build d model 0.5 = .ok t := rfl
  have hr : build d model 0.5 = .ok r := build_eq_ok_iff.2 ⟨rfl, _, ht, rfl⟩
  have hchoose : t.choose d d.toCapabilities 4.0 = some v := by decide +kernel
  obtain ⟨past, st, hrun, hlength, hcapabilities, hobserved, hused, hcached⟩ :=
    run_firstFrame ((Device.fault?_eq_none_iff d).1 rfl) (Thresholds.covers_of_build ht) (.locallyAdministered 1) _ hchoose
  have hreusable : st.reusable? = some v :=
    Station.reusable?_eq_some_iff.2 ⟨hcached, 4.0, hused, by rw [hobserved]; decide⟩
  obtain ⟨l, hlife, hl⟩ := hrun.exists_life (rfl : (alone ⟨d, t, {}⟩ st).stations.get? ⟨0⟩ = some st)
  have htransparent := selectData_transparent hr hrun ⟨0⟩
  rw [hlife] at htransparent
  obtain ⟨⟨o, ho, w, hw, hanswer⟩, hhit⟩ := htransparent
  have hv := hhit st v rfl hreusable
  have hvw := hv
  rw [hl.capabilities, hl.observed, hw] at hvw
  cases hvw
  exact ⟨r, _, past, l, st, hr, hrun, hlength, hlife, rfl, hreusable, ⟨o, ho, hw, hanswer⟩, hv⟩

end RateControl
end LinkAdaptation

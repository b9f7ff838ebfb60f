import LinkAdaptation.Proofs.Control.Lives
import LinkAdaptation.Proofs.Phy.Rates
/-!
# No threshold is ever missing

The one failure an action can meet is a threshold that is not there.  It never happens: the table covers what any link can
ask for, so every action of every run succeeds, and each configuration that is answered can be put on air, has a threshold
and carries data.
-/
namespace LinkAdaptation

variable {d : Device} {t : Thresholds}

/-- What is promised of every configuration that is handed out. -/
structure Sendable (t : Thresholds) (v : TxVector) : Prop where
  isPermitted : v.isPermitted = true
  covered : (t.lookup? v).isSome = true
  dataRate_pos : 0 < v.dataRate

/-- A device with modes of the catalogs, and thresholds for all it can put on air. -/
structure Equipped (d : Device) (t : Thresholds) : Prop where
  faultless : d.Faultless
  covers : t.Covers d
  catalog : ∀ m ∈ d.modes, m ∈ Catalog.all

namespace Equipped

theorem legacy (hd : Equipped d t) {m : Mode} (hm : d.listsLegacy m = true) : Sendable t (.legacy m) where
  isPermitted := TxVector.isPermitted_legacy (Device.listsLegacy_iff.1 hm).1
  covered := hd.covers.legacy hm
  dataRate_pos := by
    obtain ⟨hgeneration, hmode⟩ := Device.listsLegacy_iff.1 hm
    exact TxVector.dataRate_pos (hd.catalog m hmode) (TxVector.isPermitted_legacy hgeneration)

theorem candidate (hd : Equipped d t) {peer : Capabilities} {g : Generation} {v : TxVector}
    (hv : v ∈ d.candidates peer g) : Sendable t v where
  isPermitted := (Device.mem_candidates.1 hv).1
  covered := hd.covers.candidate hd.faultless hv
  dataRate_pos := by
    obtain ⟨hpermitted, m, hm, -, -, hv⟩ := Device.mem_candidates.1 hv
    have hmode : v.mode = m := Link.mode_of_mem_vectors hv
    exact TxVector.dataRate_pos (hmode ▸ hd.catalog m hm) hpermitted

theorem choose (hd : Equipped d t) {peer : Capabilities} {snr : Float} {v : TxVector}
    (hv : t.choose d peer snr = some v) : Sendable t v := by
  obtain ⟨g, hv⟩ := Thresholds.mem_eligible_of_choose hv
  exact hd.candidate (Thresholds.mem_eligible.1 hv).1

theorem fallback (hd : Equipped d t) : Sendable t (.legacy d.defaultMode) :=
  hd.legacy hd.faultless.defaultMode

theorem protect (hd : Equipped d t) {snr : Float} {v : TxVector} (hv : t.protect d snr = some v) : Sendable t v := by
  obtain ⟨⟨m, hm, rfl⟩, -⟩ := Thresholds.mem_of_protect hv
  exact hd.legacy (hd.faultless.basicModes m hm)

end Equipped

/-- What a station keeps may be sent. -/
def Station.KeepsSendable (t : Thresholds) (st : Station) : Prop :=
  ∀ v, st.cached = some v → Sendable t v

namespace Selector

/-- **A data selection on such a device succeeds**: its answer may be sent, and so may what the station keeps. -/
theorem selectData_sendable (hd : Equipped d t) (observers : Observers) {st : Station} (hst : st.KeepsSendable t) :
    ∃ chosen, selectData ⟨d, t, observers⟩ st = .ok chosen ∧ Sendable t chosen.vector ∧
      chosen.station.KeepsSendable t := by
  cases hv : st.reusable? with
  | some v =>
    have hcached : st.cached = some v := by
      unfold Station.reusable? at hv
      split at hv
      · exact hv
      · cases hv
    exact ⟨_, selectData_of_reusable hv, hst v hcached, hst⟩
  | none =>
    refine ⟨_, selectData_of_search hd.faultless hd.covers observers hv, ?_⟩
    cases hchoose : t.choose d st.capabilities st.observed with
    | none => exact ⟨hd.fallback, hst⟩
    | some v =>
      have hsendable := hd.choose hchoose
      dsimp only
      rw [adopt_eq]
      refine ⟨hsendable, fun w hw => ?_⟩
      cases hw
      exact hsendable

theorem selectRts_sendable (hd : Equipped d t) (observers : Observers) (st : Station) :
    ∃ v, selectRts ⟨d, t, observers⟩ st = .ok v ∧ Sendable t v := by
  refine ⟨_, selectRts_eq hd.faultless hd.covers observers st, ?_⟩
  cases hprotect : t.protect d st.observed with
  | none => exact hd.fallback
  | some v => exact hd.protect hprotect

end Selector

theorem Undergoes.keepsSendable (hd : Equipped d t) {st st' : Station} {deed : Deed} (hst : st.KeepsSendable t)
    (h : Undergoes d t st deed st') : st'.KeepsSendable t := by
  cases h with
  | register => exact hst
  | update => exact hst
  | report => rw [Station.apply_fst]; exact hst
  | reportFrom => rw [Station.apply_fst]; exact hst
  | selectData hchosen =>
    obtain ⟨chosen, hok, -, hkeeps⟩ := Selector.selectData_sendable hd {} hst
    cases hok.symm.trans hchosen
    exact hkeeps
  | selectRts => exact hst

theorem Lives.keepsSendable (hd : Equipped d t) {l : Life} {st : Station} (h : Lives d t l st) : st.KeepsSendable t := by
  refine h.invariant (fun a c v hv => ?_) fun hst hdeed => hdeed.keepsSendable hd hst
  cases hv

namespace RateControl

/-- **Every action of a run succeeds**, and a configuration that it answers may be sent. -/
theorem perform_sendable (hd : Equipped d t) {observers : Observers} {past : List Deed} {s : RateControl}
    (hrun : Run ⟨⟨d, t, observers⟩, {}⟩ past s) (a : Action) :
    ∃ o, s.perform a = .ok o ∧ ∀ v, o.answer = .vector (some v) → Sendable t v := by
  obtain ⟨observers, hselector⟩ := hrun.lives.1.selector
  have hdata : ∀ {h st}, s.stations.get? h = some st →
      ∃ chosen, s.selector.selectData st = .ok chosen ∧ Sendable t chosen.vector := fun {h st} hst => by
    obtain ⟨l, -, hl⟩ := hrun.exists_life hst
    obtain ⟨chosen, hchosen, hsendable, -⟩ := Selector.selectData_sendable hd observers (hl.keepsSendable hd)
    exact ⟨chosen, by rw [hselector]; exact hchosen, hsendable⟩
  have hrts : ∀ st, ∃ v, s.selector.selectRts st = .ok v ∧ Sendable t v := fun st => by
    rw [hselector]
    exact Selector.selectRts_sendable hd observers st
  obtain ⟨o, ho⟩ := exists_outcome (fun hst => (hdata hst).imp fun _ h => h.1) (fun _ => (hrts _).imp fun _ h => h.1) a
  refine ⟨o, ho, fun v hv => ?_⟩
  cases perform_leadsTo ho with
  | edits _ hanswer => exact absurd hv (hanswer v)
  | selectsData _ hst hchosen =>
    obtain ⟨chosen, hchosen', hsendable⟩ := hdata hst
    cases hchosen.symm.trans hchosen'
    cases hv
    exact hsendable
  | @selectsRts _ st _ _ _ hv' =>
    obtain ⟨w, hw, hsendable⟩ := hrts st
    cases hv'.symm.trans hw
    cases hv
    exact hsendable
  | subscribes => cases hv
  | hangsUp => cases hv

theorem run_sendable (hd : Equipped d t) {observers : Observers} {past : List Deed} {s : RateControl}
    (hrun : Run ⟨⟨d, t, observers⟩, {}⟩ past s) (actions : List Action) :
    ∃ outcomes, s.run actions = .ok outcomes ∧
      ∀ o ∈ outcomes, ∀ v, o.answer = .vector (some v) → Sendable t v := by
  induction actions generalizing past s with
  | nil => exact ⟨[], rfl, fun o ho => by cases ho⟩
  | cons a actions ih =>
    obtain ⟨o, ho, hsendable⟩ := perform_sendable hd hrun a
    obtain ⟨rest, hrest, hall⟩ := ih (hrun.step ho)
    refine ⟨o :: rest, ?_, fun o' ho' => ?_⟩
    · rw [run, ho]
      show (run o.next actions >>= _) = _
      rw [hrest]
      rfl
    · rcases List.mem_cons.1 ho' with rfl | ho'
      · exact hsendable
      · exact hall o' ho'

/-- **No run misses a threshold**: on a device whose modes are those of the catalogs, whatever the peers advertise and
report, every action succeeds, and each configuration that a selection answers is permitted, has a threshold and has a
rate. -/
theorem run_safe {model : ErrorModel} {target : Float} {r : RateControl} (hcatalog : ∀ m ∈ d.modes, m ∈ Catalog.all)
    (hr : build d model target = .ok r) (actions : List Action) :
    ∃ outcomes, r.run actions = .ok outcomes ∧
      ∀ o ∈ outcomes, ∀ v, o.answer = .vector (some v) →
        v.isPermitted = true ∧ (r.selector.thresholds.lookup? v).isSome = true ∧ 0 < v.dataRate := by
  obtain ⟨hfault, t, ht, rfl⟩ := build_eq_ok_iff.1 hr
  have hd : Equipped d t := ⟨(Device.fault?_eq_none_iff d).1 hfault, Thresholds.covers_of_build ht, hcatalog⟩
  obtain ⟨outcomes, hok, hall⟩ := run_sendable hd .start actions
  exact ⟨outcomes, hok, fun o ho v hv =>
    ⟨(hall o ho v hv).isPermitted, (hall o ho v hv).covered, (hall o ho v hv).dataRate_pos⟩⟩

/-- A device with one legacy mode and one HE mode. -/
theorem run_safe_twoModes :
    let d : Device := { Device.legacy [Catalog.slowestDsss, Mode.mcs .he 0] with he := true, widthMHz := 40, streams := 2 }
    let model := ((StepCurve.empty.set Catalog.slowestDsss 2.0).set (Mode.mcs .he 0) 3.0).model
    (∀ m ∈ d.modes, m ∈ Catalog.all) ∧ ∃ r, build d model 0.5 = .ok r ∧
      ∀ actions, ∃ outcomes, r.run actions = .ok outcomes ∧
        ∀ o ∈ outcomes, ∀ v, o.answer = .vector (some v) →
          v.isPermitted = true ∧ (r.selector.thresholds.lookup? v).isSome = true ∧ 0 < v.dataRate := by
  intro d model
  have hcatalog : ∀ m ∈ d.modes, m ∈ Catalog.all := by decide +kernel
  obtain ⟨r, hr⟩ : ∃ r, build d model 0.5 = .ok r := ⟨_, rfl⟩
  exact ⟨hcatalog, r, hr, run_safe hcatalog hr⟩

end RateControl
end LinkAdaptation

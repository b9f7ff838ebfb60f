import LinkAdaptation.Proofs.Control.Cache
import LinkAdaptation.Proofs.Control.Safety
/-!
# What the fields of a station say together

The fields of a station are written by different actions, each of which writes some of them only.  All the same they
agree with one another in every state of every run (`Station.Coherent`).  Two things carry this: a choice is kept together
with its rate (`Station.Rated`), and no threshold is negative, so nothing is ever chosen at an SNR that is not positive.
-/
namespace LinkAdaptation

open Binary64 (lt_of_le_of_lt isNaN_of_lt lt_congr_right)

variable {d : Device} {t : Thresholds}

/-! ## Thresholds that are not negative -/

/-- No threshold lies below 0. -/
def Thresholds.Nonneg (t : Thresholds) : Prop :=
  ∀ v snr, t.lookup? v = some snr → 0.0 ≤ snr

namespace Thresholds

theorem nonneg_of_build {model : ErrorModel} {target : Float} (h : build d model target = .ok t) : t.Nonneg :=
  fun _ _ => lookup?_nonneg h

theorem Nonneg.pos_of_isBelow (ht : t.Nonneg) {snr : Float} {v : TxVector} (hv : t.isBelow snr v = true) : 0.0 < snr := by
  obtain ⟨x, hx, hlt⟩ := isBelow_iff.1 hv
  exact lt_of_le_of_lt (ht v x hx) hlt

theorem Nonneg.choose_eq_none (ht : t.Nonneg) {snr : Float} (hsnr : ¬ 0.0 < snr) (peer : Capabilities) :
    t.choose d peer snr = none := by
  refine choose_eq_none_iff.2 fun g _ => List.eq_nil_iff_forall_not_mem.2 fun v hv => hsnr ?_
  exact ht.pos_of_isBelow (mem_eligible.1 hv).2

theorem Nonneg.protect_eq_none (ht : t.Nonneg) {snr : Float} (hsnr : ¬ 0.0 < snr) : t.protect d snr = none :=
  protect_eq_none_iff.2 fun _ _ => Bool.eq_false_iff.2 fun hbelow => hsnr (ht.pos_of_isBelow hbelow)

end Thresholds

/-! ## Choices that suit both ends -/

/-- What a device may send to a peer. -/
structure Admissible (d : Device) (peer : Capabilities) (v : TxVector) : Prop where
  mem_device : v.mode ∈ d.modes
  mem_peer : v.mode ∈ peer.modes
  generation : v.mode.generation ∈ d.applicable peer
  isPermitted : v.isPermitted = true

theorem Thresholds.admissible_of_choose {peer : Capabilities} {snr : Float} {v : TxVector}
    (h : t.choose d peer snr = some v) : Admissible d peer v ∧ ∃ x, t.lookup? v = some x ∧ x < snr := by
  obtain ⟨g, hg, hv⟩ := List.exists_of_findSome?_eq_some h
  obtain ⟨hcandidate, hbelow⟩ := mem_eligible.1 (mem_of_firstBest hv)
  obtain ⟨hpermitted, m, hm, rfl, hpeer, hvector⟩ := Device.mem_candidates.1 hcandidate
  have hmode : v.mode = m := Link.mode_of_mem_vectors hvector
  exact ⟨⟨hmode ▸ hm, hmode ▸ hpeer, hmode ▸ hg, hpermitted⟩, isBelow_iff.1 hbelow⟩

/-! ## The rate that is kept -/

namespace Station

/-- The kept rate is that of the kept choice, 0 before there is one. -/
def Rated (st : Station) : Prop :=
  st.cachedRate = st.cached.elim 0 TxVector.dataRate

theorem Rated.selectData {s : Selector} {st : Station} (h : st.Rated) {chosen : Selection}
    (hchosen : s.selectData st = .ok chosen) : chosen.station.Rated := by
  cases Selector.selects_of_selectData hchosen with
  | reuses => exact h
  | fallsBack => exact h
  | adopts => rfl

theorem Rated.undergoes {st st' : Station} {deed : Deed} (h : st.Rated) (hdeed : Undergoes d t st deed st') :
    st'.Rated := by
  cases hdeed with
  | register => exact h
  | update => exact h
  | report => rw [apply_fst]; exact h
  | reportFrom => rw [apply_fst]; exact h
  | selectData hchosen => exact h.selectData hchosen
  | selectRts => exact h

end Station

theorem Lives.rated {l : Life} {st : Station} (h : Lives d t l st) : st.Rated :=
  h.invariant (fun _ _ => rfl) fun hst hdeed => hst.undergoes hdeed

/-! ## Coherence -/

/-- What the fields of a station say together. -/
structure Station.Coherent (d : Device) (t : Thresholds) (st : Station) : Prop where
  /-- A choice that may be used again clears the SNR it was made for and suits both ends as they are. -/
  used : ∀ x, st.used = some x → ∃ v, st.cached = some v ∧ (∃ y, t.lookup? v = some y ∧ y < x) ∧ 0.0 < x ∧
    x.isNaN = false ∧ Admissible d st.capabilities v
  cached_eq_none_iff : st.cached = none ↔ st.cachedRate = 0
  cachedRate_eq : ∀ v, st.cached = some v → st.cachedRate = v.dataRate

/-- **Every station is coherent all its life.** -/
theorem Lives.coherent (hd : Equipped d t) (ht : t.Nonneg) {l : Life} {st : Station} (h : Lives d t l st) :
    st.Coherent d t where
  used x hx := by
    obtain ⟨found, hfound, hcached⟩ := h.current x hx
    rw [Thresholds.search_eq hd.faultless hd.covers] at hfound
    obtain ⟨v, hv, rfl⟩ := Option.map_eq_some_iff.1 (Except.ok.inj hfound)
    obtain ⟨hadmissible, y, hy, hlt⟩ := Thresholds.admissible_of_choose hv
    exact ⟨v, hcached, ⟨y, hy, hlt⟩, lt_of_le_of_lt (ht v y hy) hlt, (isNaN_of_lt hlt).2, hadmissible⟩
  cached_eq_none_iff := by
    have hrated : st.cachedRate = st.cached.elim 0 TxVector.dataRate := h.rated
    have hsendable := h.keepsSendable hd
    rw [hrated]
    cases hcached : st.cached with
    | none => exact ⟨fun _ => rfl, fun _ => rfl⟩
    | some v =>
      have hpos : 0 < v.dataRate := (hsendable v hcached).dataRate_pos
      constructor
      · intro hnone
        cases hnone
      · intro hzero
        exact absurd hzero (Nat.ne_of_gt hpos)
  cachedRate_eq v hv := by
    have hrated : st.cachedRate = st.cached.elim 0 TxVector.dataRate := h.rated
    rw [hrated, hv]
    rfl

namespace Station.Coherent

variable {st : Station}

/-- **Whether the kept choice may be used again is a matter of the two SNRs alone.** -/
theorem isCacheValid_eq (h : st.Coherent d t) : st.isCacheValid = (st.used == some st.observed) := by
  unfold isCacheValid
  cases hused : st.used with
  | none => exact Bool.and_false _
  | some x =>
    obtain ⟨v, hcached, -⟩ := h.used x hused
    rw [hcached]
    exact Bool.true_and _

theorem reusable?_eq_none (h : st.Coherent d t) (hsnr : ¬ 0.0 < st.observed) : st.reusable? = none := by
  cases hv : st.reusable? with
  | none => rfl
  | some v =>
    obtain ⟨-, x, hused, hx⟩ := reusable?_eq_some_iff.1 hv
    obtain ⟨-, -, -, hpos, -⟩ := h.used x hused
    exact absurd ((lt_congr_right hx).1 hpos) hsnr

end Station.Coherent

namespace Selector

/-- **At an SNR that is not positive a data selection falls back** and leaves all but the counters as it is. -/
theorem selectData_of_not_pos (hd : Equipped d t) (ht : t.Nonneg) (observers : Observers) {st : Station}
    (hst : st.Coherent d t) (hsnr : ¬ 0.0 < st.observed) :
    selectData ⟨d, t, observers⟩ st = .ok (fallBack ⟨d, t, observers⟩ st) := by
  rw [selectData_of_search hd.faultless hd.covers observers (hst.reusable?_eq_none hsnr), ht.choose_eq_none hsnr]

theorem selectRts_of_not_pos (hd : Equipped d t) (ht : t.Nonneg) (observers : Observers) {st : Station}
    (hsnr : ¬ 0.0 < st.observed) : selectRts ⟨d, t, observers⟩ st = .ok (.legacy d.defaultMode) := by
  rw [selectRts_eq hd.faultless hd.covers observers, ht.protect_eq_none hsnr]
  rfl

end Selector

namespace RateControl

/-- **In every state of every run the fields of each station agree**, on a device whose modes are those of the catalogs:
its SNR is the one accepted last since it registered, what it keeps is coherent, and as long as its SNR is not positive
every selection answers the default mode and touches nothing that is kept. -/
theorem run_coherent {model : ErrorModel} {target : Float} {r s : RateControl} {past : List Deed}
    (hcatalog : ∀ m ∈ d.modes, m ∈ Catalog.all) (hr : build d model target = .ok r) (hrun : Run r past s) {h : Handle}
    {st : Station} (hst : s.stations.get? h = some st) :
    (∃ l, lifeAt h past = some l ∧ st.observed = l.snr) ∧ st.Coherent d r.selector.thresholds ∧
      st.isCacheValid = (st.used == some st.observed) ∧
      (¬ 0.0 < st.observed →
        (∃ o counters, s.perform (.selectData h) = .ok o ∧ o.answer = .vector (some (.legacy d.defaultMode)) ∧
          o.next.stations.get? h = some { st with counters := counters }) ∧
        ∃ o, s.perform (.selectRts h) = .ok o ∧ o.answer = .vector (some (.legacy d.defaultMode)) ∧ o.next = s) := by
  obtain ⟨hfault, t, ht, rfl⟩ := build_eq_ok_iff.1 hr
  have hd : Equipped d t := ⟨(Device.fault?_eq_none_iff d).1 hfault, Thresholds.covers_of_build ht, hcatalog⟩
  have hnonneg := Thresholds.nonneg_of_build ht
  obtain ⟨observers, hselector⟩ := hrun.lives.1.selector
  obtain ⟨l, hlife, hl⟩ := hrun.exists_life hst
  have hcoherent := hl.coherent hd hnonneg
  refine ⟨⟨l, hlife, hl.observed⟩, hcoherent, hcoherent.isCacheValid_eq, fun hsnr => ⟨?_, ?_⟩⟩
  · have hchosen := Selector.selectData_of_not_pos hd hnonneg observers hcoherent hsnr
    exact ⟨_, (Selector.fallBack ⟨d, t, observers⟩ st).station.counters,
      selectData_of_get? hst (by rw [hselector]; exact hchosen), rfl, Registry.get?_modify_self hst _⟩
  · have hv := Selector.selectRts_of_not_pos hd hnonneg observers hsnr
    exact ⟨_, selectRts_of_get? hst (by rw [hselector]; exact hv), rfl, rfl⟩

/-- One station that was heard well and sent to, then heard at no SNR at all: it keeps its choice, but does not use it. -/
theorem run_coherent_lostSignal :
    let d : Device := { Device.legacy [Catalog.slowestDsss, Mode.mcs .he 0] with he := true, widthMHz := 40, streams := 2 }
    let model := ((StepCurve.empty.set Catalog.slowestDsss 2.0).set (Mode.mcs .he 0) 3.0).model
    let v : TxVector := ⟨Mode.mcs .he 0, 2, 800, 40⟩
    ∃ r s past st, (∀ m ∈ d.modes, m ∈ Catalog.all) ∧ build d model 0.5 = .ok r ∧ Run r past s ∧ past.length = 4 ∧
      s.stations.get? ⟨0⟩ = some st ∧ st.used = some 4.0 ∧ st.cached = some v ∧ st.observed = 0.0 ∧
      (∃ l, lifeAt ⟨0⟩ past = some l ∧ st.observed = l.snr) ∧ st.Coherent d r.selector.thresholds ∧
      st.isCacheValid = (st.used == some st.observed) ∧ (¬ 0.0 < st.observed) ∧
      (∃ o counters, s.perform (.selectData ⟨0⟩) = .ok o ∧ o.answer = .vector (some (.legacy d.defaultMode)) ∧
        o.next.stations.get? ⟨0⟩ = some { st with counters := counters }) ∧
      ∃ o, s.perform (.selectRts ⟨0⟩) = .ok o ∧ o.answer = .vector (some (.legacy d.defaultMode)) ∧ o.next = s := by
  intro d model v
  have hcatalog : ∀ m ∈ d.modes, m ∈ Catalog.all := by decide +kernel
  let t : Thresholds :=
    ⟨(distinctKeys d.vectors).map fun v => (v, if v.mode.generation = .legacy then 2.0 else 3.0), 0.5⟩
  let r : RateControl := ⟨⟨d, t, {}⟩, {}⟩
  have ht : Thresholds.build d model 0.5 = .ok t := rfl
  have hr : build d model 0.5 = .ok r := build_eq_ok_iff.2 ⟨rfl, _, ht, rfl⟩
  have hchoose : t.choose d d.toCapabilities 4.0 = some v := by decide +kernel
  obtain ⟨past, sent, hsent, hlength, -, -, hused, hcached⟩ :=
    run_firstFrame ((Device.fault?_eq_none_iff d).1 rfl) (Thresholds.covers_of_build ht) (.locallyAdministered 1) _ hchoose
  have hrun := hsent.step (a := .report ⟨0⟩ (.rtsAnswered 4.0 0.0)) rfl
  have hlost : ¬ (0.0 : Float) < 0.0 := by decide
  obtain ⟨hlife, hcoherent, hvalid, hidle⟩ := run_coherent hcatalog hr hrun (h := ⟨0⟩) rfl
  exact ⟨r, _, _, _, hcatalog, hr, hrun, congrArg (· + 1) hlength, rfl, hused, hcached, rfl, hlife, hcoherent, hvalid,
    hlost, hidle hlost⟩

end RateControl
end LinkAdaptation

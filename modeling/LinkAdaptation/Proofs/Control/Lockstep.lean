import LinkAdaptation.Proofs.Control.Lives
import LinkAdaptation.Proofs.Control.Cache
import LinkAdaptation.Proofs.Snr.Relisting
import LinkAdaptation.Proofs.Station.Paired
/-!
# Two radios in step

Two radios that choose corresponding configurations for the same link stay in step whatever happens to both: the same
handles, corresponding answers, the same changes of rate, and stations that differ in nothing but what corresponds
(`RateControl.run_matches`).  Peers may list their modes to the two in different orders.
-/
namespace LinkAdaptation

/-! ## What corresponds -/

/-- The same capabilities, but that the modes may be listed in another order and more than once. -/
def Capabilities.Matches (c c' : Capabilities) : Prop :=
  ∃ ms, SameModes c.modes ms ∧ c' = { c with modes := ms }

/-- The same station, but that the peer may list its modes otherwise and that the cached configurations correspond. -/
structure Station.Matches (V : TxVector → TxVector → Prop) (st st' : Station) : Prop where
  address : st'.address = st.address
  capabilities : st.capabilities.Matches st'.capabilities
  observed : st'.observed = st.observed
  used : st'.used = st.used
  cached : Option.Rel V st.cached st'.cached
  cachedRate : st'.cachedRate = st.cachedRate
  /-- The number of fallbacks is one of them. -/
  counters : st'.counters = st.counters

/-- The same action, but that a peer may list its modes otherwise. -/
inductive Action.Matches : Action → Action → Prop
  | register {a : MacAddress} {c c' : Capabilities} : c.Matches c' → Matches (.register a c) (.register a c')
  | update {h : Handle} {c c' : Capabilities} : c.Matches c' → Matches (.update h c) (.update h c')
  | same (act : Action) : Matches act act

/-- The same answer, but that configurations correspond and so do the stations that are handed back. -/
inductive Answer.Matches (V E : TxVector → TxVector → Prop) : Answer → Answer → Prop
  | registered (h : Handle) : Matches V E (.registered h) (.registered h)
  | known (wasKnown : Bool) : Matches V E (.known wasKnown) (.known wasKnown)
  | removed {st st' : Option Station} : Option.Rel (Station.Matches V) st st' → Matches V E (.removed st) (.removed st')
  | effect (effect : Option Effect) : Matches V E (.effect effect) (.effect effect)
  | vector {v v' : Option TxVector} : Option.Rel E v v' → Matches V E (.vector v) (.vector v')
  | subscribed (place : Nat) : Matches V E (.subscribed place) (.subscribed place)

/-- **The same outcome but for what corresponds**: `V` says which configurations a station may keep in place of another
one, `E` which ones may be answered. -/
structure Outcome.Matches (V E : TxVector → TxVector → Prop) (o o' : Outcome) : Prop where
  answer : o.answer.Matches V E o'.answer
  change : o'.change = o.change
  told : o'.told = o.told
  stations : o.next.stations.Paired (Station.Matches V) o'.next.stations

variable {V E : TxVector → TxVector → Prop} {d d' : Device} {t t' : Thresholds}

theorem Capabilities.Matches.refl (c : Capabilities) : c.Matches c :=
  ⟨c.modes, fun _ => Iff.rfl, rfl⟩

namespace Station

variable {st st' : Station}

theorem matches_fresh {c c' : Capabilities} (a : MacAddress) (hc : c.Matches c') : Matches V (.fresh a c) (.fresh a c') :=
  ⟨rfl, hc, rfl, rfl, .none, rfl, rfl⟩

theorem Matches.readvertise (h : st.Matches V st') {c c' : Capabilities} (hc : c.Matches c') :
    (st.readvertise c).Matches V (st'.readvertise c') :=
  { h with capabilities := hc, used := rfl }

theorem Matches.remember (h : st.Matches V st') {v v' : TxVector} (hV : V v v') (rate : Nat) :
    (st.remember v rate).Matches V (st'.remember v' rate) :=
  { h with used := congrArg some h.observed, cached := .some hV, cachedRate := rfl }

theorem Matches.count (h : st.Matches V st') (f : Counters → Counters) : (st.count f).Matches V (st'.count f) :=
  { h with counters := congrArg f h.counters }

theorem apply_snd (st st' : Station) (f : Feedback) : (st'.apply f).2 = (st.apply f).2 := by
  have hmeasured : ∀ snr, (st'.observeMeasured snr).2 = (st.observeMeasured snr).2 := fun snr => by
    unfold observeMeasured
    split <;> rfl
  cases f with
  | dataAnswered ack snr => exact hmeasured snr
  | aggregateAnswered arrived lost heard snr => exact hmeasured snr
  | _ => rfl

theorem Matches.apply (h : st.Matches V st') (f : Feedback) : (st.apply f).1.Matches V (st'.apply f).1 := by
  rw [apply_fst, apply_fst]
  exact { h with
    observed := by dsimp only; rw [h.observed]
    counters := by dsimp only; rw [h.counters] }

theorem Matches.isCacheValid (h : st.Matches V st') : st'.isCacheValid = st.isCacheValid := by
  have hcached : st'.cached.isSome = st.cached.isSome := by
    rcases rel_cases h.cached with ⟨hv, hv'⟩ | ⟨v, v', hv, hv', -⟩ <;> simp [hv, hv']
  rw [Station.isCacheValid, Station.isCacheValid, hcached, h.used, h.observed]

theorem Matches.reusable? (h : st.Matches V st') : Option.Rel V st.reusable? st'.reusable? := by
  rw [Station.reusable?, Station.reusable?, h.isCacheValid]
  split
  · exact h.cached
  · exact .none

end Station

/-! ## Selections -/

/-- **What keeps two radios in step**: neither lacks a threshold, and what one chooses, or protects a frame with,
corresponds to what the other one does. -/
structure Agrees (V E : TxVector → TxVector → Prop) (d : Device) (t : Thresholds) (d' : Device) (t' : Thresholds) :
    Prop where
  faultless : d.Faultless
  covers : t.Covers d
  faultless' : d'.Faultless
  covers' : t'.Covers d'
  dataRate : ∀ {v v'}, V v v' → v'.dataRate = v.dataRate
  answers : ∀ {v v'}, V v v' → E v v'
  fallback : V (.legacy d.defaultMode) (.legacy d'.defaultMode)
  choose : ∀ {peer peer' : Capabilities}, peer.Matches peer' → ∀ snr,
    Option.Rel V (t.choose d peer snr) (t'.choose d' peer' snr)
  protect : ∀ snr, Option.Rel E (t.protect d snr) (t'.protect d' snr)

/-- The same selection but for what corresponds. -/
structure Selection.Matches (V : TxVector → TxVector → Prop) (chosen chosen' : Selection) : Prop where
  vector : V chosen.vector chosen'.vector
  station : chosen.station.Matches V chosen'.station
  change : chosen'.change = chosen.change

namespace Selector

variable {st st' : Station}

theorem reuse_matches (hst : st.Matches V st') {v v' : TxVector} (hV : V v v') : (reuse st v).Matches V (reuse st' v') where
  vector := hV
  station := by dsimp only [reuse]; exact hst.count _
  change := rfl

theorem fallBack_matches (h : Agrees V E d t d' t') (hst : st.Matches V st') (observers : Observers) :
    (fallBack ⟨d, t, observers⟩ st).Matches V (fallBack ⟨d', t', observers⟩ st') where
  vector := h.fallback
  station := by dsimp only [fallBack]; exact hst.count _
  change := rfl

theorem adopt_matches (hst : st.Matches V st') {c c' : Candidate} (hV : V c.vector c'.vector)
    (hrate : c'.dataRate = c.dataRate) : (adopt st c).Matches V (adopt st' c') := by
  unfold adopt
  rw [hst.cachedRate, hst.address, hrate]
  dsimp only
  split
  · exact ⟨hV, by dsimp only; exact (hst.remember hV _).count _, rfl⟩
  · exact ⟨hV, by dsimp only; exact (hst.remember hV _).count _, rfl⟩

theorem selectData_matches (h : Agrees V E d t d' t') (hst : st.Matches V st') (observers : Observers) :
    ∃ chosen chosen', selectData ⟨d, t, observers⟩ st = .ok chosen ∧ selectData ⟨d', t', observers⟩ st' = .ok chosen' ∧
      chosen.Matches V chosen' := by
  -- Both search or both reuse: whether a cached configuration still holds is asked of what is the same in both.
  rcases rel_cases hst.reusable? with ⟨hv, hv'⟩ | ⟨v, v', hv, hv', hV⟩
  · have hsearch := selectData_of_search h.faultless h.covers observers hv
    have hsearch' := selectData_of_search h.faultless' h.covers' observers hv'
    rw [hst.observed] at hsearch'
    refine ⟨_, _, hsearch, hsearch', ?_⟩
    rcases rel_cases (h.choose hst.capabilities st.observed) with ⟨hw, hw'⟩ | ⟨w, w', hw, hw', hV⟩
    · rw [hw, hw']
      exact fallBack_matches h hst observers
    · rw [hw, hw']
      exact adopt_matches hst hV (h.dataRate hV)
  · exact ⟨_, _, selectData_of_reusable hv, selectData_of_reusable hv', reuse_matches hst hV⟩

theorem selectRts_matches (h : Agrees V E d t d' t') (hst : st.Matches V st') (observers : Observers) :
    ∃ v v', selectRts ⟨d, t, observers⟩ st = .ok v ∧ selectRts ⟨d', t', observers⟩ st' = .ok v' ∧ E v v' := by
  refine ⟨_, _, selectRts_eq h.faultless h.covers observers st, selectRts_eq h.faultless' h.covers' observers st', ?_⟩
  rw [hst.observed]
  rcases rel_cases (h.protect st.observed) with ⟨hv, hv'⟩ | ⟨v, v', hv, hv', hE⟩
  · rw [hv, hv']
    exact h.answers h.fallback
  · rw [hv, hv']
    exact hE

end Selector

/-! ## Runs -/

namespace RateControl

/-- Two radios in step: the same observers, and matching stations with the same handles. -/
structure InStep (V : TxVector → TxVector → Prop) (d : Device) (t : Thresholds) (d' : Device) (t' : Thresholds)
    (r r' : RateControl) : Prop where
  selectors : ∃ observers, r.selector = ⟨d, t, observers⟩ ∧ r'.selector = ⟨d', t', observers⟩
  stations : r.stations.Paired (Station.Matches V) r'.stations

/-- Both actions succeed, with matching outcomes that leave the two radios in step. -/
def StepsMatch (V E : TxVector → TxVector → Prop) (d : Device) (t : Thresholds) (d' : Device) (t' : Thresholds)
    (x x' : Except MissingThreshold Outcome) : Prop :=
  ∃ o o', x = .ok o ∧ x' = .ok o' ∧ o.Matches V E o' ∧ InStep V d t d' t' o.next o'.next

namespace InStep

variable {r r' : RateControl} (hr : InStep V d t d' t' r r')
include hr

theorem answering {stations stations' : Registry} (hstations : stations.Paired (Station.Matches V) stations')
    {answer answer' : Answer} (hanswer : answer.Matches V E answer') :
    StepsMatch V E d t d' t' (.ok (r.answering stations answer)) (.ok (r'.answering stations' answer')) :=
  ⟨_, _, rfl, rfl, ⟨hanswer, rfl, rfl, hstations⟩, ⟨hr.selectors, hstations⟩⟩

theorem register (a : MacAddress) {c c' : Capabilities} (hc : c.Matches c') :
    StepsMatch V E d t d' t' (r.perform (.register a c)) (r'.perform (.register a c')) := by
  obtain ⟨hhandle, hstations⟩ := hr.stations.register (a := a) (Station.matches_fresh a hc)
    fun _ _ hmatch => hmatch.readvertise hc
  rw [perform_register, perform_register, hhandle]
  exact hr.answering hstations (.registered _)

theorem update (h : Handle) {c c' : Capabilities} (hc : c.Matches c') :
    StepsMatch V E d t d' t' (r.perform (.update h c)) (r'.perform (.update h c')) := by
  rw [perform, perform, hr.stations.contains h]
  exact hr.answering (hr.stations.modify fun _ _ _ _ hmatch => hmatch.readvertise hc) (.known _)

theorem deregister (h : Handle) :
    StepsMatch V E d t d' t' (r.perform (.deregister h)) (r'.perform (.deregister h)) := by
  rw [perform, perform]
  rcases rel_cases (hr.stations.deregister (fun _ _ hmatch => hmatch.address) h) with
    ⟨hx, hx'⟩ | ⟨⟨st, stations⟩, ⟨st', stations'⟩, hx, hx', hmatch, hstations⟩
  · rw [hx, hx']
    exact hr.answering hr.stations (.removed .none)
  · rw [hx, hx']
    exact hr.answering hstations (.removed (.some hmatch))

theorem report (h : Handle) (f : Feedback) : StepsMatch V E d t d' t' (.ok (r.report h f)) (.ok (r'.report h f)) := by
  unfold RateControl.report
  rcases rel_cases (hr.stations.station h) with ⟨hst, hst'⟩ | ⟨st, st', hst, hst', -⟩
  · rw [hst, hst']
    exact hr.answering hr.stations (.effect none)
  · rw [hst, hst']
    dsimp only
    rw [Station.apply_snd st st' f]
    exact hr.answering (hr.stations.modify fun _ _ _ _ hmatch => hmatch.apply f) (.effect _)

theorem reportFrom (a : MacAddress) (f : Feedback) :
    StepsMatch V E d t d' t' (r.perform (.reportFrom a f)) (r'.perform (.reportFrom a f)) := by
  rw [perform, perform, hr.stations.handleOf? a]
  cases r.stations.handleOf? a with
  | none => exact hr.answering hr.stations (.effect none)
  | some h => exact hr.report h f

theorem selectData (hd : Agrees V E d t d' t') (h : Handle) :
    StepsMatch V E d t d' t' (r.perform (.selectData h)) (r'.perform (.selectData h)) := by
  obtain ⟨observers, hselector, hselector'⟩ := hr.selectors
  rcases rel_cases (hr.stations.station h) with ⟨hst, hst'⟩ | ⟨st, st', hst, hst', hmatch⟩
  · rw [perform, perform, RateControl.selectData, RateControl.selectData, hst, hst']
    exact hr.answering hr.stations (.vector .none)
  · obtain ⟨chosen, chosen', hchosen, hchosen', hsame⟩ := Selector.selectData_matches hd hmatch observers
    rw [← hselector] at hchosen
    rw [← hselector'] at hchosen'
    have hstations : (r.stations.modify h fun _ => chosen.station).Paired (Station.Matches V)
        (r'.stations.modify h fun _ => chosen'.station) := hr.stations.modify fun _ _ _ _ _ => hsame.station
    refine ⟨_, _, selectData_of_get? hst hchosen, selectData_of_get? hst' hchosen', ?_, hr.selectors, hstations⟩
    refine ⟨.vector (.some (hd.answers hsame.vector)), hsame.change, ?_, hstations⟩
    dsimp only
    rw [hsame.change, hselector, hselector']

theorem selectRts (hd : Agrees V E d t d' t') (h : Handle) :
    StepsMatch V E d t d' t' (r.perform (.selectRts h)) (r'.perform (.selectRts h)) := by
  obtain ⟨observers, hselector, hselector'⟩ := hr.selectors
  rcases rel_cases (hr.stations.station h) with ⟨hst, hst'⟩ | ⟨st, st', hst, hst', hmatch⟩
  · rw [perform, perform, RateControl.selectRts, RateControl.selectRts, hst, hst']
    exact hr.answering hr.stations (.vector .none)
  · obtain ⟨v, v', hv, hv', hE⟩ := Selector.selectRts_matches hd hmatch observers
    rw [← hselector] at hv
    rw [← hselector'] at hv'
    rw [selectRts_of_get? hst hv, selectRts_of_get? hst' hv']
    exact hr.answering hr.stations (.vector (.some hE))

theorem attend {act : Action} (hact : act.isForObservers = true) :
    StepsMatch V E d t d' t' (r.perform act) (r'.perform act) := by
  obtain ⟨observers, hselector, hselector'⟩ := hr.selectors
  obtain ⟨turn, answer, hperform, hanswers⟩ := perform_isForObservers hact
  rw [hperform, hperform, hselector, hselector']
  refine ⟨_, _, rfl, rfl, ⟨?_, rfl, rfl, hr.stations⟩, ⟨turn observers, rfl, rfl⟩, hr.stations⟩
  dsimp only
  obtain ⟨place, hplace⟩ | ⟨wasKnown, hknown⟩ := hanswers observers
  · rw [hplace]
    exact .subscribed place
  · rw [hknown]
    exact .known wasKnown

/-- **Two radios stay in step with every action.** -/
theorem perform (hd : Agrees V E d t d' t') {act act' : Action} (hact : act.Matches act') :
    StepsMatch V E d t d' t' (r.perform act) (r'.perform act') := by
  cases hact with
  | register hc => exact hr.register _ hc
  | update hc => exact hr.update _ hc
  | same =>
    cases act with
    | register a c => exact hr.register a (.refl c)
    | update h c => exact hr.update h (.refl c)
    | deregister h => exact hr.deregister h
    | report h f => exact hr.report h f
    | reportFrom a f => exact hr.reportFrom a f
    | selectData h => exact hr.selectData hd h
    | selectRts h => exact hr.selectRts hd h
    | subscribe observer => exact hr.attend rfl
    | hangUp place => exact hr.attend rfl

end InStep

theorem run_cons {r : RateControl} {act : Action} {acts : List Action} {o : Outcome} {rest : List Outcome}
    (ho : r.perform act = .ok o) (hrest : o.next.run acts = .ok rest) : r.run (act :: acts) = .ok (o :: rest) :=
  Attempt.bind_eq_ok.2 ⟨o, ho, Attempt.bind_eq_ok.2 ⟨rest, hrest, rfl⟩⟩

/-- **Two radios in step have matching outcomes in every run.** -/
theorem run_matches (hd : Agrees V E d t d' t') {acts acts' : List Action} (hacts : List.Forall₂ Action.Matches acts acts')
    {r r' : RateControl} (hr : InStep V d t d' t' r r') :
    ∃ outcomes outcomes', r.run acts = .ok outcomes ∧ r'.run acts' = .ok outcomes' ∧
      List.Forall₂ (Outcome.Matches V E) outcomes outcomes' := by
  induction hacts generalizing r r' with
  | nil => exact ⟨[], [], rfl, rfl, .nil⟩
  | cons hact _ ih =>
    obtain ⟨o, o', ho, ho', hmatch, hnext⟩ := hr.perform hd hact
    obtain ⟨rest, rest', hrest, hrest', hall⟩ := ih hnext
    exact ⟨o :: rest, o' :: rest', run_cons ho hrest, run_cons ho' hrest', .cons hmatch hall⟩

end RateControl
end LinkAdaptation

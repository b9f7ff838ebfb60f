import LinkAdaptation.Proofs.Control.Turn
/-!
# What the counters count

The counters of a station are raised in different places, and no place knows of the others.  Held against all that was
performed since the station registered they add up (`RateControl.run_accounted`): every data selection is a search or was
answered without one, a search falls back or finds something, and every answer to a frame is taken or discarded.  What a
deed adds is said once (`Station.Tallied.undergoes`); the history of a handle is taken one step back by `Run.comes`.
-/
namespace LinkAdaptation

variable {d : Device} {t : Thresholds}

/-! ## What is counted -/

namespace Feedback

/-- Whether a report answers a data frame without an SNR that is a measurement. -/
def isUnusable : Feedback → Bool
  | .dataAnswered _ snr | .aggregateAnswered _ _ _ snr => !(snr.isFinite && 0.0 < snr)
  | _ => false

theorem isUnusable_eq (f : Feedback) : f.isUnusable = (f.isAnswer && f.accepted?.isNone) := by
  have hnone : ∀ (b : Bool) (x : Float), (if b then some x else none).isNone = !b := fun b x => by cases b <;> rfl
  cases f with
  | dataAnswered ack snr => exact (hnone _ snr).symm
  | aggregateAnswered arrived lost heard snr => exact (hnone _ snr).symm
  | _ => rfl

/-- **A report that answers a frame is counted once**, as one that is taken or as one that cannot be used. -/
theorem counted_eq (f : Feedback) (c : Counters) :
    f.counted c =
      { c with
        snrUpdates := c.snrUpdates + if f.isAnswer && !f.isUnusable then 1 else 0
        discardedReports := c.discardedReports + if f.isUnusable then 1 else 0 } := by
  rw [counted, isUnusable_eq]
  cases f.isAnswer with
  | false => rfl
  | true => cases f.accepted? <;> rfl

end Feedback

/-- The report that an action brings. -/
def Action.feedback? : Action → Option Feedback
  | .report _ f | .reportFrom _ f => some f
  | _ => none

/-- Whether a deed is a data selection that was answered. -/
def Deed.selectsData (deed : Deed) : Bool :=
  match deed.action, deed.outcome.answer with
  | .selectData _, .vector (some _) => true
  | _, _ => false

/-- All counters. -/
def Counters.all (c : Counters) : List Nat :=
  [c.freshSearches, c.cacheHits, c.fallbacks, c.rateChanges, c.snrUpdates, c.discardedReports]

/-! ## What a deed adds -/

/-- The counters of a station add up to what was done to it. -/
structure Station.Tallied (deeds : List Deed) (st : Station) : Prop where
  selections : st.counters.freshSearches + st.counters.cacheHits = deeds.countP Deed.selectsData
  changes : st.counters.rateChanges = (emitted deeds).length
  searches : st.counters.fallbacks + st.counters.rateChanges ≤ st.counters.freshSearches
  fallbacks_eq_iff : st.counters.fallbacks = st.counters.freshSearches ↔ st.cached = none
  discarded : st.counters.discardedReports = deeds.countP (·.action.feedback?.any Feedback.isUnusable)
  reports : st.counters.snrUpdates + st.counters.discardedReports =
    deeds.countP (·.action.feedback?.any Feedback.isAnswer)

namespace Station.Tallied

variable {deeds : List Deed} {deed : Deed} {st st' : Station}

theorem fresh (a : MacAddress) (c : Capabilities) : (Station.fresh a c).Tallied [] :=
  ⟨rfl, rfl, Nat.le_refl _, ⟨fun _ => rfl, fun _ => rfl⟩, rfl, rfl⟩

/-- **What selects no data and reports nothing adds nothing.** -/
theorem idle (h : st.Tallied deeds) (hselects : deed.selectsData = false) (hchange : deed.outcome.change = none)
    (hfeedback : deed.action.feedback? = none) (hcounters : st'.counters = st.counters)
    (hcached : st'.cached = st.cached) : st'.Tallied (deed :: deeds) where
  selections := by rw [hcounters, List.countP_cons_of_neg (by simp [hselects])]; exact h.selections
  changes := by rw [hcounters, emitted_cons, hchange]; exact h.changes
  searches := by rw [hcounters]; exact h.searches
  fallbacks_eq_iff := by rw [hcounters, hcached]; exact h.fallbacks_eq_iff
  discarded := by rw [hcounters, List.countP_cons_of_neg (by simp [hfeedback])]; exact h.discarded
  reports := by rw [hcounters, List.countP_cons_of_neg (by simp [hfeedback])]; exact h.reports

/-- **A report adds to the counters of reports** and to no other one. -/
theorem apply (h : st.Tallied deeds) {f : Feedback} (hselects : deed.selectsData = false)
    (hchange : deed.outcome.change = none) (hfeedback : deed.action.feedback? = some f) :
    (st.apply f).1.Tallied (deed :: deeds) := by
  rw [apply_fst, Feedback.counted_eq]
  refine
    { selections := ?_
      changes := ?_
      searches := h.searches
      fallbacks_eq_iff := h.fallbacks_eq_iff
      discarded := ?_
      reports := ?_ }
  · rw [List.countP_cons_of_neg (by simp [hselects])]
    exact h.selections
  · rw [emitted_cons, hchange]
    exact h.changes
  · rw [List.countP_cons, hfeedback, Option.any_some, ← h.discarded]
  · have hunusable : f.isUnusable = true → f.isAnswer = true := by
      rw [Feedback.isUnusable_eq]
      exact fun hboth => (Bool.and_eq_true_iff.1 hboth).1
    rw [List.countP_cons, hfeedback, Option.any_some, ← h.reports]
    dsimp only
    cases hf : f.isUnusable with
    | true => rw [hunusable hf]; simp; omega
    | false => cases f.isAnswer <;> simp; omega

/-- **A data selection adds a search or a hit**, and to a search what came of it. -/
theorem selectData {s : Selector} {chosen : Selection} (h : st.Tallied deeds) (hchosen : s.selectData st = .ok chosen)
    (hselects : deed.selectsData = true) (hchange : deed.outcome.change = chosen.change)
    (hfeedback : deed.action.feedback? = none) : chosen.station.Tallied (deed :: deeds) := by
  have hselections : (deed :: deeds).countP Deed.selectsData = deeds.countP Deed.selectsData + 1 :=
    List.countP_cons_of_pos hselects
  have hchanges : (emitted (deed :: deeds)).length = chosen.change.toList.length + (emitted deeds).length := by
    rw [emitted_cons, hchange, List.length_append]
  have hreports : ∀ p : Feedback → Bool,
      (deed :: deeds).countP (·.action.feedback?.any p) = deeds.countP (·.action.feedback?.any p) :=
    fun p => List.countP_cons_of_neg (by simp [hfeedback])
  have hdiscarded := h.discarded.trans (hreports _).symm
  have hreported := h.reports.trans (hreports _).symm
  obtain ⟨h₁, h₂, h₃, h₄, -, -⟩ := h
  rw [← h₁] at hselections
  rw [← h₂] at hchanges
  cases Selector.selects_of_selectData hchosen with
  | reuses => exact ⟨hselections.symm, (hchanges.trans (Nat.zero_add _)).symm, h₃, h₄, hdiscarded, hreported⟩
  | fallsBack =>
    refine ⟨?_, (hchanges.trans (Nat.zero_add _)).symm, ?_, ?_, hdiscarded, hreported⟩
    · rw [hselections]
      exact Nat.add_right_comm _ _ _
    · show st.counters.fallbacks + 1 + st.counters.rateChanges ≤ st.counters.freshSearches + 1
      omega
    · show st.counters.fallbacks + 1 = st.counters.freshSearches + 1 ↔ st.cached = none
      rw [← h₄]
      omega
  | adopts =>
    refine ⟨?_, ?_, ?_, ⟨fun heq => ?_, fun hnone => ?_⟩, hdiscarded, hreported⟩
    · rw [hselections]
      exact Nat.add_right_comm _ _ _
    · rw [hchanges]
      dsimp only
      split <;> simp [Nat.add_comm]
    · dsimp only
      split <;> omega
    -- something is kept from now on, and this search is one that did not fall back
    · dsimp only at heq
      omega
    · cases hnone

/-- **The counters go on adding up**, whatever a station undergoes. -/
theorem undergoes (h : st.Tallied deeds) (hdeed : Undergoes d t st deed st') : st'.Tallied (deed :: deeds) := by
  cases hdeed with
  | register _ hchange => exact h.idle rfl hchange rfl rfl rfl
  | update _ hchange => exact h.idle rfl hchange rfl rfl rfl
  | report _ hchange => exact h.apply rfl hchange rfl
  | reportFrom _ hchange => exact h.apply rfl hchange rfl
  | selectData hchosen hanswer hchange =>
    exact h.selectData hchosen (by rw [Deed.selectsData, hanswer]) hchange rfl
  | selectRts _ _ hchange => exact h.idle rfl hchange rfl rfl rfl

/-- **No counter is greater than the number of deeds.** -/
theorem le_length (h : st.Tallied deeds) : ∀ n ∈ st.counters.all, n ≤ deeds.length := by
  have hselections : deeds.countP Deed.selectsData ≤ deeds.length := List.countP_le_length
  have hreports : deeds.countP (·.action.feedback?.any Feedback.isAnswer) ≤ deeds.length := List.countP_le_length
  obtain ⟨h₁, -, h₃, -, -, h₆⟩ := h
  simp only [Counters.all, List.forall_mem_cons, List.not_mem_nil, false_implies, implies_true, and_true]
  omega

end Station.Tallied

/-- **A choice that is kept is given up for another one only.** -/
theorem Undergoes.cached_eq_none {st st' : Station} {deed : Deed} (hdeed : Undergoes d t st deed st')
    (h : st'.cached = none) : st.cached = none := by
  cases hdeed with
  | register => exact h
  | update => exact h
  | report => rw [Station.apply_fst] at h; exact h
  | reportFrom => rw [Station.apply_fst] at h; exact h
  | selectRts => exact h
  | selectData hchosen =>
    cases Selector.selects_of_selectData hchosen with
    | reuses => exact h
    | fallsBack => exact h
    | adopts => cases h

theorem Lives.tallied {l : Life} {st : Station} (h : Lives d t l st) : st.Tallied l.deeds := by
  induction h with
  | fresh => exact .fresh _ _
  | step _ hdeed ih => exact ih.undergoes hdeed

/-! ## One step back -/

/-- The deeds since the station at a handle registered, whomever they were about. -/
def recentAt (h : Handle) : List Deed → List Deed
  | [] => []
  | deed :: past => if (lifeAt h past).isSome then deed :: recentAt h past else []

/-- How a deed led to the station at a handle: it brought the station, it was about another one, or the station underwent
it. -/
inductive Comes (d : Device) (t : Thresholds) (h : Handle) (past : List Deed) (s : RateControl) (deed : Deed) :
    Life → Station → Prop
  | begins {a : MacAddress} {c : Capabilities} : recentAt h (deed :: past) = [] →
      Comes d t h past s deed ⟨a, c, []⟩ (.fresh a c)
  | apart {l : Life} {st : Station} : lifeAt h past = some l → s.stations.get? h = some st →
      recentAt h (deed :: past) = deed :: recentAt h past → deed.action.concerns st.address h = false →
      Comes d t h past s deed l st
  | lives {l : Life} {st st' : Station} : lifeAt h past = some l → s.stations.get? h = some st →
      recentAt h (deed :: past) = deed :: recentAt h past → deed.action.concerns st.address h = true →
      Undergoes d t st deed st' → Comes d t h past s deed (l.add deed) st'

/-- **The station at a handle, one step back.** -/
theorem Run.comes {observers : Observers} {past : List Deed} {s : RateControl} {act : Action} {o : Outcome}
    (hrun : Run ⟨⟨d, t, observers⟩, {}⟩ past s) (ho : s.perform act = .ok o) {h : Handle} {l : Life} {st : Station}
    (hlife : lifeAt h (⟨act, o⟩ :: past) = some l) (hst : o.next.stations.get? h = some st) :
    Comes d t h past s ⟨act, o⟩ l st := by
  obtain ⟨hkeeps, hlives⟩ := hrun.lives
  have hpassage := hkeeps.passage ho h
  have hrel := hlives h
  rw [hst] at hpassage
  generalize hbefore : s.stations.get? h = before at hpassage hrel
  rw [lifeAt] at hlife
  cases hlast : lifeAt h past with
  | none =>
    rw [hlast] at hlife hrel
    cases hrel
    cases hpassage with
    | begins hbegins =>
      dsimp only at hlife
      rw [hbegins] at hlife
      cases hlife
      exact .begins (by rw [recentAt, hlast]; rfl)
  | some l₀ =>
    have hrecent : recentAt h (⟨act, o⟩ :: past) = ⟨act, o⟩ :: recentAt h past := by rw [recentAt, hlast]; rfl
    rw [hlast] at hlife hrel
    cases hrel with
    | some hl₀ =>
      dsimp only at hlife
      rw [← hl₀.address] at hlife
      cases hpassage with
      | apart hconcerns hends =>
        simp only [hends, hconcerns] at hlife
        cases hlife
        exact .apart hlast hbefore hrecent hconcerns
      | lives hconcerns hends hundergoes =>
        simp only [hends, hconcerns] at hlife
        cases hlife
        exact .lives hlast hbefore hrecent hconcerns hundergoes

/-- **A life is made of the recent deeds that concern the station.** -/
theorem Life.deeds_eq_filter {h : Handle} {past : List Deed} {l : Life} (hlife : lifeAt h past = some l) :
    l.deeds = (recentAt h past).filter (·.action.concerns l.address h) := by
  induction past generalizing l with
  | nil => cases hlife
  | cons deed past ih =>
    rw [lifeAt] at hlife
    rw [recentAt]
    cases hlast : lifeAt h past with
    | none =>
      rw [hlast] at hlife
      obtain ⟨begun, -, rfl⟩ := Option.map_eq_some_iff.1 hlife
      rfl
    | some l₀ =>
      rw [hlast] at hlife
      dsimp only at hlife
      rw [Option.isSome_some, if_pos rfl, List.filter_cons]
      split at hlife
      · cases hlife
      · split at hlife
        · rename_i hconcerns
          cases hlife
          rw [show (l₀.add deed).address = l₀.address from rfl, if_pos hconcerns, ← ih hlast]
          rfl
        · rename_i hconcerns
          cases hlife
          rw [if_neg hconcerns]
          exact ih hlast

section

variable {observers : Observers} {past : List Deed} {s : RateControl} {h : Handle} {l : Life} {st : Station}

/-- **All recent changes of the rate of a station come from its life.** -/
theorem Run.changesOf_recentAt (hrun : Run ⟨⟨d, t, observers⟩, {}⟩ past s) (hlife : lifeAt h past = some l)
    (hst : s.stations.get? h = some st) : changesOf st.address (recentAt h past) = emitted l.deeds := by
  induction hrun generalizing l st with
  | start => cases hlife
  | @step past s act o hrun ho ih =>
    cases hrun.comes ho hlife hst with
    | begins hrecent => rw [hrecent]; rfl
    | apart hlast hbefore hrecent hconcerns =>
      have hkeeps := hrun.lives.1
      have hhandle := (hkeeps.stations.handleOf?_iff st.address h).2 ⟨st, hbefore, rfl⟩
      have hfor : act.isFor st.address (s.stations.handleOf? st.address) = false := by
        rw [hhandle, Action.isFor_some]
        exact hconcerns
      obtain ⟨-, hother⟩ := RateControl.perform_apart hkeeps ho hfor
      rw [hrecent, changesOf_cons_of_apart hother]
      exact ih hlast hbefore
    | @lives l₀ st₀ _ hlast hbefore hrecent _ hundergoes =>
      rw [hrecent, changesOf_cons, hundergoes.address, ih hlast hbefore]
      show _ = emitted (⟨act, o⟩ :: l₀.deeds)
      rw [emitted_cons]
      congr 1
      obtain ⟨hchange, -⟩ | ⟨c, hchange, hc, -⟩ := hundergoes.rate
      · rw [hchange]
        rfl
      · rw [hchange]
        exact List.filter_cons_of_pos (decide_eq_true hc)

/-- **A station keeps no choice exactly if it never kept one.** -/
theorem Run.cached_eq_none_iff (hrun : Run ⟨⟨d, t, observers⟩, {}⟩ past s) (hlife : lifeAt h past = some l)
    (hst : s.stations.get? h = some st) :
    st.cached = none ↔ ∀ deed ∈ recentAt h past, ∀ st', deed.outcome.next.stations.get? h = some st' →
      st'.cached = none := by
  induction hrun generalizing l st with
  | start => cases hlife
  | @step past s act o hrun ho ih =>
    -- it is enough that no earlier state had a choice, for the latest one is that of the station itself
    have hlatest : recentAt h (⟨act, o⟩ :: past) = ⟨act, o⟩ :: recentAt h past →
        (st.cached = none → ∀ deed ∈ recentAt h past, ∀ st', deed.outcome.next.stations.get? h = some st' →
          st'.cached = none) →
        (st.cached = none ↔ ∀ deed ∈ recentAt h (⟨act, o⟩ :: past), ∀ st',
          deed.outcome.next.stations.get? h = some st' → st'.cached = none) := by
      intro hrecent hearlier
      rw [hrecent, List.forall_mem_cons]
      refine ⟨fun hnone => ⟨fun st' hst' => ?_, hearlier hnone⟩, fun hall => hall.1 st hst⟩
      cases hst.symm.trans hst'
      exact hnone
    cases hrun.comes ho hlife hst with
    | begins hrecent =>
      rw [hrecent]
      exact ⟨fun _ _ hdeed => absurd hdeed List.not_mem_nil, fun _ => rfl⟩
    | apart hlast hbefore hrecent => exact hlatest hrecent (ih hlast hbefore).1
    | lives hlast hbefore hrecent _ hundergoes =>
      exact hlatest hrecent fun hnone => (ih hlast hbefore).1 (hundergoes.cached_eq_none hnone)

end

/-! ## Adding up -/

namespace RateControl

/-- The counters of the station at a handle add up to what was performed since it registered. -/
structure Accounted (s : RateControl) (past : List Deed) (h : Handle) (st : Station) (l : Life) : Prop where
  /-- What was done to the station are the recent deeds that concern it. -/
  life : lifeAt h past = some l ∧ l.address = st.address ∧
    l.deeds = (recentAt h past).filter (·.action.concerns st.address h)
  /-- Each data selection searched or was answered from the cache. -/
  selections : st.counters.freshSearches + st.counters.cacheHits = l.deeds.countP Deed.selectsData
  changes : st.counters.rateChanges = (changesOf st.address (recentAt h past)).length
  searches : st.counters.fallbacks + st.counters.rateChanges ≤ st.counters.freshSearches
  /-- Every search fell back exactly if the station has kept no choice at any time. -/
  fallbacks_eq_iff : st.counters.fallbacks = st.counters.freshSearches ↔
    ∀ deed ∈ recentAt h past, ∀ st', deed.outcome.next.stations.get? h = some st' → st'.cached = none
  discarded : st.counters.discardedReports = l.deeds.countP (·.action.feedback?.any Feedback.isUnusable)
  /-- Each answer to a frame was taken or discarded. -/
  reports : st.counters.snrUpdates + st.counters.discardedReports =
    l.deeds.countP (·.action.feedback?.any Feedback.isAnswer)
  /-- As long as fewer than `2 ^ 64` actions were performed, no counter outgrows 64 bits. -/
  bounded : ∀ n ∈ st.counters.all, n ≤ past.length
  /-- New capabilities leave the counters as they are. -/
  kept : ∀ {act c o}, act = .update h c ∨ act = .register st.address c → s.perform act = .ok o →
    ∃ st', o.next.stations.get? h = some st' ∧ st'.capabilities = c ∧ st'.counters = st.counters
  /-- Once the station is removed its address is unknown, and when it registers again all counters start at 0. -/
  reset : ∀ {o}, s.perform (.deregister h) = .ok o → o.next.stations.handleOf? st.address = none ∧
    ∀ {later s' c o'}, Run o.next later s' → s'.stations.handleOf? st.address = none →
      s'.perform (.register st.address c) = .ok o' →
        ∃ h' st', o'.answer = .registered h' ∧ o'.next.stations.get? h' = some st' ∧ st'.address = st.address ∧
          st'.counters = {}

end RateControl

theorem recentAt_length_le (h : Handle) (past : List Deed) : (recentAt h past).length ≤ past.length := by
  induction past with
  | nil => exact Nat.le_refl _
  | cons deed past ih =>
    rw [recentAt]
    split
    · exact Nat.succ_le_succ ih
    · exact Nat.zero_le _

namespace RateControl

variable {s : RateControl} {o : Outcome} {h : Handle} {st : Station}

/-- **New capabilities touch no counter.** -/
theorem counters_of_readvertised (hs : s.Keeps d t) (hst : s.stations.get? h = some st) {act : Action} {c : Capabilities}
    (hact : act = .update h c ∨ act = .register st.address c) (ho : s.perform act = .ok o) :
    ∃ st', o.next.stations.get? h = some st' ∧ st'.capabilities = c ∧ st'.counters = st.counters := by
  have hmodified := Registry.get?_modify_self hst (·.readvertise c)
  obtain rfl | rfl := hact
  · cases ho
    exact ⟨_, hmodified, rfl, rfl⟩
  · have hhandle := (hs.stations.handleOf?_iff st.address h).2 ⟨st, hst, rfl⟩
    rw [perform_register, Registry.register_of_known hs.stations hhandle] at ho
    cases ho
    exact ⟨_, hmodified, rfl, rfl⟩

/-- **An address that is not known registers with all counters at 0.** -/
theorem counters_of_registered (hs : s.Keeps d t) {a : MacAddress} (ha : s.stations.handleOf? a = none)
    {c : Capabilities} (ho : s.perform (.register a c) = .ok o) :
    ∃ h' st', o.answer = .registered h' ∧ o.next.stations.get? h' = some st' ∧ st'.address = a ∧ st'.counters = {} := by
  rw [perform_register, Registry.register_of_unknown ha] at ho
  cases ho
  refine ⟨_, .fresh a c, rfl, ?_, rfl, rfl⟩
  exact (Registry.get?_enrol hs.stations a c _).trans (if_pos rfl)

/-- **In every state of every run the counters of each station add up.** -/
theorem run_accounted {model : ErrorModel} {target : Float} {r : RateControl} {past : List Deed}
    (hr : build d model target = .ok r) (hrun : Run r past s) (hst : s.stations.get? h = some st) :
    ∃ l, s.Accounted past h st l := by
  obtain ⟨-, t, -, rfl⟩ := build_eq_ok_iff.1 hr
  obtain ⟨l, hlife, hl⟩ := hrun.exists_life hst
  have hkeeps := hrun.lives.1
  have htallied := hl.tallied
  have hdeeds := Life.deeds_eq_filter hlife
  rw [← hl.address] at hdeeds
  refine ⟨l,
    { life := ⟨hlife, hl.address.symm, hdeeds⟩
      selections := htallied.selections
      changes := by rw [hrun.changesOf_recentAt hlife hst]; exact htallied.changes
      searches := htallied.searches
      fallbacks_eq_iff := htallied.fallbacks_eq_iff.trans (hrun.cached_eq_none_iff hlife hst)
      discarded := htallied.discarded
      reports := htallied.reports
      bounded := fun n hn => ?_
      kept := counters_of_readvertised hkeeps hst
      reset := fun {o} ho => ⟨handleOf?_of_deregistered hst ho, fun {later s' c o'} hlater ha ho' => ?_⟩ }⟩
  · calc n ≤ l.deeds.length := htallied.le_length n hn
      _ ≤ (recentAt h past).length := hdeeds ▸ List.length_filter_le _ _
      _ ≤ past.length := recentAt_length_le h past
  · have hkeeps' := hlater.invariant (P := Keeps d t) (hkeeps.perform ho) fun hs ho => hs.perform ho
    exact counters_of_registered hkeeps' ha ho'

/-- One station of which each counter has been raised and which has registered again. -/
theorem run_accounted_registeredAgain :
    let d := Device.legacy [Catalog.slowestDsss]
    let model := (StepCurve.empty.set Catalog.slowestDsss 2.0).model
    ∃ r s past st l, build d model 0.5 = .ok r ∧ Run r past s ∧ past.length = 7 ∧ s.stations.get? ⟨0⟩ = some st ∧
      st.counters = ⟨2, 1, 1, 1, 1, 1⟩ ∧ s.Accounted past ⟨0⟩ st l := by
  intro d model
  let v : TxVector := .legacy Catalog.slowestDsss
  let t : Thresholds := ⟨[(v, 2.0)], 0.5⟩
  let r : RateControl := ⟨⟨d, t, {}⟩, {}⟩
  let a := MacAddress.locallyAdministered 1
  have ht : Thresholds.build d model 0.5 = .ok t := rfl
  have hr : build d model 0.5 = .ok r := build_eq_ok_iff.2 ⟨rfl, _, ht, rfl⟩
  have hd : d.Faultless := (Device.fault?_eq_none_iff d).1 rfl
  let silent : Station := .fresh a d.toCapabilities
  have hregistered : Run r _ (alone r.selector silent) := (Run.step (a := .register a d.toCapabilities) .start rfl :)
  let unheard : Station := { silent with counters := { discardedReports := 1 } }
  have hdiscarded : Run r _ (alone r.selector unheard) := (hregistered.step (a := .report ⟨0⟩ (.dataAnswered 3.0 0.0)) rfl :)
  let fallen : Station := { unheard with counters := { unheard.counters with freshSearches := 1, fallbacks := 1 } }
  have hnothing := Selector.selectData_of_search hd (Thresholds.covers_of_build ht) {} (rfl : unheard.reusable? = none)
  rw [show t.choose d unheard.capabilities unheard.observed = none by decide +kernel] at hnothing
  have hfallen : Run r _ (alone r.selector fallen) := (hdiscarded.step (selectData_of_get? (h := ⟨0⟩) rfl hnothing) :)
  let heard : Station := { fallen with observed := 4.0, counters := { fallen.counters with snrUpdates := 1 } }
  have hheard : Run r _ (alone r.selector heard) := (hfallen.step (a := .report ⟨0⟩ (.rtsAnswered 4.0 4.0)) rfl :)
  let sent : Station := { heard with
    used := some heard.observed, cached := some v, cachedRate := (t.candidate v).dataRate
    counters := { heard.counters with freshSearches := 2, rateChanges := 1 } }
  have hrate : heard.cachedRate ≠ (t.candidate v).dataRate := by decide +kernel
  have hfound := Selector.selectData_of_choose hd (Thresholds.covers_of_build ht) {} (rfl : heard.reusable? = none)
    (show t.choose d heard.capabilities heard.observed = some v by decide +kernel)
  rw [Selector.adopt_eq, if_neg hrate, if_neg hrate] at hfound
  have hsent : Run r _ (alone r.selector sent) := (hheard.step (selectData_of_get? (h := ⟨0⟩) rfl hfound) :)
  have hreusable : sent.reusable? = some v := by decide +kernel
  have hreused := hsent.step (selectData_of_get? (h := ⟨0⟩) rfl (Selector.selectData_of_reusable hreusable))
  have hrun := hreused.step (a := .register a d.toCapabilities) rfl
  obtain ⟨l, hl⟩ := run_accounted hr hrun (h := ⟨0⟩) rfl
  exact ⟨r, _, _, _, l, hr, hrun, rfl, rfl, rfl, hl⟩

end RateControl
end LinkAdaptation

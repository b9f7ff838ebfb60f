import LinkAdaptation.Proofs.Control.Coherence
import LinkAdaptation.Proofs.Control.Turn
/-!
# What observers hear

Whoever observes a rate control sees the rate of each station go from one change to the next without a gap
(`RateControl.build_announces`).  While a station stays, the rate it keeps is the one that the last change told of; nothing
but a search that found another rate tells of one; and an observer hears of every change from its subscription on for as
long as it listens, whoever else listens or has ceased to.
-/
namespace LinkAdaptation

variable {d : Device} {t : Thresholds}

/-! ## Chains of changes -/

/-- The rate that the changes of a station led to, the latest change first; 0 before there is one. -/
def lastRate : List RateChange → Nat
  | [] => 0
  | c :: _ => c.newRate

/-- **Each change starts at the rate where the one before it ended**, and ends at another one. -/
def Linked : List RateChange → Prop
  | [] => True
  | c :: earlier => c.oldRate = lastRate earlier ∧ c.oldRate ≠ c.newRate ∧ Linked earlier

/-! ## Stays -/

/-- **A stay**: in a run from `r`, what was performed since `a` registered, the latest deed first, did not remove it. -/
inductive Stay (r : RateControl) (a : MacAddress) : List Deed → RateControl → Prop
  | begins {past : List Deed} {s : RateControl} {c : Capabilities} {o : Outcome} :
      Run r past s → s.stations.handleOf? a = none → s.perform (.register a c) = .ok o → Stay r a [] o.next
  | goes {recent : List Deed} {s : RateControl} {act : Action} {o : Outcome} :
      Stay r a recent s → s.perform act = .ok o → o.answer.removes a = false → Stay r a (⟨act, o⟩ :: recent) o.next

theorem Stay.exists_run {r s : RateControl} {a : MacAddress} {recent : List Deed} (h : Stay r a recent s) :
    ∃ past, Run r past s := by
  induction h with
  | begins hrun _ ho => exact ⟨_, hrun.step ho⟩
  | goes _ ho _ ih =>
    obtain ⟨past, hrun⟩ := ih
    exact ⟨_, hrun.step ho⟩

/-! ## The chain of a stay -/

/-- The station of an address keeps the rate that its changes led to. -/
structure Chained (a : MacAddress) (recent : List Deed) (s : RateControl) : Prop where
  linked : Linked (changesOf a recent)
  station : ∃ st, s.stations.ofAddress? a = some st ∧ st.cachedRate = lastRate (changesOf a recent)

namespace Chained

variable {s : RateControl} {a : MacAddress} {recent : List Deed} {o : Outcome} {act : Action}

/-- **A chain goes on** as long as the station is not removed. -/
theorem perform (h : Chained a recent s) (hs : s.Keeps d t) (ho : s.perform act = .ok o)
    (hstays : o.answer.removes a = false) : Chained a (⟨act, o⟩ :: recent) o.next := by
  obtain ⟨st, hst, hrate⟩ := h.station
  -- nothing but a turn of the station itself can make its chain longer
  cases hfor : act.isFor a (s.stations.handleOf? a) with
  | false =>
    obtain ⟨hsame, hother⟩ := RateControl.perform_apart hs ho hfor
    have hchanges : changesOf a (⟨act, o⟩ :: recent) = changesOf a recent := changesOf_cons_of_apart hother recent
    refine ⟨hchanges ▸ h.linked, st, hsame.trans hst, hrate.trans (by rw [hchanges])⟩
  | true =>
    obtain ⟨h', -, haddress⟩ := hs.stations.ofAddress?_eq_some_iff.1 hst
    have hturn := RateControl.perform_turn hs ho hfor
    rw [hst] at hturn
    generalize hafter : o.next.stations.ofAddress? a = after at hturn
    cases hturn with
    | leaves _ hanswer =>
      have hremoves : o.answer.removes a = true := by
        rw [show o.answer = .removed (some st) from hanswer]
        exact decide_eq_true haddress
      rw [hremoves] at hstays
      cases hstays
    | @lives _ st' hundergoes =>
      obtain ⟨hchange, hkept⟩ | ⟨c, hchange, hc, hold, hne, hnew⟩ := hundergoes.rate
      · have hchanges : changesOf a (⟨act, o⟩ :: recent) = changesOf a recent :=
          changesOf_cons_of_apart (fun c hc => by cases hchange.symm.trans hc) recent
        exact ⟨hchanges ▸ h.linked, st', hafter, (hkept.trans hrate).trans (by rw [hchanges])⟩
      · have hchanges : changesOf a (⟨act, o⟩ :: recent) = c :: changesOf a recent :=
          changesOf_cons_of_some hchange (hc.trans haddress) recent
        exact ⟨hchanges ▸ ⟨hold.trans hrate, hne, h.linked⟩, st', hafter, by rw [hchanges]; exact hnew⟩

end Chained

theorem Stay.chained {observers : Observers} {a : MacAddress} {recent : List Deed} {s : RateControl}
    (h : Stay ⟨⟨d, t, observers⟩, {}⟩ a recent s) : Chained a recent s := by
  induction h with
  | @begins past s c o hrun ha ho =>
    have hfor : (Action.register a c).isFor a (s.stations.handleOf? a) = true := decide_eq_true rfl
    have hturn := RateControl.perform_turn hrun.lives.1 ho hfor
    rw [Registry.ofAddress?_of_unknown ha] at hturn
    generalize hafter : o.next.stations.ofAddress? a = after at hturn
    cases hturn with
    | arrives => exact ⟨trivial, _, hafter, rfl⟩
    | unheard haction => cases haction
  | goes h ho hstays ih =>
    obtain ⟨past, hrun⟩ := h.exists_run
    exact ih.perform hrun.lives.1 ho hstays

/-! ## Data selections -/

/-- **A data selection falls back or answers what the station keeps** from then on. -/
theorem Selector.selectData_answers {s : Selector} {st : Station} {chosen : Selection}
    (h : s.selectData st = .ok chosen) :
    chosen = s.fallBack st ∨
      chosen.station.cached = some chosen.vector ∧ chosen.station.counters.fallbacks = st.counters.fallbacks := by
  cases selects_of_selectData h with
  | reuses hv => exact Or.inr ⟨(Station.reusable?_eq_some_iff.1 hv).1, rfl⟩
  | fallsBack => exact Or.inl rfl
  | adopts => exact Or.inr ⟨rfl, rfl⟩

theorem exists_of_lastRate_pos {changes : List RateChange} (h : 0 < lastRate changes) :
    ∃ c earlier, changes = c :: earlier ∧ c.newRate = lastRate changes := by
  cases changes with
  | nil => cases h
  | cons c earlier => exact ⟨c, earlier, rfl, rfl⟩

/-- **The rate of a kept choice has been told of**, and no other one since. -/
theorem Stay.change_of_cached (hd : Equipped d t) {observers : Observers} {a : MacAddress} {recent : List Deed}
    {s : RateControl} (hstay : Stay ⟨⟨d, t, observers⟩, {}⟩ a recent s) {h : Handle} {st : Station} {v : TxVector}
    (hst : s.stations.get? h = some st) (ha : st.address = a) (hcached : st.cached = some v) :
    ∃ c earlier, changesOf a recent = c :: earlier ∧ c.newRate = v.dataRate := by
  obtain ⟨past, hrun⟩ := hstay.exists_run
  obtain ⟨l, -, hl⟩ := hrun.exists_life hst
  have hrated : st.cachedRate = st.cached.elim 0 TxVector.dataRate := hl.rated
  have hpos : 0 < v.dataRate := (hl.keepsSendable hd v hcached).dataRate_pos
  have hstation := hrun.lives.1.stations.ofAddress?_eq_some_iff.2 ⟨h, hst, ha⟩
  obtain ⟨st', hst', hrate⟩ := hstay.chained.station
  cases hstation.symm.trans hst'
  rw [hrated, hcached, Option.elim_some] at hrate
  rw [hrate]
  exact exists_of_lastRate_pos (hrate ▸ hpos)

/-! ## Observers -/

/-- Whether an action takes the receiver of the observer in a place away. -/
def Action.hangsUp (p : Nat) : Action → Bool
  | .hangUp place => place = p
  | _ => false

/-- What has become of the observer in a place by the end of some deeds, the latest deed first. -/
def Observer.after (observer : Observer) (p : Nat) : List Deed → Observer
  | [] => observer
  | deed :: earlier => if deed.action.hangsUp p then (observer.after p earlier).hungUp else observer.after p earlier

/-- **The deeds at which the observer in a place listened.** -/
def Observer.attended (observer : Observer) (p : Nat) : List Deed → List Deed
  | [] => []
  | deed :: earlier =>
    if (observer.after p earlier).listens then deed :: observer.attended p earlier else observer.attended p earlier

/-- What is for the observer in a place of all that is told, in the order of delivery. -/
def heard (p : Nat) (told : List (Nat × RateChange)) : List RateChange :=
  (told.filter (·.1 = p)).map (·.2)

/-- What the observer in a place heard of some deeds, the latest change first. -/
def received (p : Nat) (deeds : List Deed) : List RateChange :=
  deeds.flatMap fun deed => (heard p deed.outcome.told).reverse

theorem received_cons (p : Nat) (deed : Deed) (past : List Deed) :
    received p (deed :: past) = (heard p deed.outcome.told).reverse ++ received p past :=
  List.flatMap_cons

namespace Observers

theorem heard_concat (l : List Observer) (observer : Observer) (c : RateChange) (p : Nat) :
    heard p (notify ⟨l ++ [observer]⟩ c) =
      heard p (notify ⟨l⟩ c) ++ if p = l.length ∧ observer.listens = true then [c] else [] := by
  have hlast : notify ⟨l ++ [observer]⟩ c =
      notify ⟨l⟩ c ++ if observer.listens then [(l.length, c)] else [] := by
    unfold notify
    rw [List.zipIdx_append, List.filterMap_append, Nat.zero_add]
    cases hlistens : observer.listens <;> simp [hlistens]
  rw [hlast, heard, heard, List.filter_append, List.map_append]
  congr 1
  cases observer.listens with
  | false => simp
  | true => by_cases hp : p = l.length <;> simp [hp, eq_comm]

/-- **The observer in a place hears of a change once if it listens**, whoever the others are. -/
theorem heard_notify (o : Observers) (c : RateChange) (p : Nat) :
    heard p (o.notify c) = if (o.all[p]?).any Observer.listens then [c] else [] := by
  obtain ⟨l⟩ := o
  -- places are given from the front, so the induction takes the last observer off
  induction l using List.reverseRecOn with
  | nil => rfl
  | append_singleton l observer ih =>
    rw [heard_concat, ih]
    dsimp only
    rcases Nat.lt_trichotomy p l.length with hlt | rfl | hlt
    · rw [List.getElem?_append_left hlt, if_neg (fun h : p = l.length ∧ _ => Nat.ne_of_lt hlt h.1), List.append_nil]
    · rw [List.getElem?_concat_length, List.getElem?_eq_none (Nat.le_refl _)]
      simp
    · have hnone : (l ++ [observer])[p]? = none := List.getElem?_eq_none (by simp; omega)
      rw [hnone, List.getElem?_eq_none (Nat.le_of_lt hlt), if_neg (fun h : p = l.length ∧ _ => Nat.ne_of_gt hlt h.1),
        List.append_nil]

end Observers

namespace RateControl

variable {s : RateControl} {o : Outcome} {act : Action}

/-- **What the observer in a place hears of an action**: the change if there was one. -/
theorem heard_perform (ho : s.perform act = .ok o) (p : Nat) :
    heard p o.told = if (s.selector.observers.all[p]?).any Observer.listens then o.change.toList else [] := by
  rw [told_eq ho]
  cases o.change with
  | none => rw [Option.toList_none]; split <;> rfl
  | some c =>
    rw [Option.toList_some, List.flatMap_singleton, Observers.heard_notify]

/-- **Observers stay in their places**, and nothing happens to one but that its receiver goes away. -/
theorem observer_perform (ho : s.perform act = .ok o) {p : Nat} {observer : Observer}
    (hp : s.selector.observers.all[p]? = some observer) :
    o.next.selector.observers.all[p]? = some (if act.hangsUp p then observer.hungUp else observer) := by
  cases hact : act.isForObservers with
  | false =>
    have hapart : act.hangsUp p = false := by
      cases act with
      | hangUp => cases hact
      | _ => rfl
    rw [selector_perform ho hact, hapart]
    exact hp
  | true =>
    cases act with
    | subscribe newcomer =>
      cases ho
      exact (List.getElem?_append_left (List.getElem?_eq_some_iff.1 hp).1).trans hp
    | hangUp place =>
      cases ho
      refine (List.getElem?_modify _ place _ p).trans ?_
      rw [hp]
      by_cases hplace : place = p <;> simp [Action.hangsUp, hplace]
    | _ => cases hact

theorem size_observers_perform (ho : s.perform act = .ok o) :
    s.selector.observers.size ≤ o.next.selector.observers.size := by
  by_contra hlt
  have hafter := observer_perform ho (List.getElem?_eq_getElem (Nat.not_le.1 hlt))
  exact Nat.lt_irrefl _ (List.getElem?_eq_some_iff.1 hafter).1

end RateControl

/-- **Whoever is in a place stays there.** -/
theorem Run.observer_stays {r s : RateControl} {past : List Deed} (hrun : Run r past s) {p : Nat} {observer : Observer}
    (hp : r.selector.observers.all[p]? = some observer) :
    s.selector.observers.all[p]? = some (observer.after p past) := by
  induction hrun with
  | start => exact hp
  | step _ ho ih => exact RateControl.observer_perform ho ih

/-- **Nothing was heard in a place that nobody had taken.** -/
theorem Run.received_of_vacant {r s : RateControl} {past : List Deed} (hrun : Run r past s) {p : Nat}
    (hp : s.selector.observers.size ≤ p) : received p past = [] := by
  induction hrun with
  | start => rfl
  | @step past s act o hrun ho ih =>
    have hbefore : s.selector.observers.size ≤ p := Nat.le_trans (RateControl.size_observers_perform ho) hp
    rw [received_cons, RateControl.heard_perform ho, List.getElem?_eq_none hbefore, ih hbefore]
    rfl

/-- **Whoever is in a place hears of every change while it listens**, and of nothing else. -/
theorem Run.received_of_taken {r s : RateControl} {past : List Deed} (hrun : Run r past s) {p : Nat}
    {observer : Observer} (hp : r.selector.observers.all[p]? = some observer) :
    received p past = emitted (observer.attended p past) := by
  induction hrun with
  | start => rfl
  | @step past s act o hrun ho ih =>
    rw [received_cons, RateControl.heard_perform ho, hrun.observer_stays hp, ih, Option.any_some, Observer.attended]
    cases (observer.after p past).listens with
    | false => rfl
    | true =>
      rw [if_pos rfl, if_pos rfl, emitted_cons]
      cases o.change <;> rfl

namespace Observer

variable {observer : Observer} {p : Nat} {deeds : List Deed}

theorem after_of_stays (h : ∀ deed ∈ deeds, deed.action.hangsUp p = false) : observer.after p deeds = observer := by
  induction deeds with
  | nil => rfl
  | cons deed earlier ih =>
    obtain ⟨hdeed, hearlier⟩ := List.forall_mem_cons.1 h
    rw [after, hdeed, ih hearlier]
    rfl

/-- **An observer whose receiver stays** listens at every deed or at none. -/
theorem attended_of_stays (h : ∀ deed ∈ deeds, deed.action.hangsUp p = false) :
    observer.attended p deeds = if observer.listens then deeds else [] := by
  induction deeds with
  | nil => exact (ite_self _).symm
  | cons deed earlier ih =>
    have hearlier := (List.forall_mem_cons.1 h).2
    rw [attended, after_of_stays hearlier, ih hearlier]
    cases observer.listens <;> rfl

end Observer

/-! ## What observers can rely on -/

namespace RateControl

/-- What those who observe the rate control of a device can rely on. -/
structure Announces (d : Device) (r : RateControl) : Prop where
  /-- The changes of a station follow one another from its registration on: the first one starts at 0. -/
  linked : ∀ {a recent s}, Stay r a recent s → Linked (changesOf a recent)
  /-- A data selection falls back without a change, or the last change led to the rate of its answer. -/
  answered : ∀ {a recent s h st}, Stay r a recent s → s.stations.get? h = some st → st.address = a →
    ∃ o v st', s.perform (.selectData h) = .ok o ∧ o.answer = .vector (some v) ∧ o.next.stations.get? h = some st' ∧
      ((st'.counters.fallbacks = st.counters.fallbacks + 1 ∧ v = .legacy d.defaultMode ∧ o.change = none) ∨
        (st'.counters.fallbacks = st.counters.fallbacks ∧
          ∃ c earlier, changesOf a (⟨.selectData h, o⟩ :: recent) = c :: earlier ∧ c.newRate = v.dataRate))
  /-- A change comes from a data selection that searched and did not fall back, and leads to the rate of its answer. -/
  caused : ∀ {past s act o c}, Run r past s → s.perform act = .ok o → o.change = some c →
    ∃ h st v st', act = .selectData h ∧ s.stations.get? h = some st ∧ st.address = c.address ∧ st.isCacheValid = false ∧
      o.answer = .vector (some v) ∧ c.newRate = v.dataRate ∧ o.next.stations.get? h = some st' ∧
      st'.counters.fallbacks = st.counters.fallbacks
  /-- An observer has its place for itself and hears there of the changes since it subscribed for as long as it listens: of
  all of them, or of none, if its receiver does not go away in the meantime. -/
  heard : ∀ {past s observer o later s'}, Run r past s → s.perform (.subscribe observer) = .ok o → Run o.next later s' →
    ∃ p, o.answer = .subscribed p ∧ s'.selector.observers.all[p]? = some (observer.after p later) ∧
      received p past = [] ∧ received p later = emitted (observer.attended p later) ∧
      ((∀ deed ∈ later, deed.action.hangsUp p = false) →
        observer.after p later = observer ∧ received p later = if observer.listens then emitted later else [])

/-- **The changes that are told of can be relied on**, on a device whose modes are those of the catalogs. -/
theorem build_announces {model : ErrorModel} {target : Float} {r : RateControl}
    (hcatalog : ∀ m ∈ d.modes, m ∈ Catalog.all) (hr : build d model target = .ok r) : r.Announces d := by
  obtain ⟨hfault, t, ht, rfl⟩ := build_eq_ok_iff.1 hr
  have hd : Equipped d t := ⟨(Device.fault?_eq_none_iff d).1 hfault, Thresholds.covers_of_build ht, hcatalog⟩
  refine
    { linked := fun hstay => hstay.chained.linked
      answered := fun {a recent s h st} hstay hst ha => ?_
      caused := fun {past s act o c} hrun ho hc => ?_
      heard := fun {past s observer o later s'} hrun ho hlater => ?_ }
  · obtain ⟨past, hrun⟩ := hstay.exists_run
    obtain ⟨observers, hselector⟩ := hrun.lives.1.selector
    obtain ⟨l, -, hl⟩ := hrun.exists_life hst
    obtain ⟨chosen, hchosen, -⟩ := Selector.selectData_sendable hd observers (hl.keepsSendable hd)
    rw [← hselector] at hchosen
    have ho := selectData_of_get? hst hchosen
    have hst' := Registry.get?_modify_self hst fun _ => chosen.station
    refine ⟨_, chosen.vector, chosen.station, ho, rfl, hst', ?_⟩
    rcases Selector.selectData_answers hchosen with rfl | ⟨hcached, hfallbacks⟩
    · have hdefault : s.selector.fallback = .legacy d.defaultMode := by rw [hselector]; rfl
      exact Or.inl ⟨rfl, hdefault, rfl⟩
    · have haddress : chosen.station.address = a := (Selector.selectData_keeps hchosen).1.trans ha
      exact Or.inr ⟨hfallbacks, (hstay.goes ho rfl).change_of_cached hd hst' haddress hcached⟩
  · obtain ⟨h, st, chosen, rfl, hst, hchosen, hchange, hanswer, hst'⟩ := change_cases ho hc
    obtain ⟨rfl, -, -, hreusable, hfallbacks⟩ := Selector.change_of_selectData hchosen hchange
    exact ⟨h, st, chosen.vector, chosen.station, rfl, hst, rfl, Station.reusable?_eq_none_iff.1 hreusable, hanswer, rfl,
      hst', hfallbacks⟩
  · cases ho
    have hp : (s.selector.observers.all ++ [observer])[s.selector.observers.size]? = some observer :=
      List.getElem?_concat_length
    have hreceived := hlater.received_of_taken hp
    refine ⟨s.selector.observers.size, rfl, hlater.observer_stays hp, hrun.received_of_vacant (Nat.le_refl _), hreceived,
      fun hstays => ⟨Observer.after_of_stays hstays, ?_⟩⟩
    rw [hreceived, Observer.attended_of_stays hstays]
    cases observer.listens <;> rfl

/-- Three observers: one that never listened, one whose receiver goes away between two changes, and one that stays. -/
theorem build_announces_receiverGone :
    let slow := Catalog.slowestDsss
    let fast := Catalog.slowestOfdm
    let d := Device.legacy [slow, fast]
    let model := ((StepCurve.empty.set slow 2.0).set fast 5.0).model
    let a := MacAddress.locallyAdministered 1
    let c : RateChange := ⟨a, 0, 1000000⟩
    let c' : RateChange := ⟨a, 1000000, 6000000⟩
    ∃ r recent s, (∀ m ∈ d.modes, m ∈ Catalog.all) ∧ build d model 0.5 = .ok r ∧ r.Announces d ∧ Stay r a recent s ∧
      s.selector.observers.all = [.closedChannel, .closedChannel, .callback] ∧ changesOf a recent = [c', c] ∧
      received 0 recent = [] ∧ received 1 recent = [c] ∧ received 2 recent = [c', c] := by
  intro slow fast d model a c c'
  have hcatalog : ∀ m ∈ d.modes, m ∈ Catalog.all := by decide +kernel
  let t : Thresholds := ⟨[(.legacy slow, 2.0), (.legacy fast, 5.0)], 0.5⟩
  let r : RateControl := ⟨⟨d, t, {}⟩, {}⟩
  have ht : Thresholds.build d model 0.5 = .ok t := rfl
  have hr : build d model 0.5 = .ok r := build_eq_ok_iff.2 ⟨rfl, _, ht, rfl⟩
  have hchosen := fun (o : Observers) (st : Station) (v : TxVector) (hst : st.reusable? = none) =>
    Selector.selectData_of_choose (v := v) ((Device.fault?_eq_none_iff d).1 rfl) (Thresholds.covers_of_build ht) o hst
  let before : Observers := ⟨[.closedChannel, .channel, .callback]⟩
  have hobserved : Run r _ ⟨⟨d, t, before⟩, {}⟩ :=
    (((Run.start.step (a := .subscribe .closedChannel) rfl).step (a := .subscribe .channel) rfl).step
      (a := .subscribe .callback) rfl :)
  let silent : Station := .fresh a d.toCapabilities
  have hregistered : Stay r a _ (alone ⟨d, t, before⟩ silent) := (Stay.begins (c := d.toCapabilities) hobserved rfl rfl :)
  let heard : Station := { silent with observed := 4.0, counters := { snrUpdates := 1 } }
  have hheard : Stay r a _ (alone ⟨d, t, before⟩ heard) :=
    (hregistered.goes (show perform _ (.report ⟨0⟩ (.rtsAnswered 4.0 4.0)) = .ok _ from rfl) rfl :)
  let sent : Station := { heard with
    used := some 4.0, cached := some (.legacy slow), cachedRate := 1000000
    counters := { snrUpdates := 1, freshSearches := 1, rateChanges := 1 } }
  have hslow : (t.candidate (.legacy slow)).dataRate = 1000000 := by decide +kernel
  have hfirst : Selector.selectData ⟨d, t, before⟩ heard = .ok ⟨.legacy slow, sent, some c⟩ := by
    rw [hchosen before heard (.legacy slow) rfl (by decide +kernel), Selector.adopt_eq, hslow]
    rfl
  have hsent : Stay r a _ (alone ⟨d, t, before⟩ sent) := (hheard.goes (selectData_of_get? (h := ⟨0⟩) rfl hfirst) rfl :)
  let after : Observers := ⟨[.closedChannel, .closedChannel, .callback]⟩
  have hleft : Stay r a _ (alone ⟨d, t, after⟩ sent) :=
    (hsent.goes (show perform _ (.hangUp 1) = .ok _ from rfl) rfl :)
  let nearer : Station := { sent with observed := 8.0, counters := { sent.counters with snrUpdates := 2 } }
  have hnearer : Stay r a _ (alone ⟨d, t, after⟩ nearer) :=
    (hleft.goes (show perform _ (.report ⟨0⟩ (.rtsAnswered 8.0 8.0)) = .ok _ from rfl) rfl :)
  have hfast : (t.candidate (.legacy fast)).dataRate = 6000000 := by decide +kernel
  have hsecond : ∃ st, Selector.selectData ⟨d, t, after⟩ nearer = .ok ⟨.legacy fast, st, some c'⟩ := by
    rw [hchosen after nearer (.legacy fast) (by decide +kernel) (by decide +kernel), Selector.adopt_eq, hfast]
    exact ⟨_, rfl⟩
  obtain ⟨st, hsecond⟩ := hsecond
  have hstay := hnearer.goes (selectData_of_get? (h := ⟨0⟩) rfl hsecond) rfl
  exact ⟨r, _, _, hcatalog, hr, build_announces hcatalog hr, hstay, rfl, rfl, rfl, rfl, rfl⟩

end RateControl
end LinkAdaptation

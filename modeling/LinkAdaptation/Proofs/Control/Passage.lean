import LinkAdaptation.Control.RateControl
import LinkAdaptation.Proofs.Control.Choice
import LinkAdaptation.Proofs.Station.Record
import LinkAdaptation.Proofs.Station.Registry
/-!
# What an action does at a handle

An action goes through the registry to one station at most.  `perform_passage` says once what that comes to at each
handle: nothing is there, a station begins or ends, it stays apart, or it undergoes the action.  `Keeps.perform` says what
every action leaves as it is.
-/
namespace LinkAdaptation

/-! ## What an action does to a station -/

/-- Whether an action is about the station with an address and a handle. -/
def Action.concerns (address : MacAddress) (h : Handle) : Action → Bool
  | .register a _ | .reportFrom a _ => a = address
  | .update h' _ | .deregister h' | .report h' _ | .selectData h' | .selectRts h' => h' = h
  | .subscribe _ | .hangUp _ => false

/-- Whether an action is about the observers and no station. -/
def Action.isForObservers : Action → Bool
  | .subscribe _ | .hangUp _ => true
  | _ => false

/-- An action that was performed, and what it led to. -/
structure Deed where
  action : Action
  outcome : Outcome

/-- What a deed that concerns a station makes of it, on a device with its thresholds. -/
inductive Undergoes (d : Device) (t : Thresholds) (st : Station) : Deed → Station → Prop
  | register {h : Handle} {a : MacAddress} {c : Capabilities} {o : Outcome} :
      o.answer = .registered h → o.change = none → Undergoes d t st ⟨.register a c, o⟩ (st.readvertise c)
  | update {h : Handle} {c : Capabilities} {o : Outcome} :
      o.answer = .known true → o.change = none → Undergoes d t st ⟨.update h c, o⟩ (st.readvertise c)
  | report {h : Handle} {f : Feedback} {o : Outcome} :
      o.answer = .effect (some (st.apply f).2) → o.change = none → Undergoes d t st ⟨.report h f, o⟩ (st.apply f).1
  | reportFrom {a : MacAddress} {f : Feedback} {o : Outcome} :
      o.answer = .effect (some (st.apply f).2) → o.change = none → Undergoes d t st ⟨.reportFrom a f, o⟩ (st.apply f).1
  | selectData {h : Handle} {o : Outcome} {chosen : Selection} :
      Selector.selectData ⟨d, t, {}⟩ st = .ok chosen → o.answer = .vector (some chosen.vector) →
      o.change = chosen.change → Undergoes d t st ⟨.selectData h, o⟩ chosen.station
  | selectRts {h : Handle} {o : Outcome} {v : TxVector} :
      Selector.selectRts ⟨d, t, {}⟩ st = .ok v → o.answer = .vector (some v) → o.change = none →
      Undergoes d t st ⟨.selectRts h, o⟩ st

/-- The station that a deed brings to a free handle. -/
def Deed.begins? (h : Handle) (deed : Deed) : Option (MacAddress × Capabilities) :=
  match deed.action, deed.outcome.answer with
  | .register a c, .registered h' => if h' = h then some (a, c) else none
  | _, _ => none

/-- Whether a deed takes the station of a handle away. -/
def Deed.ends (h : Handle) (deed : Deed) : Bool :=
  match deed.action with
  | .deregister h' => h' = h
  | _ => false

/-- What a deed makes of the station at a handle, before and after. -/
inductive Passage (d : Device) (t : Thresholds) (deed : Deed) (h : Handle) : Option Station → Option Station → Prop
  | absent : deed.begins? h = none → Passage d t deed h none none
  | begins {a : MacAddress} {c : Capabilities} :
      deed.begins? h = some (a, c) → Passage d t deed h none (some (.fresh a c))
  | apart {st : Station} : deed.action.concerns st.address h = false → deed.ends h = false →
      Passage d t deed h (some st) (some st)
  | lives {st st' : Station} : deed.action.concerns st.address h = true → deed.ends h = false →
      Undergoes d t st deed st' → Passage d t deed h (some st) (some st')
  | ends {st : Station} : deed.ends h = true → deed.outcome.answer = .removed (some st) → deed.outcome.change = none →
      Passage d t deed h (some st) none

variable {d : Device} {t : Thresholds}

theorem Selector.selectData_observers (observers : Observers) (st : Station) :
    selectData ⟨d, t, observers⟩ st = selectData ⟨d, t, {}⟩ st :=
  rfl

theorem Selector.selectRts_observers (observers : Observers) (st : Station) :
    selectRts ⟨d, t, observers⟩ st = selectRts ⟨d, t, {}⟩ st :=
  rfl

theorem Passage.idle {deed : Deed} {h : Handle} {before : Option Station} (hbegins : deed.begins? h = none)
    (hends : deed.ends h = false) (hapart : ∀ st, before = some st → deed.action.concerns st.address h = false) :
    Passage d t deed h before before := by
  cases before with
  | none => exact .absent hbegins
  | some st => exact .apart (hapart st rfl) hends

namespace RateControl

variable {s : RateControl} {o : Outcome}

theorem ne_of_vacant {r : Registry} {h h' : Handle} {st : Station} (hvacant : r.get? h' = none)
    (hst : r.get? h = some st) : h' ≠ h := by
  rintro rfl
  rw [hst] at hvacant
  cases hvacant

theorem passage_modify {deed : Deed} {h h' : Handle} {f : Station → Station} {r : Registry}
    (hbegins : deed.begins? h' = none) (hends : deed.ends h' = false)
    (hconcerns : ∀ st, r.get? h' = some st → deed.action.concerns st.address h' = decide (h = h'))
    (hundergoes : ∀ st, r.get? h = some st → Undergoes d t st deed (f st)) :
    Passage d t deed h' (r.get? h') ((r.modify h f).get? h') := by
  rw [Registry.get?_modify]
  by_cases hh : h' = h
  · subst hh
    rw [if_pos rfl]
    cases hst : r.get? h' with
    | none => exact .absent hbegins
    | some st => exact .lives (by rw [hconcerns st hst]; simp) hends (hundergoes st hst)
  · rw [if_neg hh]
    exact .idle hbegins hends fun st hst => by rw [hconcerns st hst]; simpa using Ne.symm hh

theorem perform_register (s : RateControl) (a : MacAddress) (c : Capabilities) :
    s.perform (.register a c) =
      .ok (s.answering (s.stations.register a c).2 (.registered (s.stations.register a c).1)) :=
  rfl

theorem passage_register (hs : s.stations.Sound) {a : MacAddress} {c : Capabilities}
    (ho : s.perform (.register a c) = .ok o) (h : Handle) :
    Passage d t ⟨.register a c, o⟩ h (s.stations.get? h) (o.next.stations.get? h) := by
  rw [perform_register] at ho
  cases ha : s.stations.handleOf? a with
  | some known =>
    rw [Registry.register_of_known hs ha] at ho
    cases ho
    -- the address is at no other handle, so every other station stays apart
    obtain ⟨st, hst, rfl⟩ := (hs.handleOf?_iff a known).1 ha
    by_cases hh : h = known
    · subst hh
      show Passage d t _ h _ ((s.stations.modify h _).get? h)
      rw [Registry.get?_modify, if_pos rfl, hst]
      exact .lives (decide_eq_true rfl) rfl (.register rfl rfl)
    · show Passage d t _ h _ ((s.stations.modify known _).get? h)
      rw [Registry.get?_modify, if_neg hh]
      refine .idle (if_neg (Ne.symm hh)) rfl fun st' hst' => decide_eq_false fun heq => hh ?_
      have := (hs.handleOf?_iff st.address h).2 ⟨st', hst', heq.symm⟩
      exact Option.some.inj (this.symm.trans ha)
  | none =>
    rw [Registry.register_of_unknown ha] at ho
    cases ho
    show Passage d t _ h _ ((s.stations.enrol a c).2.get? h)
    rw [Registry.get?_enrol hs]
    by_cases hh : h = (s.stations.enrol a c).1
    · rw [if_pos hh, hh, Registry.get?_enrol_fst hs]
      exact .begins (if_pos rfl)
    · rw [if_neg hh]
      refine .idle (if_neg (Ne.symm hh)) rfl fun st hst => decide_eq_false fun heq => ?_
      have := (hs.handleOf?_iff a h).2 ⟨st, hst, heq.symm⟩
      rw [ha] at this
      cases this

theorem passage_deregister {h' : Handle} (ho : s.perform (.deregister h') = .ok o) (h : Handle) :
    Passage d t ⟨.deregister h', o⟩ h (s.stations.get? h) (o.next.stations.get? h) := by
  unfold perform at ho
  dsimp only at ho
  cases hst : s.stations.get? h' with
  | none =>
    have hnone : s.stations.deregister h' = none := by rw [Registry.deregister, hst]; rfl
    rw [hnone] at ho
    cases ho
    show Passage d t _ h _ (s.stations.get? h)
    cases hst' : s.stations.get? h with
    | none => exact .absent rfl
    | some st =>
      have hne := ne_of_vacant hst hst'
      exact .apart (decide_eq_false hne) (decide_eq_false hne)
  | some st =>
    have hsome := Registry.deregister_of_get? hst
    rw [hsome] at ho
    cases ho
    have hget := Registry.get?_deregister hsome h
    show Passage d t _ h _ (Registry.get? ⟨_, _⟩ h)
    rw [hget]
    by_cases hh : h = h'
    · rw [if_pos hh, hh, hst]
      exact .ends (decide_eq_true rfl) rfl rfl
    · rw [if_neg hh]
      have hne : decide (h' = h) = false := decide_eq_false (Ne.symm hh)
      exact .idle rfl hne fun _ _ => hne

theorem passage_report {a : Action} {h' : Handle} {f : Feedback} (h : Handle)
    (hbegins : Deed.begins? h ⟨a, s.report h' f⟩ = none) (hends : Deed.ends h ⟨a, s.report h' f⟩ = false)
    (hconcerns : ∀ st, s.stations.get? h = some st → a.concerns st.address h = decide (h' = h))
    (hundergoes : ∀ st (o : Outcome), o.answer = .effect (some (st.apply f).2) → o.change = none →
      Undergoes d t st ⟨a, o⟩ (st.apply f).1) :
    Passage d t ⟨a, s.report h' f⟩ h (s.stations.get? h) ((s.report h' f).next.stations.get? h) := by
  unfold report at *
  cases hst : s.stations.get? h' with
  | some st =>
    rw [hst] at hbegins hends
    refine passage_modify hbegins hends hconcerns fun st' hst' => ?_
    cases hst.symm.trans hst'
    exact hundergoes st _ rfl rfl
  | none =>
    rw [hst] at hbegins hends
    exact .idle hbegins hends fun st hst' => (hconcerns st hst').trans (decide_eq_false (ne_of_vacant hst hst'))

theorem passage_reportFrom (hs : s.stations.Sound) {a : MacAddress} {f : Feedback}
    (ho : s.perform (.reportFrom a f) = .ok o) (h : Handle) :
    Passage d t ⟨.reportFrom a f, o⟩ h (s.stations.get? h) (o.next.stations.get? h) := by
  unfold perform at ho
  dsimp only at ho
  cases ha : s.stations.handleOf? a with
  | none =>
    rw [ha] at ho
    cases ho
    refine .idle rfl rfl fun st hst => decide_eq_false fun heq => ?_
    have := (hs.handleOf?_iff a h).2 ⟨st, hst, heq.symm⟩
    rw [ha] at this
    cases this
  | some h' =>
    rw [ha] at ho
    cases ho
    refine passage_report h rfl rfl (fun st hst => ?_) fun st o ho hchange => .reportFrom ho hchange
    have hiff : a = st.address ↔ h' = h := by
      constructor
      · intro heq
        have := (hs.handleOf?_iff a h).2 ⟨st, hst, heq.symm⟩
        exact Option.some.inj (ha.symm.trans this)
      · intro heq
        obtain ⟨st', hst', haddress⟩ := (hs.handleOf?_iff a h').1 ha
        rw [heq, hst] at hst'
        cases hst'
        exact haddress.symm
    exact decide_eq_decide.2 hiff

theorem passage_selectData {observers : Observers} (hselector : s.selector = ⟨d, t, observers⟩) {h' : Handle}
    (ho : s.perform (.selectData h') = .ok o) (h : Handle) :
    Passage d t ⟨.selectData h', o⟩ h (s.stations.get? h) (o.next.stations.get? h) := by
  have ho : s.selectData h' = .ok o := ho
  unfold selectData at ho
  cases hst : s.stations.get? h' with
  | none =>
    rw [hst] at ho
    cases ho
    exact .idle rfl rfl fun st hst' => decide_eq_false (ne_of_vacant hst hst')
  | some st =>
    rw [hst] at ho
    obtain ⟨chosen, hchosen, ho⟩ := Attempt.bind_eq_ok.1 ho
    cases ho
    rw [hselector, Selector.selectData_observers] at hchosen
    refine passage_modify rfl rfl (fun _ _ => rfl) fun st' hst' => ?_
    cases hst.symm.trans hst'
    exact .selectData hchosen rfl rfl

theorem passage_selectRts {observers : Observers} (hselector : s.selector = ⟨d, t, observers⟩) {h' : Handle}
    (ho : s.perform (.selectRts h') = .ok o) (h : Handle) :
    Passage d t ⟨.selectRts h', o⟩ h (s.stations.get? h) (o.next.stations.get? h) := by
  have ho : s.selectRts h' = .ok o := ho
  unfold selectRts at ho
  cases hst : s.stations.get? h' with
  | none =>
    rw [hst] at ho
    cases ho
    exact .idle rfl rfl fun st hst' => decide_eq_false (ne_of_vacant hst hst')
  | some st =>
    rw [hst] at ho
    obtain ⟨v, hv, ho⟩ := Attempt.bind_eq_ok.1 ho
    cases ho
    rw [hselector, Selector.selectRts_observers] at hv
    show Passage d t _ h (s.stations.get? h) (s.stations.get? h)
    by_cases hh : h' = h
    · rw [← hh, hst]
      exact .lives (decide_eq_true rfl) rfl (.selectRts hv rfl rfl)
    · exact .idle rfl rfl fun _ _ => decide_eq_false hh

/-- **What one action does at a handle.** -/
theorem perform_passage {observers : Observers} (hs : s.stations.Sound) (hselector : s.selector = ⟨d, t, observers⟩)
    {a : Action} (ho : s.perform a = .ok o) (h : Handle) :
    Passage d t ⟨a, o⟩ h (s.stations.get? h) (o.next.stations.get? h) := by
  cases a with
  | register a c => exact passage_register hs ho h
  | update h' c =>
    cases ho
    refine passage_modify rfl rfl (fun _ _ => rfl) fun st hst => .update ?_ rfl
    exact congrArg Answer.known (by rw [Registry.contains, hst]; rfl)
  | deregister h' => exact passage_deregister ho h
  | report h' f =>
    cases ho
    exact passage_report h rfl rfl (fun _ _ => rfl) fun st o ho hchange => .report ho hchange
  | reportFrom a f => exact passage_reportFrom hs ho h
  | selectData h' => exact passage_selectData hselector ho h
  | selectRts h' => exact passage_selectRts hselector ho h
  | subscribe observer =>
    cases ho
    exact .idle rfl rfl fun _ _ => rfl
  | hangUp place =>
    cases ho
    exact .idle rfl rfl fun _ _ => rfl

/-! ## What an action leads to -/

/-- What an action leads to: the registry is edited, a configuration is selected, or an observer comes or goes. -/
inductive LeadsTo (s : RateControl) (act : Action) : Outcome → Prop
  | edits {stations : Registry} {answer : Answer} :
      s.stations.Edited stations → (∀ v, answer ≠ .vector (some v)) → LeadsTo s act (s.answering stations answer)
  | selectsData {h : Handle} {st : Station} {chosen : Selection} :
      act = .selectData h → s.stations.get? h = some st → s.selector.selectData st = .ok chosen →
      LeadsTo s act ⟨{ s with stations := s.stations.modify h fun _ => chosen.station }, .vector (some chosen.vector),
        chosen.change, chosen.change.toList.flatMap s.selector.observers.notify⟩
  | selectsRts {h : Handle} {st : Station} {v : TxVector} :
      act = .selectRts h → s.stations.get? h = some st → s.selector.selectRts st = .ok v →
      LeadsTo s act (s.answering s.stations (.vector (some v)))
  | subscribes {observer : Observer} : act = .subscribe observer →
      LeadsTo s act ⟨{ s with selector := s.selector.subscribe observer }, .subscribed s.selector.observers.size, none, []⟩
  | hangsUp {place : Nat} : act = .hangUp place →
      LeadsTo s act
        ⟨{ s with selector := s.selector.hangUp place }, .known (place < s.selector.observers.size), none, []⟩

theorem leadsTo_report (s : RateControl) (act : Action) (h : Handle) (f : Feedback) : s.LeadsTo act (s.report h f) := by
  unfold report
  cases s.stations.get? h with
  | none => exact .edits .kept (by simp)
  | some st => exact .edits (.modified fun st' _ => by rw [Station.apply_fst]) (by simp)

/-- **What every action leads to.** -/
theorem perform_leadsTo {act : Action} (ho : s.perform act = .ok o) : s.LeadsTo act o := by
  cases act with
  | register a c =>
    cases ho
    exact .edits (.registered a c) (by simp)
  | update h c =>
    cases ho
    exact .edits (.modified fun _ _ => rfl) (by simp)
  | deregister h =>
    unfold perform at ho
    dsimp only at ho
    split at ho
    · rename_i hr
      cases ho
      exact .edits (.deregistered hr) (by simp)
    · cases ho
      exact .edits .kept (by simp)
  | report h f =>
    cases ho
    exact leadsTo_report s _ h f
  | reportFrom a f =>
    unfold perform at ho
    dsimp only at ho
    split at ho
    · cases ho
      exact leadsTo_report s _ _ f
    · cases ho
      exact .edits .kept (by simp)
  | selectData h =>
    have ho : s.selectData h = .ok o := ho
    unfold selectData at ho
    cases hst : s.stations.get? h with
    | none =>
      rw [hst] at ho
      cases ho
      exact .edits .kept (by simp)
    | some st =>
      rw [hst] at ho
      obtain ⟨chosen, hchosen, ho⟩ := Attempt.bind_eq_ok.1 ho
      cases ho
      exact .selectsData rfl hst hchosen
  | selectRts h =>
    have ho : s.selectRts h = .ok o := ho
    unfold selectRts at ho
    cases hst : s.stations.get? h with
    | none =>
      rw [hst] at ho
      cases ho
      exact .edits .kept (by simp)
    | some st =>
      rw [hst] at ho
      obtain ⟨v, hv, ho⟩ := Attempt.bind_eq_ok.1 ho
      cases ho
      exact .selectsRts rfl hst hv
  | subscribe observer =>
    cases ho
    exact .subscribes rfl
  | hangUp place =>
    cases ho
    exact .hangsUp rfl

/-- **An action about the observers looks at nothing else** and leaves everything else as it is. -/
theorem perform_isForObservers {act : Action} (hact : act.isForObservers = true) :
    ∃ (turn : Observers → Observers) (answer : Observers → Answer),
      (∀ s, perform s act = .ok ⟨{ s with selector := { s.selector with observers := turn s.selector.observers } },
        answer s.selector.observers, none, []⟩) ∧
        ∀ observers, (∃ place, answer observers = .subscribed place) ∨ ∃ wasKnown, answer observers = .known wasKnown := by
  cases act with
  | subscribe observer =>
    exact ⟨(·.subscribe observer), fun o => .subscribed o.size, fun _ => rfl, fun _ => Or.inl ⟨_, rfl⟩⟩
  | hangUp place =>
    exact ⟨(·.hangUp place), fun o => .known (place < o.size), fun _ => rfl, fun _ => Or.inr ⟨_, rfl⟩⟩
  | _ => cases hact

theorem selector_perform {act : Action} (ho : s.perform act = .ok o) (hact : act.isForObservers = false) :
    o.next.selector = s.selector := by
  cases perform_leadsTo ho with
  | edits => rfl
  | selectsData => rfl
  | selectsRts => rfl
  | subscribes hobserver => rw [hobserver] at hact; cases hact
  | hangsUp hplace => rw [hplace] at hact; cases hact

/-- **What an action makes of the registry.** -/
theorem edited_perform {act : Action} (ho : s.perform act = .ok o) : s.stations.Edited o.next.stations := by
  cases perform_leadsTo ho with
  | edits hedited => exact hedited
  | @selectsData h st chosen _ hst hchosen =>
    refine .modified fun st' hst' => ?_
    cases hst.symm.trans hst'
    exact (Selector.selectData_keeps hchosen).1
  | selectsRts => exact .kept
  | subscribes => exact .kept
  | hangsUp => exact .kept

/-! ## What every action keeps -/

/-- What holds of a state whatever was performed: the registry is sound, and the device has its thresholds. -/
structure Keeps (d : Device) (t : Thresholds) (s : RateControl) : Prop where
  stations : s.stations.Sound
  selector : ∃ observers, s.selector = ⟨d, t, observers⟩

/-- **Every action keeps the registry sound and the device and its thresholds as they are.** -/
theorem Keeps.perform (hs : s.Keeps d t) {a : Action} (ho : s.perform a = .ok o) : o.next.Keeps d t := by
  refine ⟨(edited_perform ho).sound hs.stations, ?_⟩
  obtain ⟨observers, hselector⟩ := hs.selector
  cases perform_leadsTo ho with
  | edits => exact ⟨observers, hselector⟩
  | selectsData => exact ⟨observers, hselector⟩
  | selectsRts => exact ⟨observers, hselector⟩
  | @subscribes observer => exact ⟨observers.subscribe observer, by rw [hselector]; rfl⟩
  | @hangsUp place => exact ⟨observers.hangUp place, by rw [hselector]; rfl⟩

theorem Keeps.passage (hs : s.Keeps d t) {a : Action} (ho : s.perform a = .ok o) (h : Handle) :
    Passage d t ⟨a, o⟩ h (s.stations.get? h) (o.next.stations.get? h) := by
  obtain ⟨observers, hselector⟩ := hs.selector
  exact perform_passage hs.stations hselector ho h

theorem keeps_start (d : Device) (t : Thresholds) (observers : Observers) : Keeps d t ⟨⟨d, t, observers⟩, {}⟩ :=
  ⟨Registry.sound_empty, observers, rfl⟩

theorem build_eq_ok_iff {model : ErrorModel} {target : Float} {r : RateControl} :
    build d model target = .ok r ↔
      d.fault? = none ∧ ∃ t, Thresholds.build d model target = .ok t ∧ r = ⟨⟨d, t, {}⟩, {}⟩ := by
  unfold build Selector.build
  cases d.fault? with
  | some fault =>
    constructor
    · intro h
      cases h
    · rintro ⟨h, -⟩
      cases h
  | none =>
    constructor
    · intro h
      obtain ⟨sel, hsel, h⟩ := Attempt.bind_eq_ok.1 h
      obtain ⟨t, ht, hsel⟩ := Attempt.bind_eq_ok.1 hsel
      cases hsel
      cases h
      exact ⟨rfl, t, ht, rfl⟩
    · rintro ⟨-, t, ht, rfl⟩
      rw [ht]
      rfl

theorem selectData_of_get? {s : RateControl} {h : Handle} {st : Station} {chosen : Selection}
    (hst : s.stations.get? h = some st) (hchosen : s.selector.selectData st = .ok chosen) :
    s.perform (.selectData h) =
      .ok ⟨{ s with stations := s.stations.modify h fun _ => chosen.station }, .vector (some chosen.vector),
        chosen.change, chosen.change.toList.flatMap s.selector.observers.notify⟩ := by
  show s.selectData h = _
  rw [selectData, hst]
  dsimp only
  rw [hchosen]
  rfl

theorem selectRts_of_get? {s : RateControl} {h : Handle} {st : Station} {v : TxVector}
    (hst : s.stations.get? h = some st) (hv : s.selector.selectRts st = .ok v) :
    s.perform (.selectRts h) = .ok (s.answering s.stations (.vector (some v))) := by
  show s.selectRts h = _
  rw [selectRts, hst]
  dsimp only
  rw [hv]
  rfl

/-- **An action succeeds wherever the selections do.** -/
theorem exists_outcome {s : RateControl}
    (hdata : ∀ {h st}, s.stations.get? h = some st → ∃ chosen, s.selector.selectData st = .ok chosen)
    (hrts : ∀ {h st}, s.stations.get? h = some st → ∃ v, s.selector.selectRts st = .ok v) (act : Action) :
    ∃ o, s.perform act = .ok o := by
  cases act with
  | register a c => exact ⟨_, rfl⟩
  | update h c => exact ⟨_, rfl⟩
  | report h f => exact ⟨_, rfl⟩
  | subscribe observer => exact ⟨_, rfl⟩
  | hangUp place => exact ⟨_, rfl⟩
  | deregister h =>
    unfold perform
    dsimp only
    split <;> exact ⟨_, rfl⟩
  | reportFrom a f =>
    unfold perform
    dsimp only
    split <;> exact ⟨_, rfl⟩
  | selectData h =>
    cases hst : s.stations.get? h with
    | none => exact ⟨s.answering s.stations (.vector none), by rw [perform, selectData, hst]⟩
    | some st =>
      obtain ⟨chosen, hchosen⟩ := hdata hst
      exact ⟨_, selectData_of_get? hst hchosen⟩
  | selectRts h =>
    cases hst : s.stations.get? h with
    | none => exact ⟨s.answering s.stations (.vector none), by rw [perform, selectRts, hst]⟩
    | some st =>
      obtain ⟨v, hv⟩ := hrts hst
      exact ⟨_, selectRts_of_get? hst hv⟩

end RateControl

end LinkAdaptation

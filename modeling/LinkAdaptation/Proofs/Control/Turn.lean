import LinkAdaptation.Proofs.Control.Lives
/-!
# What an action does at an address

Handles are given out again, addresses are not: the station of an address is the same one from when the address registers
to when it is removed.  An action addressed to it gives it a turn (`perform_turn`); every other action leaves it as it is
and tells of no change of its rate (`perform_apart`).
-/
namespace LinkAdaptation

variable {d : Device} {t : Thresholds}

/-! ## Actions and addresses -/

/-- Whether an action is addressed to `a`, which has a handle or has none: it names the address or that handle. -/
def Action.isFor (a : MacAddress) (h? : Option Handle) : Action → Bool
  | .register b _ | .reportFrom b _ => b = a
  | .update h _ | .deregister h | .report h _ | .selectData h | .selectRts h => h? = some h
  | .subscribe _ | .hangUp _ => false

theorem Action.isFor_some (a : MacAddress) (h : Handle) (act : Action) : act.isFor a (some h) = act.concerns a h := by
  have hhandle : ∀ h' : Handle, decide (some h = some h') = decide (h' = h) := fun h' =>
    decide_eq_decide.2 ⟨fun heq => (Option.some.inj heq).symm, fun heq => congrArg some heq.symm⟩
  cases act with
  | register b c => rfl
  | update h' c => exact hhandle h'
  | deregister h' => exact hhandle h'
  | report h' f => exact hhandle h'
  | reportFrom b f => rfl
  | selectData h' => exact hhandle h'
  | selectRts h' => exact hhandle h'
  | subscribe observer => rfl
  | hangUp place => rfl

theorem Action.isFor_none {a : MacAddress} {act : Action} (h : act.isFor a none = true) :
    (∃ c, act = .register a c) ∨ ∃ f, act = .reportFrom a f := by
  cases act with
  | register b c => exact Or.inl ⟨c, by rw [of_decide_eq_true h]⟩
  | reportFrom b f => exact Or.inr ⟨f, by rw [of_decide_eq_true h]⟩
  | update | deregister | report | selectData | selectRts | subscribe | hangUp => simp [isFor] at h

/-- Whether an answer hands the station of an address back. -/
def Answer.removes (a : MacAddress) : Answer → Bool
  | .removed (some st) => st.address = a
  | _ => false

/-- What an action addressed to `a` makes of the station of `a`, before and after. -/
inductive Turn (d : Device) (t : Thresholds) (a : MacAddress) (deed : Deed) : Option Station → Option Station → Prop
  | arrives {c : Capabilities} {h : Handle} : deed.action = .register a c → deed.outcome.answer = .registered h →
      deed.outcome.change = none → Turn d t a deed none (some (.fresh a c))
  | unheard {f : Feedback} : deed.action = .reportFrom a f → deed.outcome.answer = .effect none →
      deed.outcome.change = none → Turn d t a deed none none
  | lives {st st' : Station} : Undergoes d t st deed st' → Turn d t a deed (some st) (some st')
  | leaves {st : Station} {h : Handle} : deed.action = .deregister h → deed.outcome.answer = .removed (some st) →
      deed.outcome.change = none → Turn d t a deed (some st) none

/-! ## The changes of a run -/

/-- All rate changes of some deeds, the latest first. -/
def emitted (deeds : List Deed) : List RateChange :=
  deeds.filterMap (·.outcome.change)

/-- The rate changes of one address, the latest first. -/
def changesOf (a : MacAddress) (deeds : List Deed) : List RateChange :=
  (emitted deeds).filter (·.address = a)

theorem emitted_cons (deed : Deed) (past : List Deed) :
    emitted (deed :: past) = deed.outcome.change.toList ++ emitted past := by
  unfold emitted
  rw [List.filterMap_cons]
  cases deed.outcome.change <;> rfl

theorem changesOf_cons (a : MacAddress) (deed : Deed) (past : List Deed) :
    changesOf a (deed :: past) = deed.outcome.change.toList.filter (·.address = a) ++ changesOf a past := by
  rw [changesOf, emitted_cons, List.filter_append, changesOf]

theorem changesOf_cons_of_apart {a : MacAddress} {deed : Deed} (h : ∀ c, deed.outcome.change = some c → c.address ≠ a)
    (past : List Deed) : changesOf a (deed :: past) = changesOf a past := by
  rw [changesOf_cons]
  cases hc : deed.outcome.change with
  | none => rfl
  | some c => rw [Option.toList_some, List.filter_cons_of_neg (by simpa using h c hc)]; rfl

theorem changesOf_cons_of_some {a : MacAddress} {deed : Deed} {c : RateChange} (hc : deed.outcome.change = some c)
    (ha : c.address = a) (past : List Deed) : changesOf a (deed :: past) = c :: changesOf a past := by
  rw [changesOf_cons, hc, Option.toList_some, List.filter_cons_of_pos (by simpa using ha)]
  rfl

/-- **What a station undergoes tells of its rate**: it stays as it is, or a change leads from it to the new one. -/
theorem Undergoes.rate {st st' : Station} {deed : Deed} (h : Undergoes d t st deed st') :
    (deed.outcome.change = none ∧ st'.cachedRate = st.cachedRate) ∨
      ∃ c, deed.outcome.change = some c ∧ c.address = st.address ∧ c.oldRate = st.cachedRate ∧ c.oldRate ≠ c.newRate ∧
        st'.cachedRate = c.newRate := by
  cases h with
  | register _ hchange => exact Or.inl ⟨hchange, rfl⟩
  | update _ hchange => exact Or.inl ⟨hchange, rfl⟩
  | report _ hchange => exact Or.inl ⟨hchange, by rw [Station.apply_fst]⟩
  | reportFrom _ hchange => exact Or.inl ⟨hchange, by rw [Station.apply_fst]⟩
  | selectRts _ _ hchange => exact Or.inl ⟨hchange, rfl⟩
  | @selectData _ _ chosen hchosen _ hchange =>
    cases hc : chosen.change with
    | none => exact Or.inl ⟨hchange.trans hc, Selector.cachedRate_of_no_change hchosen hc⟩
    | some c =>
      obtain ⟨rfl, hne, hrate, -⟩ := Selector.change_of_selectData hchosen hc
      exact Or.inr ⟨_, hchange.trans hc, rfl, rfl, hne, hrate⟩

namespace RateControl

variable {s : RateControl} {o : Outcome} {act : Action}

/-- **A change comes from a data selection**, for the station that it was made for. -/
theorem change_cases (ho : s.perform act = .ok o) {c : RateChange} (hc : o.change = some c) :
    ∃ h st chosen, act = .selectData h ∧ s.stations.get? h = some st ∧ s.selector.selectData st = .ok chosen ∧
      chosen.change = some c ∧ o.answer = .vector (some chosen.vector) ∧
      o.next.stations.get? h = some chosen.station := by
  cases perform_leadsTo ho with
  | edits => cases hc
  | selectsData hact hst hchosen => exact ⟨_, _, _, hact, hst, hchosen, hc, rfl, Registry.get?_modify_self hst _⟩
  | selectsRts => cases hc
  | subscribes => cases hc
  | hangsUp => cases hc

/-- **A change is told to all observers of that moment**, and nothing else is told. -/
theorem told_eq (ho : s.perform act = .ok o) : o.told = o.change.toList.flatMap s.selector.observers.notify := by
  cases perform_leadsTo ho <;> rfl

theorem removes_report (s : RateControl) (h : Handle) (f : Feedback) (a : MacAddress) :
    (s.report h f).answer.removes a = false := by
  unfold report
  split <;> rfl

/-- **A station that is handed back was removed.** -/
theorem deregister_of_removes (ho : s.perform act = .ok o) {a : MacAddress} (hremoves : o.answer.removes a = true) :
    ∃ h st, act = .deregister h ∧ s.stations.get? h = some st ∧ st.address = a := by
  cases act with
  | register b c => cases ho; cases hremoves
  | update h c => cases ho; cases hremoves
  | subscribe observer => cases ho; cases hremoves
  | hangUp place => cases ho; cases hremoves
  | report h f =>
    cases ho
    rw [removes_report] at hremoves
    cases hremoves
  | reportFrom b f =>
    rw [perform] at ho
    split at ho
    · cases ho
      rw [removes_report] at hremoves
      cases hremoves
    · cases ho
      cases hremoves
  | deregister h =>
    rw [perform] at ho
    cases hr : s.stations.deregister h with
    | none =>
      rw [hr] at ho
      cases ho
      cases hremoves
    | some removed =>
      rw [hr] at ho
      cases ho
      obtain ⟨st, hst, rfl⟩ := Option.map_eq_some_iff.1 hr
      exact ⟨h, st, rfl, hst, of_decide_eq_true hremoves⟩
  | selectData h =>
    rw [perform, selectData] at ho
    split at ho
    · obtain ⟨chosen, -, ho⟩ := Attempt.bind_eq_ok.1 ho
      cases ho
      cases hremoves
    · cases ho
      cases hremoves
  | selectRts h =>
    rw [perform, selectRts] at ho
    split at ho
    · obtain ⟨v, -, ho⟩ := Attempt.bind_eq_ok.1 ho
      cases ho
      cases hremoves
    · cases ho
      cases hremoves

/-- **The address of a station that was removed is not known any more.** -/
theorem handleOf?_of_deregistered {h : Handle} {st : Station} (hst : s.stations.get? h = some st)
    (ho : s.perform (.deregister h) = .ok o) : o.next.stations.handleOf? st.address = none := by
  have hr' := Registry.deregister_of_get? hst
  rw [perform, hr'] at ho
  cases ho
  exact (Registry.handleOf?_deregister hr' st.address).trans (if_pos rfl)

/-- **No station that is there was handed back.** -/
theorem removes_eq_false (hs : s.Keeps d t) (ho : s.perform act = .ok o) {h : Handle} {st : Station}
    (hst : o.next.stations.get? h = some st) : o.answer.removes st.address = false := by
  refine Bool.eq_false_iff.2 fun hremoves => ?_
  obtain ⟨h', st', rfl, hst', haddress⟩ := deregister_of_removes ho hremoves
  have hgone := handleOf?_of_deregistered hst' ho
  rw [haddress, ((hs.perform ho).stations.handleOf?_iff st.address h).2 ⟨st, hst, rfl⟩] at hgone
  cases hgone

/-! ## Turns -/

/-- **An action gives the station it is addressed to a turn.** -/
theorem perform_turn (hs : s.Keeps d t) (ho : s.perform act = .ok o) {a : MacAddress}
    (hfor : act.isFor a (s.stations.handleOf? a) = true) :
    Turn d t a ⟨act, o⟩ (s.stations.ofAddress? a) (o.next.stations.ofAddress? a) := by
  have hnext := (hs.perform ho).stations
  cases ha : s.stations.handleOf? a with
  | some h =>
    obtain ⟨st, hst, rfl⟩ := (hs.stations.handleOf?_iff a h).1 ha
    rw [ha, Action.isFor_some] at hfor
    have hpassage := hs.passage ho h
    rw [Registry.ofAddress?_of_handleOf? ha]
    rw [hst] at hpassage ⊢
    generalize hafter : o.next.stations.get? h = after at hpassage
    cases hpassage with
    | apart hconcerns =>
      rw [hfor] at hconcerns
      cases hconcerns
    | lives _ _ hundergoes =>
      rw [hnext.ofAddress?_eq_some_iff.2 ⟨h, hafter, hundergoes.address⟩]
      exact .lives hundergoes
    | ends hends hanswer hchange =>
      cases act with
      | deregister h' =>
        cases of_decide_eq_true hends
        have hr' := Registry.deregister_of_get? hst
        rw [perform, hr'] at ho
        cases ho
        have hgone := Registry.handleOf?_deregister hr' st.address
        rw [if_pos rfl] at hgone
        show Turn d t st.address _ (some st) (Registry.ofAddress? ⟨_, _⟩ st.address)
        rw [Registry.ofAddress?_of_unknown hgone]
        exact .leaves rfl rfl rfl
      | _ => cases hends
  | none =>
    rw [ha] at hfor
    rw [Registry.ofAddress?_of_unknown ha]
    obtain ⟨c, rfl⟩ | ⟨f, rfl⟩ := Action.isFor_none hfor
    · rw [perform_register, Registry.register_of_unknown ha] at ho
      cases ho
      have hget := Registry.get?_enrol hs.stations a c (s.stations.enrol a c).1
      rw [if_pos rfl] at hget
      have hfresh : (s.stations.enrol a c).2.ofAddress? a = some (.fresh a c) :=
        (hs.stations.enrol ha c).ofAddress?_eq_some_iff.2 ⟨_, hget, rfl⟩
      show Turn d t a _ none ((s.stations.enrol a c).2.ofAddress? a)
      rw [hfresh]
      exact .arrives rfl rfl rfl
    · rw [perform, ha] at ho
      cases ho
      show Turn d t a _ none (s.stations.ofAddress? a)
      rw [Registry.ofAddress?_of_unknown ha]
      exact .unheard rfl rfl rfl

theorem ofAddress?_apart (hs : s.Keeps d t) (ho : s.perform act = .ok o) {a : MacAddress}
    (hfor : act.isFor a (s.stations.handleOf? a) = false) :
    o.next.stations.ofAddress? a = s.stations.ofAddress? a := by
  have hnext := (hs.perform ho).stations
  have hpassage := hs.passage ho
  cases ha : s.stations.handleOf? a with
  | some h =>
    obtain ⟨st, hst, rfl⟩ := (hs.stations.handleOf?_iff a h).1 ha
    rw [ha, Action.isFor_some] at hfor
    rw [Registry.ofAddress?_of_handleOf? ha, hst]
    have hpassage := hpassage h
    rw [hst] at hpassage
    generalize hafter : o.next.stations.get? h = after at hpassage
    cases hpassage with
    | apart => exact hnext.ofAddress?_eq_some_iff.2 ⟨h, hafter, rfl⟩
    | lives hconcerns =>
      rw [hfor] at hconcerns
      cases hconcerns
    | ends hends =>
      cases act with
      | deregister h' =>
        cases of_decide_eq_true hends
        exact absurd rfl (of_decide_eq_false hfor)
      | _ => cases hends
  | none =>
    rw [Registry.ofAddress?_of_unknown ha]
    rw [ha] at hfor
    refine Option.eq_none_iff_forall_ne_some.2 fun st' hst' => ?_
    obtain ⟨k, hk, haddress⟩ := hnext.ofAddress?_eq_some_iff.1 hst'
    -- a station with the address would have been there before, or have registered just now
    have hnobody : ∀ st, s.stations.get? k = some st → st.address ≠ a := fun st hst heq => by
      have := (hs.stations.handleOf?_iff a k).2 ⟨st, hst, heq⟩
      rw [ha] at this
      cases this
    have hpassage := hpassage k
    rw [hk] at hpassage
    generalize hbefore : s.stations.get? k = before at hpassage
    cases hpassage with
    | @begins b c hbegins =>
      cases haddress
      unfold Deed.begins? at hbegins
      split at hbegins
      · rename_i b' c' h' haction hanswer
        split at hbegins
        · cases hbegins
          cases haction
          exact of_decide_eq_false hfor rfl
        · cases hbegins
      · cases hbegins
    | apart => exact hnobody _ hbefore haddress
    | lives _ _ hundergoes => exact hnobody _ hbefore (hundergoes.address.symm.trans haddress)

/-- **An action that is not addressed to a station leaves it as it is** and tells of no change of its rate. -/
theorem perform_apart (hs : s.Keeps d t) (ho : s.perform act = .ok o) {a : MacAddress}
    (hfor : act.isFor a (s.stations.handleOf? a) = false) :
    o.next.stations.ofAddress? a = s.stations.ofAddress? a ∧ ∀ c, o.change = some c → c.address ≠ a := by
  refine ⟨ofAddress?_apart hs ho hfor, fun c hc heq => ?_⟩
  obtain ⟨h, st, chosen, rfl, hst, hchosen, hchange, -⟩ := change_cases ho hc
  obtain ⟨rfl, -⟩ := Selector.change_of_selectData hchosen hchange
  have := (hs.stations.handleOf?_iff a h).2 ⟨st, hst, heq⟩
  exact of_decide_eq_false hfor this

/-- **An address becomes unknown only when its station is removed.** -/
theorem handleOf?_of_unknown_after (hs : s.Keeps d t) (ho : s.perform act = .ok o) {a : MacAddress}
    (hstays : o.answer.removes a = false) (hafter : o.next.stations.handleOf? a = none) :
    s.stations.handleOf? a = none := by
  have hgone := Registry.ofAddress?_of_unknown hafter
  cases ha : s.stations.handleOf? a with
  | none => rfl
  | some h =>
    obtain ⟨st, hst, haddress⟩ := (hs.stations.handleOf?_iff a h).1 ha
    have hbefore := (Registry.ofAddress?_of_handleOf? ha).trans hst
    cases hfor : act.isFor a (s.stations.handleOf? a) with
    | false =>
      have hsame := (perform_apart hs ho hfor).1
      rw [hgone, hbefore] at hsame
      cases hsame
    | true =>
      have hturn := perform_turn hs ho hfor
      rw [hgone, hbefore] at hturn
      cases hturn with
      | leaves _ hanswer =>
        have hremoves : o.answer.removes a = true := by
          rw [show o.answer = .removed (some st) from hanswer]
          exact decide_eq_true haddress
        rw [hremoves] at hstays
        cases hstays

end RateControl
end LinkAdaptation

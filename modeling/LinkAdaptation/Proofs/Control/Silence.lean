import LinkAdaptation.Proofs.Control.Directory
import LinkAdaptation.Proofs.Control.Isolation
import LinkAdaptation.Proofs.Station.Mapped
/-!
# Actions that say nothing

Selections for protective frames, reports without an SNR that can be used and actions that name no station may be strewn
into a run anywhere and in any number: nothing shows of them but the counts of discarded reports
(`RateControl.run_undisturbed`).  All that they do to a state is to raise those counts (`RateControl.perform_silent`), and
no action looks at them, so that it comes to the same whether it is performed before they are raised or after
(`RateControl.perform_addDiscards`).
-/
namespace LinkAdaptation

variable {d : Device} {t : Thresholds}

/-! ## More discarded reports -/

/-- The same station with more discarded reports. -/
def Station.addDiscards (k : Nat) (st : Station) : Station :=
  { st with counters := { st.counters with discardedReports := st.counters.discardedReports + k } }

/-- The same stations, each with as many more discarded reports as its address is given. -/
def Registry.addDiscards (n : MacAddress → Nat) (r : Registry) : Registry :=
  r.map fun st => st.addDiscards (n st.address)

def RateControl.addDiscards (n : MacAddress → Nat) (s : RateControl) : RateControl :=
  { s with stations := s.stations.addDiscards n }

/-- The same answer; a station that is handed back has more discarded reports. -/
def Answer.addDiscards (n : MacAddress → Nat) : Answer → Answer
  | .removed st => .removed (st.map fun st => st.addDiscards (n st.address))
  | answer => answer

def Outcome.addDiscards (n : MacAddress → Nat) (o : Outcome) : Outcome :=
  { o with next := o.next.addDiscards n, answer := o.answer.addDiscards n }

namespace Station

theorem addDiscards_zero (st : Station) : st.addDiscards 0 = st :=
  rfl

theorem addDiscards_addDiscards (k l : Nat) (st : Station) : (st.addDiscards k).addDiscards l = st.addDiscards (k + l) := by
  unfold addDiscards
  rw [Nat.add_assoc]

/-- **A report does the same to a station with more discarded reports.** -/
theorem apply_addDiscards (k : Nat) (st : Station) (f : Feedback) :
    (st.addDiscards k).apply f = ((st.apply f).1.addDiscards k, (st.apply f).2) := by
  have hmeasured : ∀ snr, (st.addDiscards k).observeMeasured snr =
      ((st.observeMeasured snr).1.addDiscards k, (st.observeMeasured snr).2) := by
    intro snr
    have hcount := Nat.add_right_comm st.counters.discardedReports k 1
    unfold observeMeasured
    split
    · rfl
    · unfold discard count addDiscards
      dsimp only
      rw [hcount]
  cases f with
  | dataAnswered ack snr => exact hmeasured snr
  | aggregateAnswered arrived lost heard snr => exact hmeasured snr
  | _ => rfl

/-- **All that a report without an SNR that can be used does** is to be counted, if it was to give one. -/
theorem apply_of_silent (st : Station) {f : Feedback} (h : f.accepted? = none) :
    (st.apply f).1 = st.addDiscards (if (st.apply f).2 = .discarded then 1 else 0) := by
  have hmeasured : ∀ snr, (if snr.isFinite && 0.0 < snr then some snr else none : Option Float) = none →
      (st.observeMeasured snr).1 = st.addDiscards (if (st.observeMeasured snr).2 = .discarded then 1 else 0) := by
    intro snr hsnr
    have hunusable : isMeasured snr = false := by
      unfold isMeasured
      cases hmeasured : snr.isFinite && decide (0.0 < snr) with
      | false => rfl
      | true => rw [hmeasured] at hsnr; cases hsnr
    unfold observeMeasured
    rw [hunusable]
    rfl
  cases f with
  | rtsAnswered cts rts => cases h
  | dataAnswered ack snr => exact hmeasured snr h
  | aggregateAnswered arrived lost heard snr => exact hmeasured snr h
  | _ => rfl

end Station

namespace Registry

variable {r : Registry} {n m : MacAddress → Nat}

theorem get?_addDiscards (n : MacAddress → Nat) (r : Registry) (h : Handle) :
    (r.addDiscards n).get? h = (r.get? h).map fun st => st.addDiscards (n st.address) :=
  get?_map _ r h

theorem addDiscards_congr (h : ∀ h' st, r.get? h' = some st → n st.address = m st.address) :
    r.addDiscards n = r.addDiscards m :=
  map_congr fun h' st hst => by rw [h h' st hst]

theorem addDiscards_eq_self (h : ∀ h' st, r.get? h' = some st → n st.address = 0) : r.addDiscards n = r :=
  map_eq_self fun h' st hst => by rw [h h' st hst, Station.addDiscards_zero]

theorem addDiscards_addDiscards (n m : MacAddress → Nat) (r : Registry) :
    (r.addDiscards n).addDiscards m = r.addDiscards fun a => n a + m a := by
  unfold addDiscards
  rw [map_map]
  exact map_congr fun h st _ => st.addDiscards_addDiscards (n st.address) (m st.address)

theorem modify_addDiscards {h : Handle} {g g' : Station → Station}
    (hg : ∀ st, (g st).addDiscards (n (g st).address) = g' (st.addDiscards (n st.address))) :
    (r.addDiscards n).modify h g' = (r.modify h g).addDiscards n :=
  modify_map fun st _ => hg st

theorem register_addDiscards (hr : r.Sound) {a : MacAddress} (hn : r.handleOf? a = none → n a = 0) (c : Capabilities) :
    (r.addDiscards n).register a c = ((r.register a c).1, (r.register a c).2.addDiscards n) := by
  refine register_map hr (fun _ => rfl) fun ha => ?_
  show (Station.fresh a c).addDiscards (n a) = _
  rw [hn ha, Station.addDiscards_zero]

theorem deregister_addDiscards (n : MacAddress → Nat) (r : Registry) (h : Handle) :
    (r.addDiscards n).deregister h =
      (r.deregister h).map fun removed => (removed.1.addDiscards (n removed.1.address), removed.2.addDiscards n) :=
  deregister_map (f := fun st => st.addDiscards (n st.address)) (fun _ => rfl) h

theorem contains_addDiscards (n : MacAddress → Nat) (r : Registry) (h : Handle) :
    (r.addDiscards n).contains h = r.contains h :=
  contains_map _ r h

end Registry

/-! ## No action looks at them -/

theorem Selector.selectData_addDiscards {s : Selector} {st : Station} {chosen : Selection}
    (h : s.selectData st = .ok chosen) (k : Nat) :
    s.selectData (st.addDiscards k) = .ok { chosen with station := chosen.station.addDiscards k } := by
  cases selects_of_selectData h with
  | @reuses v hv => exact selectData_of_reusable (show (st.addDiscards k).reusable? = some v from hv)
  | fallsBack hreusable hfound =>
    exact selectData_of_found (show (st.addDiscards k).reusable? = none from hreusable) hfound
  | adopts hreusable hfound =>
    rw [selectData_of_found (show (st.addDiscards k).reusable? = none from hreusable) hfound, Option.elim_some, adopt_eq]
    rfl

namespace RateControl

variable {s : RateControl} {o : Outcome} {n : MacAddress → Nat}

theorem stations_addDiscards (n : MacAddress → Nat) (s : RateControl) :
    (s.addDiscards n).stations = s.stations.addDiscards n :=
  rfl

theorem report_addDiscards (n : MacAddress → Nat) (s : RateControl) (h : Handle) (f : Feedback) :
    (s.addDiscards n).report h f = (s.report h f).addDiscards n := by
  have hmodify : (s.stations.addDiscards n).modify h (fun st => (st.apply f).1) =
      (s.stations.modify h fun st => (st.apply f).1).addDiscards n := by
    refine Registry.modify_addDiscards fun st => ?_
    rw [Station.apply_addDiscards, Station.apply_fst]
  unfold report
  rw [stations_addDiscards, Registry.get?_addDiscards]
  cases s.stations.get? h with
  | none => rfl
  | some st =>
    rw [Option.map_some]
    dsimp only
    rw [Station.apply_addDiscards, hmodify]
    rfl

theorem selectData_addDiscards {h : Handle} (ho : s.selectData h = .ok o) :
    (s.addDiscards n).selectData h = .ok (o.addDiscards n) := by
  have hget := Registry.get?_addDiscards n s.stations h
  rw [selectData] at ho
  cases hst : s.stations.get? h with
  | none =>
    rw [hst] at ho hget
    cases ho
    rw [selectData, stations_addDiscards, hget]
    rfl
  | some st =>
    rw [hst] at ho hget
    obtain ⟨chosen, hchosen, ho⟩ := Attempt.bind_eq_ok.1 ho
    cases ho
    have hmodify : (s.stations.addDiscards n).modify h (fun _ => chosen.station.addDiscards (n st.address)) =
        (s.stations.modify h fun _ => chosen.station).addDiscards n := by
      refine Registry.modify_addDiscards fun _ => ?_
      rw [(Selector.selectData_keeps hchosen).1]
    have hchosen' := Selector.selectData_addDiscards hchosen (n st.address)
    refine (selectData_of_get? (s := s.addDiscards n) hget hchosen').trans ?_
    dsimp only
    rw [stations_addDiscards, hmodify]
    rfl

theorem selectRts_addDiscards {h : Handle} (ho : s.selectRts h = .ok o) :
    (s.addDiscards n).selectRts h = .ok (o.addDiscards n) := by
  have hget := Registry.get?_addDiscards n s.stations h
  rw [selectRts] at ho
  cases hst : s.stations.get? h with
  | none =>
    rw [hst] at ho hget
    cases ho
    rw [selectRts, stations_addDiscards, hget]
    rfl
  | some st =>
    rw [hst] at ho hget
    obtain ⟨v, hv, ho⟩ := Attempt.bind_eq_ok.1 ho
    cases ho
    exact selectRts_of_get? hget hv

/-- **An action comes to the same in a state with more discarded reports**, as long as none are added to an address that is
not known. -/
theorem perform_addDiscards (hs : s.stations.Sound) (hn : ∀ a, s.stations.handleOf? a = none → n a = 0) {act : Action}
    (ho : s.perform act = .ok o) : (s.addDiscards n).perform act = .ok (o.addDiscards n) := by
  cases act with
  | register a c =>
    cases ho
    rw [perform_register, stations_addDiscards, Registry.register_addDiscards hs (hn a)]
    rfl
  | update h c =>
    have hmodify : (s.stations.addDiscards n).modify h (·.readvertise c) =
        (s.stations.modify h (·.readvertise c)).addDiscards n := Registry.modify_addDiscards fun _ => rfl
    cases ho
    rw [perform, stations_addDiscards, hmodify, Registry.contains_addDiscards]
    rfl
  | deregister h =>
    rw [perform] at ho ⊢
    rw [stations_addDiscards, Registry.deregister_addDiscards]
    cases hr : s.stations.deregister h with
    | none => rw [hr] at ho; cases ho; rfl
    | some removed => rw [hr] at ho; cases ho; rfl
  | report h f =>
    cases ho
    rw [perform, report_addDiscards]
  | reportFrom a f =>
    rw [perform] at ho ⊢
    rw [show (s.addDiscards n).stations.handleOf? a = s.stations.handleOf? a from rfl]
    cases ha : s.stations.handleOf? a with
    | none => rw [ha] at ho; cases ho; rfl
    | some h =>
      rw [ha] at ho
      cases ho
      dsimp only
      rw [report_addDiscards]
  | selectData h => exact selectData_addDiscards ho
  | selectRts h => exact selectRts_addDiscards ho
  | subscribe observer =>
    cases ho
    rfl
  | hangUp place =>
    cases ho
    rfl

end RateControl

/-! ## Silent actions -/

/-- Whether an action tells of no SNR that can be used and sends no data: a selection for a protective frame, or a report
of which nothing is taken. -/
def Action.isSilent : Action → Bool
  | .selectRts _ => true
  | .report _ f | .reportFrom _ f => f.accepted?.isNone
  | _ => false

namespace Deed

/-- The address of the station that discarded the report of a deed. -/
def discardedBy? (deed : Deed) : Option MacAddress :=
  match deed.action, deed.outcome.answer with
  | .report h _, .effect (some .discarded) => (deed.outcome.next.stations.get? h).map (·.address)
  | .reportFrom a _, .effect (some .discarded) => some a
  | _, _ => none

/-- How many reports the station of an address discarded in a deed. -/
def discards (deed : Deed) (a : MacAddress) : Nat :=
  if deed.discardedBy? = some a then 1 else 0

theorem discards_eq_zero {deed : Deed} (h : deed.discardedBy? = none) (a : MacAddress) : deed.discards a = 0 := by
  rw [discards, h]
  rfl

theorem discardedBy?_of_isNothing {deed : Deed} (h : deed.outcome.answer.isNothing = true) :
    deed.discardedBy? = none := by
  unfold discardedBy?
  split
  · rename_i hanswer
    rw [hanswer] at h
    cases h
  · rename_i hanswer
    rw [hanswer] at h
    cases h
  · rfl

end Deed

namespace RateControl

variable {s : RateControl} {o : Outcome} {h : Handle} {st : Station} {f : Feedback}

theorem addDiscards_eq_self {n : MacAddress → Nat} (hn : ∀ a, n a = 0) (s : RateControl) : s.addDiscards n = s := by
  unfold addDiscards
  rw [Registry.addDiscards_eq_self fun _ st _ => hn st.address]

theorem report_of_get? (hst : s.stations.get? h = some st) (f : Feedback) :
    s.report h f =
      s.answering (s.stations.modify h fun st => (st.apply f).1) (.effect (some (st.apply f).2)) := by
  rw [report, hst]

/-- **A report of which nothing is taken** adds to the discarded reports of its station at most. -/
theorem report_silent (hs : s.stations.Sound) (hst : s.stations.get? h = some st) (hf : f.accepted? = none) :
    (s.report h f).next = s.addDiscards fun a => if (st.apply f).2 = .discarded ∧ st.address = a then 1 else 0 := by
  rw [report_of_get? hst]
  unfold addDiscards answering
  dsimp only
  congr 1
  refine Registry.modify_eq_map (fun st' hst' => ?_) fun h' st' hne hst' => ?_
  · cases hst.symm.trans hst'
    rw [Station.apply_of_silent st hf]
    simp
  · have hother : st.address ≠ st'.address := by
      intro heq
      have hhandle := (hs.handleOf?_iff st'.address h').2 ⟨st', hst', rfl⟩
      have hhandle' := (hs.handleOf?_iff st'.address h).2 ⟨st, hst, heq⟩
      exact hne (Option.some.inj (hhandle.symm.trans hhandle'))
    dsimp only
    rw [if_neg fun hboth => hother hboth.2, Station.addDiscards_zero]

/-- A deed that leaves nothing behind but more discarded reports of stations that are there, and tells of no change. -/
structure Inert (s : RateControl) (deed : Deed) : Prop where
  next : deed.outcome.next = s.addDiscards deed.discards
  change : deed.outcome.change = none
  told : deed.outcome.told = []
  known : ∀ a, s.stations.handleOf? a = none → deed.discards a = 0

theorem inert_of_kept {deed : Deed} (hnext : deed.outcome.next = s) (hchange : deed.outcome.change = none)
    (htold : deed.outcome.told = []) (hdiscarded : deed.discardedBy? = none) : s.Inert deed where
  next := by rw [hnext, addDiscards_eq_self (Deed.discards_eq_zero hdiscarded)]
  change := hchange
  told := htold
  known a _ := Deed.discards_eq_zero hdiscarded a

theorem inert_missing {act : Action} (hact : act.misses s.stations) (ho : s.perform act = .ok o) :
    s.Inert ⟨act, o⟩ := by
  obtain ⟨answer, hanswer, hnothing⟩ := perform_missing hact
  cases hanswer.symm.trans ho
  exact inert_of_kept rfl rfl rfl (Deed.discardedBy?_of_isNothing hnothing)

theorem inert_report {act : Action} (hs : s.stations.Sound) (hst : s.stations.get? h = some st)
    (hf : f.accepted? = none) (hact : act = .report h f ∨ act = .reportFrom st.address f) :
    s.Inert ⟨act, s.report h f⟩ := by
  have hanswer : (s.report h f).answer = .effect (some (st.apply f).2) := by rw [report_of_get? hst]; rfl
  have haddress : ((s.report h f).next.stations.get? h).map (·.address) = some st.address := by
    rw [report_of_get? hst]
    show ((s.stations.modify h _).get? h).map _ = _
    rw [Registry.get?_modify_self hst, Option.map_some, Station.apply_fst]
  have hdiscarded : Deed.discardedBy? ⟨act, s.report h f⟩ =
      if (st.apply f).2 = .discarded then some st.address else none := by
    obtain rfl | rfl := hact
    · rw [Deed.discardedBy?]
      dsimp only
      rw [hanswer]
      cases (st.apply f).2 with
      | discarded => exact haddress
      | updated => rfl
      | ignored => rfl
    · rw [Deed.discardedBy?]
      dsimp only
      rw [hanswer]
      cases (st.apply f).2 <;> rfl
  have hdiscards : ∀ a, Deed.discards ⟨act, s.report h f⟩ a =
      if (st.apply f).2 = .discarded ∧ st.address = a then 1 else 0 := by
    intro a
    rw [Deed.discards, hdiscarded]
    by_cases heffect : (st.apply f).2 = .discarded <;> simp [heffect]
  refine ⟨?_, ?_, ?_, fun a ha => ?_⟩
  · rw [funext hdiscards]
    exact report_silent hs hst hf
  · rw [report_of_get? hst]
    rfl
  · rw [report_of_get? hst]
    rfl
  · rw [hdiscards, if_neg]
    rintro ⟨-, rfl⟩
    have hhandle := (hs.handleOf?_iff st.address h).2 ⟨st, hst, rfl⟩
    rw [ha] at hhandle
    cases hhandle

/-- **A silent action is inert**, and so is one that names no station. -/
theorem perform_silent (hs : s.stations.Sound) {act : Action} (hact : act.isSilent = true ∨ act.misses s.stations)
    (ho : s.perform act = .ok o) : s.Inert ⟨act, o⟩ := by
  obtain hsilent | hmisses := hact
  · cases act with
    | selectRts h =>
      cases hst : s.stations.get? h with
      | none => exact inert_missing hst ho
      | some st =>
        rw [perform, selectRts, hst] at ho
        obtain ⟨v, -, ho⟩ := Attempt.bind_eq_ok.1 ho
        cases ho
        exact inert_of_kept rfl rfl rfl rfl
    | report h f =>
      cases hst : s.stations.get? h with
      | none => exact inert_missing hst ho
      | some st =>
        cases ho
        exact inert_report hs hst (Option.isNone_iff_eq_none.1 hsilent) (Or.inl rfl)
    | reportFrom a f =>
      cases ha : s.stations.handleOf? a with
      | none => exact inert_missing ha ho
      | some h =>
        obtain ⟨st, hst, rfl⟩ := (hs.handleOf?_iff a h).1 ha
        rw [perform, ha] at ho
        cases ho
        exact inert_report hs hst (Option.isNone_iff_eq_none.1 hsilent) (Or.inr rfl)
    | register | update | deregister | selectData | subscribe | hangUp => cases hsilent
  · exact inert_missing hmisses ho

end RateControl

/-! ## Runs with deeds strewn in -/

/-- **A run and the same run with more deeds strewn in** that are silent or name no station: the deeds of the longer run,
each with the deed of the shorter run if it is one of both. -/
inductive Interspersed (r : RateControl) : List (Option Deed × Deed) → RateControl → RateControl → Prop
  | start : Interspersed r [] r r
  | shares {steps : List (Option Deed × Deed)} {s s' : RateControl} {act : Action} {o o' : Outcome} :
      Interspersed r steps s s' → s.perform act = .ok o → s'.perform act = .ok o' →
      Interspersed r ((some ⟨act, o⟩, ⟨act, o'⟩) :: steps) o.next o'.next
  | inserts {steps : List (Option Deed × Deed)} {s s' : RateControl} {act : Action} {o' : Outcome} :
      Interspersed r steps s s' → act.isSilent = true ∨ act.misses s'.stations → s'.perform act = .ok o' →
      Interspersed r ((none, ⟨act, o'⟩) :: steps) s o'.next

/-- How many reports the station of an address discarded in the deeds strewn in since it registered. -/
def addedDiscards : List (Option Deed × Deed) → MacAddress → Nat
  | [], _ => 0
  | (some deed, _) :: steps, a => if deed.outcome.answer.removes a then 0 else addedDiscards steps a
  | (none, deed) :: steps, a => addedDiscards steps a + deed.discards a

/-- Every deed of both runs has the same outcome but for discarded reports, and no other deed tells of a change. -/
def Undisturbed : List (Option Deed × Deed) → Prop
  | [] => True
  | (some deed, deed') :: steps =>
    deed' = ⟨deed.action, deed.outcome.addDiscards (addedDiscards steps)⟩ ∧ Undisturbed steps
  | (none, deed) :: steps => deed.outcome.change = none ∧ deed.outcome.told = [] ∧ Undisturbed steps

namespace Interspersed

variable {r s s' : RateControl} {steps : List (Option Deed × Deed)}

theorem run (h : Interspersed r steps s s') : Run r (steps.filterMap (·.1)) s := by
  induction h with
  | start => exact .start
  | shares _ ho _ ih => exact ih.step ho
  | inserts _ _ _ ih => exact ih

/-- **The longer run is a run.** -/
theorem run_longer (h : Interspersed r steps s s') : Run r (steps.map (·.2)) s' := by
  induction h with
  | start => exact .start
  | shares _ _ ho' ih => exact ih.step ho'
  | inserts _ _ ho' ih => exact ih.step ho'

/-- **The longer run is in the same state but for the discarded reports**, and all its deeds so far went undisturbed. -/
theorem state_eq {observers : Observers} (h : Interspersed ⟨⟨d, t, observers⟩, {}⟩ steps s s') :
    s' = s.addDiscards (addedDiscards steps) ∧ (∀ a, s.stations.handleOf? a = none → addedDiscards steps a = 0) ∧
      Undisturbed steps := by
  induction h with
  | start => exact ⟨(RateControl.addDiscards_eq_self (fun _ => rfl) _).symm, fun _ _ => rfl, trivial⟩
  | @shares steps s s' act o o' h ho ho' ih =>
    obtain ⟨rfl, hknown, hsteps⟩ := ih
    have hkeeps := h.run.lives.1
    cases (RateControl.perform_addDiscards hkeeps.stations hknown ho).symm.trans ho'
    refine ⟨?_, fun a ha => ?_, rfl, hsteps⟩
    · have hstations : o.next.stations.addDiscards (addedDiscards steps) =
          o.next.stations.addDiscards fun a => if o.answer.removes a then 0 else addedDiscards steps a := by
        refine Registry.addDiscards_congr fun h' st hst => ?_
        rw [RateControl.removes_eq_false hkeeps ho hst]
        rfl
      exact congrArg (fun stations => { o.next with stations := stations }) hstations
    · rw [addedDiscards]
      cases hremoves : o.answer.removes a with
      | true => rfl
      | false => exact hknown a (RateControl.handleOf?_of_unknown_after hkeeps ho hremoves ha)
  | @inserts steps s s' act o' h hact ho' ih =>
    obtain ⟨rfl, hknown, hsteps⟩ := ih
    have hinert := RateControl.perform_silent h.run_longer.lives.1.stations hact ho'
    refine ⟨?_, fun a ha => ?_, hinert.change, hinert.told, hsteps⟩
    · rw [show o'.next = _ from hinert.next]
      exact congrArg (fun stations => { s with stations := stations })
        (Registry.addDiscards_addDiscards (addedDiscards steps) (Deed.discards ⟨act, o'⟩) s.stations)
    · rw [addedDiscards, hknown a ha, hinert.known a ha]

end Interspersed

theorem Undisturbed.emitted_eq {steps : List (Option Deed × Deed)} (h : Undisturbed steps) :
    emitted (steps.map (·.2)) = emitted (steps.filterMap (·.1)) := by
  induction steps with
  | nil => rfl
  | cons step steps ih =>
    obtain ⟨deed?, deed'⟩ := step
    cases deed? with
    | some deed =>
      obtain ⟨rfl, hsteps⟩ := h
      show emitted (_ :: steps.map (·.2)) = emitted (deed :: steps.filterMap (·.1))
      rw [emitted_cons, emitted_cons, ih hsteps]
      rfl
    | none =>
      obtain ⟨hchange, -, hsteps⟩ := h
      show emitted (deed' :: steps.map (·.2)) = emitted (steps.filterMap (·.1))
      rw [emitted_cons, hchange, ih hsteps]
      rfl

/-- **An address to which no report was strewn in that it discarded has no more discarded reports.** -/
theorem addedDiscards_eq_zero {steps : List (Option Deed × Deed)} {a : MacAddress}
    (h : ∀ deed, (none, deed) ∈ steps → deed.discardedBy? ≠ some a) : addedDiscards steps a = 0 := by
  induction steps with
  | nil => rfl
  | cons step steps ih =>
    have hsteps := ih fun deed hdeed => h deed (List.mem_cons_of_mem _ hdeed)
    obtain ⟨deed?, deed'⟩ := step
    cases deed? with
    | some deed =>
      rw [addedDiscards, hsteps]
      exact ite_self _
    | none =>
      rw [addedDiscards, hsteps, Deed.discards, if_neg (h deed' List.mem_cons_self)]

namespace RateControl

/-- What a run has in common with the same run into which deeds were strewn. -/
structure Unnoticed (r : RateControl) (steps : List (Option Deed × Deed)) (s s' : RateControl) : Prop where
  shorter : Run r (steps.filterMap (·.1)) s
  longer : Run r (steps.map (·.2)) s'
  /-- Both runs go on with every action. -/
  performs : ∀ act, (∃ o, s.perform act = .ok o) ∧ ∃ o, s'.perform act = .ok o
  /-- Each deed of both runs has the same answer and the same change, told to the same observers. -/
  undisturbed : Undisturbed steps
  emitted_eq : emitted (steps.map (·.2)) = emitted (steps.filterMap (·.1))
  selector_eq : s'.selector = s.selector
  handleOf?_eq : ∀ a, s'.stations.handleOf? a = s.stations.handleOf? a
  /-- Each station is the same but for its discarded reports. -/
  get?_eq : ∀ h, s'.stations.get? h = (s.stations.get? h).map fun st => st.addDiscards (addedDiscards steps st.address)
  /-- More of these has only who discarded a report that was strewn in. -/
  added : ∀ a, (∀ deed, (none, deed) ∈ steps → deed.discardedBy? ≠ some a) → addedDiscards steps a = 0
  isCacheValid_eq : ∀ h, (s'.stations.get? h).map Station.isCacheValid = (s.stations.get? h).map Station.isCacheValid

/-- **What says nothing goes unnoticed**: into a run of a rate control that was built, silent actions and actions that name
no station may be strewn anywhere and in any number. -/
theorem run_undisturbed {model : ErrorModel} {target : Float} {r s s' : RateControl} {steps : List (Option Deed × Deed)}
    (hr : build d model target = .ok r) (h : Interspersed r steps s s') : r.Unnoticed steps s s' := by
  obtain ⟨hfault, t, ht, rfl⟩ := build_eq_ok_iff.1 hr
  have hd := (Device.fault?_eq_none_iff d).1 hfault
  have hcovers := Thresholds.covers_of_build ht
  obtain ⟨rfl, -, hsteps⟩ := h.state_eq
  have hget := fun h => Registry.get?_addDiscards (addedDiscards steps) s.stations h
  exact
    { shorter := h.run
      longer := h.run_longer
      performs := fun act => ⟨exists_outcome_of_run hd hcovers h.run act, exists_outcome_of_run hd hcovers h.run_longer act⟩
      undisturbed := hsteps
      emitted_eq := hsteps.emitted_eq
      selector_eq := rfl
      handleOf?_eq := fun a => rfl
      get?_eq := hget
      added := fun a => addedDiscards_eq_zero
      isCacheValid_eq := fun h => by
        rw [stations_addDiscards, hget, Option.map_map]
        rfl }

/-- A station that is sent to once, with a report that it discards, a selection for a protective frame and an action on a
handle that nobody has strewn in. -/
theorem run_undisturbed_discardedReport :
    let d := Device.legacy [Catalog.slowestDsss]
    let model := (StepCurve.empty.set Catalog.slowestDsss 2.0).model
    let a := MacAddress.locallyAdministered 1
    ∃ r steps s s', build d model 0.5 = .ok r ∧ Interspersed r steps s s' ∧ r.Unnoticed steps s s' ∧
      (steps.filterMap (·.1)).length = 2 ∧ (steps.map (·.2)).length = 5 ∧ addedDiscards steps a = 1 := by
  intro d model a
  let t : Thresholds := ⟨[(.legacy Catalog.slowestDsss, 2.0)], 0.5⟩
  let r : RateControl := ⟨⟨d, t, {}⟩, {}⟩
  have ht : Thresholds.build d model 0.5 = .ok t := rfl
  have hr : build d model 0.5 = .ok r := build_eq_ok_iff.2 ⟨rfl, _, ht, rfl⟩
  have hregistered := (Interspersed.start (r := r)).shares
    (show perform _ (.register a d.toCapabilities) = .ok _ from rfl) rfl
  have hmissed := hregistered.inserts (Or.inr (show Action.misses _ (.selectData ⟨7⟩) from rfl)) rfl
  have hsilent : (Action.report ⟨0⟩ (.dataAnswered 3.0 0.0)).isSilent = true := by decide
  have hdiscarded := hmissed.inserts (Or.inl hsilent) rfl
  have hprotection := fun st => Selector.selectRts_eq ((Device.fault?_eq_none_iff d).1 rfl) (Thresholds.covers_of_build ht)
    {} st
  have hprotected := hdiscarded.inserts (Or.inl (show (Action.selectRts ⟨0⟩).isSilent = true from rfl))
    (selectRts_of_get? rfl (hprotection _))
  have hsteps := hprotected.shares (show perform _ (.report ⟨0⟩ (.rtsAnswered 4.0 4.0)) = .ok _ from rfl) rfl
  exact ⟨r, _, _, _, hr, hsteps, run_undisturbed hr hsteps, rfl, rfl, rfl⟩

end RateControl
end LinkAdaptation

import LinkAdaptation.Proofs.Control.Passage
/-!
# Runs and lives

A run is a list of performed actions; what happens in it to one station since it registered is the station's life.  What
holds of a fresh station and is kept by all that a station undergoes holds of every station of every run (`Run.lives`,
`Lives.invariant`), with no word on handles, slots or other stations.
-/
namespace LinkAdaptation

variable {d : Device} {t : Thresholds}

/-! ## Runs -/

/-- **A run**: the deeds led from one state to another, the latest deed first. -/
inductive Run (r : RateControl) : List Deed → RateControl → Prop
  | start : Run r [] r
  | step {past : List Deed} {s : RateControl} {a : Action} {o : Outcome} :
      Run r past s → s.perform a = .ok o → Run r (⟨a, o⟩ :: past) o.next

theorem Run.invariant {P : RateControl → Prop} {r s : RateControl} {past : List Deed} (hrun : Run r past s) (hr : P r)
    (hstep : ∀ {s a o}, P s → s.perform a = .ok o → P o.next) : P s := by
  induction hrun with
  | start => exact hr
  | step _ ho ih => exact hstep ih ho

theorem Run.prepend {r s : RateControl} {past : List Deed} {a : Action} {o : Outcome} (ho : r.perform a = .ok o)
    (hrun : Run o.next past s) : Run r (past ++ [⟨a, o⟩]) s := by
  induction hrun with
  | start => exact .step .start ho
  | step _ ho' ih => exact .step ih ho'

/-- **Performing actions in order makes a run.** -/
theorem exists_run {r : RateControl} {actions : List Action} {outcomes : List Outcome}
    (h : r.run actions = .ok outcomes) : ∃ s, Run r (List.zipWith Deed.mk actions outcomes).reverse s := by
  induction actions generalizing r outcomes with
  | nil =>
    cases h
    exact ⟨r, .start⟩
  | cons a actions ih =>
    obtain ⟨o, ho, h⟩ := Attempt.bind_eq_ok.1 h
    obtain ⟨rest, hrest, h⟩ := Attempt.bind_eq_ok.1 h
    cases h
    obtain ⟨s, hrun⟩ := ih hrest
    refine ⟨s, ?_⟩
    rw [List.zipWith_cons_cons, List.reverse_cons]
    exact hrun.prepend ho

/-! ## Lives -/

/-- What happened to one station since it registered, the latest deed first. -/
structure Life where
  address : MacAddress
  /-- The capabilities it registered with. -/
  advertised : Capabilities
  deeds : List Deed

def Life.add (l : Life) (deed : Deed) : Life :=
  { l with deeds := deed :: l.deeds }

/-- The life of the station at a handle after some deeds, the latest one first. -/
def lifeAt (h : Handle) : List Deed → Option Life
  | [] => none
  | deed :: past =>
    match lifeAt h past with
    | none => (deed.begins? h).map fun begun => ⟨begun.1, begun.2, []⟩
    | some l => if deed.ends h then none else if deed.action.concerns l.address h then some (l.add deed) else some l

/-- The stations that come out of a life. -/
inductive Lives (d : Device) (t : Thresholds) : Life → Station → Prop
  | fresh {a : MacAddress} {c : Capabilities} : Lives d t ⟨a, c, []⟩ (.fresh a c)
  | step {l : Life} {st st' : Station} {deed : Deed} :
      Lives d t l st → Undergoes d t st deed st' → Lives d t (l.add deed) st'

theorem Undergoes.address {st st' : Station} {deed : Deed} (h : Undergoes d t st deed st') : st'.address = st.address := by
  cases h with
  | register => rfl
  | update => rfl
  | report => rw [Station.apply_fst]
  | reportFrom => rw [Station.apply_fst]
  | selectData hchosen => exact (Selector.selectData_keeps hchosen).1
  | selectRts => rfl

theorem Lives.address {l : Life} {st : Station} (h : Lives d t l st) : st.address = l.address := by
  induction h with
  | fresh => rfl
  | step _ hdeed ih => exact hdeed.address.trans ih

/-- **What holds of a fresh station and is kept by all it undergoes holds along its life.** -/
theorem Lives.invariant {P : Station → Prop} {l : Life} {st : Station} (h : Lives d t l st)
    (hfresh : ∀ a c, P (.fresh a c)) (hstep : ∀ {st deed st'}, P st → Undergoes d t st deed st' → P st') : P st := by
  induction h with
  | fresh => exact hfresh _ _
  | step _ hdeed ih => exact hstep ih hdeed

theorem lifeAt_passage {deed : Deed} {h : Handle} {past : List Deed} {before after : Option Station}
    (hbefore : Option.Rel (Lives d t) (lifeAt h past) before) (hpassage : Passage d t deed h before after) :
    Option.Rel (Lives d t) (lifeAt h (deed :: past)) after := by
  -- a passage from nothing leaves no life to go on, and one from a station leaves no beginning
  rw [lifeAt]
  cases hpassage with
  | absent hbegins =>
    cases hlife : lifeAt h past with
    | some l => rw [hlife] at hbefore; cases hbefore
    | none => dsimp only; rw [hbegins]; exact .none
  | begins hbegins =>
    cases hlife : lifeAt h past with
    | some l => rw [hlife] at hbefore; cases hbefore
    | none => dsimp only; rw [hbegins]; exact .some .fresh
  | apart hconcerns hends =>
    cases hlife : lifeAt h past with
    | none => rw [hlife] at hbefore; cases hbefore
    | some l =>
      rw [hlife] at hbefore
      cases hbefore with
      | some hlives =>
        rw [hlives.address] at hconcerns
        simp only [hends, hconcerns]
        exact .some hlives
  | lives hconcerns hends hundergoes =>
    cases hlife : lifeAt h past with
    | none => rw [hlife] at hbefore; cases hbefore
    | some l =>
      rw [hlife] at hbefore
      cases hbefore with
      | some hlives =>
        rw [hlives.address] at hconcerns
        simp only [hends, hconcerns]
        exact .some (hlives.step hundergoes)
  | ends hends =>
    cases hlife : lifeAt h past with
    | none => rw [hlife] at hbefore; cases hbefore
    | some l => simp only [hends]; exact .none

/-- The capabilities that an action advertises. -/
def Action.advertised? : Action → Option Capabilities
  | .register _ c | .update _ c => some c
  | _ => none

/-- The SNR that an action reports, once the report is accepted. -/
def Action.accepted? : Action → Option Float
  | .report _ f | .reportFrom _ f => f.accepted?
  | _ => none

/-- The capabilities advertised last. -/
def Life.capabilities (l : Life) : Capabilities :=
  (l.deeds.findSome? (·.action.advertised?)).getD l.advertised

/-- The SNR accepted last, 0 before the first one. -/
def Life.snr (l : Life) : Float :=
  (l.deeds.findSome? (·.action.accepted?)).getD 0.0

theorem Undergoes.capabilities {st st' : Station} {deed : Deed} (h : Undergoes d t st deed st') :
    st'.capabilities = deed.action.advertised?.getD st.capabilities := by
  cases h with
  | register => rfl
  | update => rfl
  | report => rw [Station.apply_fst]; rfl
  | reportFrom => rw [Station.apply_fst]; rfl
  | selectData hchosen => exact (Selector.selectData_keeps hchosen).2.1
  | selectRts => rfl

theorem Undergoes.observed {st st' : Station} {deed : Deed} (h : Undergoes d t st deed st') :
    st'.observed = deed.action.accepted?.getD st.observed := by
  cases h with
  | register => rfl
  | update => rfl
  | report => rw [Station.apply_fst]; rfl
  | reportFrom => rw [Station.apply_fst]; rfl
  | selectData hchosen => exact (Selector.selectData_keeps hchosen).2.2
  | selectRts => rfl

/-- **A station has the capabilities advertised last.** -/
theorem Lives.capabilities {l : Life} {st : Station} (h : Lives d t l st) : st.capabilities = l.capabilities := by
  induction h with
  | fresh => rfl
  | @step l st st' deed _ hdeed ih =>
    rw [hdeed.capabilities, ih, Life.capabilities, Life.capabilities, Life.add, List.findSome?_cons]
    cases deed.action.advertised? <;> rfl

/-- **A station has the SNR accepted last.** -/
theorem Lives.observed {l : Life} {st : Station} (h : Lives d t l st) : st.observed = l.snr := by
  induction h with
  | fresh => rfl
  | @step l st st' deed _ hdeed ih =>
    rw [hdeed.observed, ih, Life.snr, Life.snr, Life.add, List.findSome?_cons]
    cases deed.action.accepted? <;> rfl

/-- **The stations of a run are those that come out of their lives**, handle by handle. -/
theorem Run.lives {observers : Observers} {past : List Deed} {s : RateControl}
    (hrun : Run ⟨⟨d, t, observers⟩, {}⟩ past s) :
    s.Keeps d t ∧ ∀ h, Option.Rel (Lives d t) (lifeAt h past) (s.stations.get? h) := by
  induction hrun with
  | start => exact ⟨RateControl.keeps_start d t observers, fun h => .none⟩
  | step _ ho ih =>
    obtain ⟨hkeeps, hlives⟩ := ih
    exact ⟨hkeeps.perform ho, fun h => lifeAt_passage (hlives h) (hkeeps.passage ho h)⟩

theorem Run.exists_life {observers : Observers} {past : List Deed} {s : RateControl}
    (hrun : Run ⟨⟨d, t, observers⟩, {}⟩ past s) {h : Handle} {st : Station} (hst : s.stations.get? h = some st) :
    ∃ l, lifeAt h past = some l ∧ Lives d t l st := by
  have hrel := hrun.lives.2 h
  rw [hst] at hrel
  cases hlife : lifeAt h past with
  | none => rw [hlife] at hrel; cases hrel
  | some l =>
    rw [hlife] at hrel
    cases hrel with
    | some hlives => exact ⟨l, rfl, hlives⟩

/-- **A life has a station.** -/
theorem Run.exists_station {observers : Observers} {past : List Deed} {s : RateControl}
    (hrun : Run ⟨⟨d, t, observers⟩, {}⟩ past s) {h : Handle} {l : Life} (hlife : lifeAt h past = some l) :
    ∃ st, s.stations.get? h = some st ∧ Lives d t l st := by
  have hrel := hrun.lives.2 h
  rw [hlife] at hrel
  cases hst : s.stations.get? h with
  | none => rw [hst] at hrel; cases hrel
  | some st =>
    rw [hst] at hrel
    cases hrel with
    | some hlives => exact ⟨st, rfl, hlives⟩

/-! ## One station -/

namespace RateControl

/-- A rate control with one station, in the first cell. -/
def alone (selector : Selector) (st : Station) : RateControl :=
  ⟨selector, ⟨⟨#[some st], []⟩, [(st.address, ⟨0⟩)]⟩⟩

/-- **The first frame to the first station**: what is chosen at the SNR that it reported is kept for that SNR. -/
theorem run_firstFrame (hd : d.Faultless) (ht : t.Covers d) (a : MacAddress) (c : Capabilities) {snr : Float}
    {v : TxVector} (hv : t.choose d c snr = some v) :
    ∃ past st, Run ⟨⟨d, t, {}⟩, {}⟩ past (alone ⟨d, t, {}⟩ st) ∧ past.length = 3 ∧ st.capabilities = c ∧
      st.observed = snr ∧ st.used = some snr ∧ st.cached = some v := by
  let selector : Selector := ⟨d, t, {}⟩
  let silent : Station := .fresh a c
  have hregistered : Run ⟨selector, {}⟩ _ (alone selector silent) := (Run.step (a := .register a c) .start rfl :)
  let heard : Station := { silent with observed := snr, counters := { snrUpdates := 1 } }
  have hheard : Run ⟨selector, {}⟩ _ (alone selector heard) :=
    (hregistered.step (a := .report ⟨0⟩ (.rtsAnswered snr snr)) rfl :)
  have hchosen := Selector.selectData_of_choose hd ht {} (rfl : heard.reusable? = none) hv
  rw [Selector.adopt_eq] at hchosen
  exact ⟨_, _, (hheard.step (selectData_of_get? (h := ⟨0⟩) rfl hchosen) :), rfl, rfl, rfl, rfl, rfl⟩

end RateControl

end LinkAdaptation

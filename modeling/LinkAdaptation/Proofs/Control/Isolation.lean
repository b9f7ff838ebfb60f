import LinkAdaptation.Proofs.Control.Cache
import LinkAdaptation.Proofs.Control.Turn
/-!
# Stations do not disturb one another

All stations share one registry, whose cells are given out again, one selector and one list of observers.  Nothing of that
shows: a run and what is left of it when all other stations are left out agree on everything about one address but the
numbers of its handles (`RateControl.run_isolated`).  Both runs give the station its turns in lockstep, and what a turn
makes of a station is settled by the station and the action (`Turn.deterministic`).
-/
namespace LinkAdaptation

variable {d : Device} {t : Thresholds}

/-! ## Reduced runs -/

namespace Action

/-- The same action on another handle. -/
def withHandle (k : Handle) : Action → Action
  | .update _ c => .update k c
  | .deregister _ => .deregister k
  | .report _ f => .report k f
  | .selectData _ => .selectData k
  | .selectRts _ => .selectRts k
  | act => act

/-- The same action on the handle of an address, if it has one. -/
def readdressed (k? : Option Handle) (act : Action) : Action :=
  k?.elim act act.withHandle

/-- Whether an action is left when all stations but that of `a` are left out. -/
def isLeft (a : MacAddress) (h? : Option Handle) : Action → Bool
  | .subscribe _ | .hangUp _ => true
  | act => act.isFor a h?

end Action

/-- **What is left of a run** when all actions on other stations than that of `a` are left out: the deeds that are left,
each with the deed of the reduced run, where the station has another handle. -/
inductive Reduced (r : RateControl) (a : MacAddress) :
    List Deed → RateControl → List (Deed × Deed) → RateControl → Prop
  | start : Reduced r a [] r [] r
  | omits {past : List Deed} {s s' : RateControl} {left : List (Deed × Deed)} {act : Action} {o : Outcome} :
      Reduced r a past s left s' → act.isLeft a (s.stations.handleOf? a) = false → s.perform act = .ok o →
      Reduced r a (⟨act, o⟩ :: past) o.next left s'
  | keeps {past : List Deed} {s s' : RateControl} {left : List (Deed × Deed)} {act : Action} {o o' : Outcome} :
      Reduced r a past s left s' → act.isLeft a (s.stations.handleOf? a) = true → s.perform act = .ok o →
      s'.perform (act.readdressed (s'.stations.handleOf? a)) = .ok o' →
      Reduced r a (⟨act, o⟩ :: past) o.next
        ((⟨act, o⟩, ⟨act.readdressed (s'.stations.handleOf? a), o'⟩) :: left) o'.next

namespace Reduced

variable {r s s' : RateControl} {a : MacAddress} {past : List Deed} {left : List (Deed × Deed)}

theorem run (h : Reduced r a past s left s') : Run r past s := by
  induction h with
  | start => exact .start
  | omits _ _ ho ih => exact ih.step ho
  | keeps _ _ ho _ ih => exact ih.step ho

/-- **The reduced run is a run.** -/
theorem run_left (h : Reduced r a past s left s') : Run r (left.map (·.2)) s' := by
  induction h with
  | start => exact .start
  | omits _ _ _ ih => exact ih
  | keeps _ _ _ ho' ih => exact ih.step ho'

end Reduced

/-! ## What two turns have in common -/

/-- Answers that are the same but for the number of a handle. -/
def Answer.Alike : Answer → Answer → Prop
  | .registered _, .registered _ => True
  | x, y => x = y

theorem Answer.alike_of_eq {x y z : Answer} (hx : x = z) (hy : y = z) : x.Alike y := by
  rw [hx, hy]
  cases z <;> trivial

theorem Answer.alike_registered {x y : Answer} {h k : Handle} (hx : x = .registered h) (hy : y = .registered k) :
    x.Alike y := by
  rw [hx, hy]
  trivial

theorem Action.readdressed_withHandle (k? : Option Handle) (act : Action) (k : Handle) :
    (act.readdressed k?).withHandle k = act.withHandle k := by
  cases k? with
  | none => rfl
  | some _ => cases act <;> rfl

theorem Action.readdressed_of_isForObservers {act : Action} (hact : act.isForObservers = true) (k? : Option Handle) :
    act.readdressed k? = act := by
  cases act with
  | subscribe | hangUp => cases k? <;> rfl
  | _ => cases hact

/-- **What a station undergoes is settled by the action**, whatever handle it has. -/
theorem Undergoes.deterministic {st st₁ st₂ : Station} {deed deed' : Deed} (h : Undergoes d t st deed st₁)
    (h' : Undergoes d t st deed' st₂) {k : Handle} (hactions : deed'.action.withHandle k = deed.action.withHandle k) :
    st₂ = st₁ ∧ deed.outcome.answer.Alike deed'.outcome.answer ∧ deed'.outcome.change = deed.outcome.change := by
  -- two of one kind agree on what they are about, and no two kinds have the same action
  cases h with
  | register hanswer hchange =>
    cases h' with
    | register hanswer' hchange' =>
      cases hactions
      exact ⟨rfl, Answer.alike_registered hanswer hanswer', hchange'.trans hchange.symm⟩
    | _ => cases hactions
  | update hanswer hchange =>
    cases h' with
    | update hanswer' hchange' =>
      cases hactions
      exact ⟨rfl, Answer.alike_of_eq hanswer hanswer', hchange'.trans hchange.symm⟩
    | _ => cases hactions
  | report hanswer hchange =>
    cases h' with
    | report hanswer' hchange' =>
      cases hactions
      exact ⟨rfl, Answer.alike_of_eq hanswer hanswer', hchange'.trans hchange.symm⟩
    | _ => cases hactions
  | reportFrom hanswer hchange =>
    cases h' with
    | reportFrom hanswer' hchange' =>
      cases hactions
      exact ⟨rfl, Answer.alike_of_eq hanswer hanswer', hchange'.trans hchange.symm⟩
    | _ => cases hactions
  | selectData hchosen hanswer hchange =>
    cases h' with
    | selectData hchosen' hanswer' hchange' =>
      cases hchosen.symm.trans hchosen'
      exact ⟨rfl, Answer.alike_of_eq hanswer hanswer', hchange'.trans hchange.symm⟩
    | _ => cases hactions
  | selectRts hv hanswer hchange =>
    cases h' with
    | selectRts hv' hanswer' hchange' =>
      cases hv.symm.trans hv'
      exact ⟨rfl, Answer.alike_of_eq hanswer hanswer', hchange'.trans hchange.symm⟩
    | _ => cases hactions

/-- **What a turn makes of a station is settled by the station and the action**, whatever handle it has. -/
theorem Turn.deterministic {a : MacAddress} {deed deed' : Deed} {before after after' : Option Station}
    (h : Turn d t a deed before after) (h' : Turn d t a deed' before after') {k : Handle}
    (hactions : deed'.action.withHandle k = deed.action.withHandle k) :
    after' = after ∧ deed.outcome.answer.Alike deed'.outcome.answer ∧ deed'.outcome.change = deed.outcome.change := by
  cases h with
  | arrives haction hanswer hchange =>
    cases h' with
    | arrives haction' hanswer' hchange' =>
      rw [haction, haction'] at hactions
      cases hactions
      exact ⟨rfl, Answer.alike_registered hanswer hanswer', hchange'.trans hchange.symm⟩
    | unheard haction' =>
      rw [haction, haction'] at hactions
      cases hactions
  | unheard haction hanswer hchange =>
    cases h' with
    | arrives haction' =>
      rw [haction, haction'] at hactions
      cases hactions
    | unheard haction' hanswer' hchange' =>
      exact ⟨rfl, Answer.alike_of_eq hanswer hanswer', hchange'.trans hchange.symm⟩
  | lives hundergoes =>
    cases h' with
    | lives hundergoes' =>
      obtain ⟨rfl, hanswers, hchanges⟩ := hundergoes.deterministic hundergoes' hactions
      exact ⟨rfl, hanswers, hchanges⟩
    | leaves haction' =>
      rw [haction'] at hactions
      cases hundergoes <;> cases hactions
  | leaves haction hanswer hchange =>
    cases h' with
    | lives hundergoes' =>
      rw [haction] at hactions
      cases hundergoes' <;> cases hactions
    | leaves haction' hanswer' hchange' =>
      exact ⟨rfl, Answer.alike_of_eq hanswer hanswer', hchange'.trans hchange.symm⟩

/-! ## Both runs in lockstep -/

theorem Action.isFor_readdressed {a : MacAddress} {h? k? : Option Handle} {act : Action}
    (hfor : act.isFor a h? = true) (hsame : k?.isSome = h?.isSome) : (act.readdressed k?).isFor a k? = true := by
  cases k? with
  | none =>
    cases h? with
    | none =>
      obtain ⟨c, rfl⟩ | ⟨f, rfl⟩ := Action.isFor_none hfor <;> exact decide_eq_true rfl
    | some h => cases hsame
  | some k =>
    cases act with
    | register b c => exact hfor
    | reportFrom b f => exact hfor
    | subscribe | hangUp => cases hfor
    | update | deregister | report | selectData | selectRts => exact decide_eq_true rfl

/-- An action about the observers, or one that is addressed to `a`. -/
theorem Action.isLeft_eq_true_iff {a : MacAddress} {h? : Option Handle} {act : Action} :
    act.isLeft a h? = true ↔ act.isForObservers = true ∨ act.isFor a h? = true := by
  cases act <;> simp [isLeft, isFor, isForObservers]

theorem Action.isForObservers_of_isFor {a : MacAddress} {h? : Option Handle} {act : Action}
    (hfor : act.isFor a h? = true) : act.isForObservers = false := by
  cases act with
  | subscribe | hangUp => cases hfor
  | _ => rfl

namespace RateControl

variable {s : RateControl} {o : Outcome} {act : Action}

/-- **Every action of a run succeeds.** -/
theorem exists_outcome_of_run (hd : d.Faultless) (ht : t.Covers d) {observers : Observers} {past : List Deed}
    (hrun : Run ⟨⟨d, t, observers⟩, {}⟩ past s) (act : Action) : ∃ o, s.perform act = .ok o := by
  obtain ⟨observers', hselector⟩ := hrun.lives.1.selector
  refine exists_outcome (fun {h st} hst => ?_) (fun {h st} hst => ?_) act
  · obtain ⟨l, -, hl⟩ := hrun.exists_life hst
    obtain ⟨chosen, hchosen, -⟩ := Selector.selectData_eq_uncached hd ht observers' hl.current
    exact ⟨chosen, by rw [hselector]; exact hchosen⟩
  · exact ⟨_, by rw [hselector]; exact Selector.selectRts_eq hd ht observers' st⟩

end RateControl

theorem Turn.register_of_registered {a : MacAddress} {deed : Deed} {before after : Option Station}
    (h : Turn d t a deed before after) {k : Handle} (hanswer : deed.outcome.answer = .registered k) :
    ∃ b c, deed.action = .register b c := by
  cases h with
  | arrives haction => exact ⟨_, _, haction⟩
  | unheard _ hanswer' => cases hanswer.symm.trans hanswer'
  | leaves _ hanswer' => cases hanswer.symm.trans hanswer'
  | lives hundergoes =>
    cases hundergoes with
    | register => exact ⟨_, _, rfl⟩
    | update hanswer' => cases hanswer.symm.trans hanswer'
    | report hanswer' => cases hanswer.symm.trans hanswer'
    | reportFrom hanswer' => cases hanswer.symm.trans hanswer'
    | selectData _ hanswer' => cases hanswer.symm.trans hanswer'
    | selectRts _ hanswer' => cases hanswer.symm.trans hanswer'

/-- **A registration answers the handle that the address has from then on.** -/
theorem RateControl.handleOf?_of_registered {s : RateControl} {a : MacAddress} {act : Action} {o : Outcome}
    (hs : s.Keeps d t) (hfor : act.isFor a (s.stations.handleOf? a) = true) (ho : s.perform act = .ok o) {h : Handle}
    (hanswer : o.answer = .registered h) : o.next.stations.handleOf? a = some h := by
  obtain ⟨b, c, haction⟩ := (perform_turn hs ho hfor).register_of_registered hanswer
  cases haction
  cases of_decide_eq_true hfor
  rw [perform_register] at ho
  cases ho
  cases hanswer
  exact hs.stations.handleOf?_register _ c

/-- What a deed and the deed of the reduced run have in common. -/
structure Mirrored (a : MacAddress) (deed deed' : Deed) : Prop where
  answer : deed.outcome.answer.Alike deed'.outcome.answer
  /-- Where the numbers of handles differ, each is the one that `a` has in its run. -/
  handle : ∀ h, deed.outcome.answer = .registered h → deed.outcome.next.stations.handleOf? a = some h
  handle' : ∀ h, deed'.outcome.answer = .registered h → deed'.outcome.next.stations.handleOf? a = some h
  change : deed'.outcome.change = deed.outcome.change
  told : deed'.outcome.told = deed.outcome.told
  station : deed'.outcome.next.stations.ofAddress? a = deed.outcome.next.stations.ofAddress? a

/-- What two states with the same selector and the same station of `a` have in common. -/
structure Lockstep (a : MacAddress) (s s' : RateControl) : Prop where
  selector : s'.selector = s.selector
  station : s'.stations.ofAddress? a = s.stations.ofAddress? a

namespace Lockstep

variable {s s' : RateControl} {a : MacAddress} {act : Action} {o o' : Outcome}

/-- **What is left out does not disturb the station.** -/
theorem skip (h : Lockstep a s s') (hs : s.Keeps d t) (hleft : act.isLeft a (s.stations.handleOf? a) = false)
    (ho : s.perform act = .ok o) : Lockstep a o.next s' ∧ ∀ c, o.change = some c → c.address ≠ a := by
  have hneither := fun hact => Bool.false_ne_true (hleft.symm.trans (Action.isLeft_eq_true_iff.2 hact))
  have hfor := Bool.eq_false_iff.2 fun hfor => hneither (Or.inr hfor)
  have hselector := RateControl.selector_perform ho (Bool.eq_false_iff.2 fun hact => hneither (Or.inl hact))
  obtain ⟨hstation, hchange⟩ := RateControl.perform_apart hs ho hfor
  exact ⟨⟨h.selector.trans hselector.symm, h.station.trans hstation.symm⟩, hchange⟩

/-- **A turn of the station is the same in both runs.** -/
theorem turn (h : Lockstep a s s') (hs : s.Keeps d t) (hs' : s'.Keeps d t)
    (hfor : act.isFor a (s.stations.handleOf? a) = true) (ho : s.perform act = .ok o)
    (ho' : s'.perform (act.readdressed (s'.stations.handleOf? a)) = .ok o') :
    Lockstep a o.next o'.next ∧ Mirrored a ⟨act, o⟩ ⟨act.readdressed (s'.stations.handleOf? a), o'⟩ := by
  have hsame : (s'.stations.handleOf? a).isSome = (s.stations.handleOf? a).isSome := by
    rw [← hs'.stations.isSome_ofAddress?, ← hs.stations.isSome_ofAddress?, h.station]
  have hfor' := Action.isFor_readdressed hfor hsame
  have hturn := RateControl.perform_turn hs ho hfor
  have hturn' := RateControl.perform_turn hs' ho' hfor'
  -- both turns start from one station, with actions that differ in the handle at most
  rw [h.station] at hturn'
  obtain ⟨hstation, hanswer, hchange⟩ := hturn.deterministic hturn' (k := ⟨0⟩) (Action.readdressed_withHandle _ _ _)
  have hselector : o'.next.selector = o.next.selector := by
    rw [RateControl.selector_perform ho (Action.isForObservers_of_isFor hfor),
      RateControl.selector_perform ho' (Action.isForObservers_of_isFor hfor'), h.selector]
  have htold : o'.told = o.told := by
    rw [RateControl.told_eq ho, RateControl.told_eq ho', h.selector, hchange]
  exact ⟨⟨hselector, hstation⟩,
    { answer := hanswer
      handle := fun h => RateControl.handleOf?_of_registered hs hfor ho
      handle' := fun h => RateControl.handleOf?_of_registered hs' hfor' ho'
      change := hchange
      told := htold
      station := hstation }⟩

/-- **Observers come and go alike in both runs.** -/
theorem attend (h : Lockstep a s s') (hact : act.isForObservers = true) (ho : s.perform act = .ok o)
    (ho' : s'.perform act = .ok o') : Lockstep a o.next o'.next ∧ Mirrored a ⟨act, o⟩ ⟨act, o'⟩ := by
  obtain ⟨turn, answer, hperform, hanswers⟩ := RateControl.perform_isForObservers hact
  have hhandle : ∀ observers h, answer observers ≠ .registered h := fun observers h heq => by
    obtain ⟨place, hplace⟩ | ⟨wasKnown, hknown⟩ := hanswers observers
    · cases hplace.symm.trans heq
    · cases hknown.symm.trans heq
  rw [hperform] at ho ho'
  cases ho
  cases ho'
  exact ⟨⟨by dsimp only; rw [h.selector], h.station⟩,
    { answer := Answer.alike_of_eq rfl (by dsimp only; rw [h.selector])
      handle := fun h hanswer => absurd hanswer (hhandle _ h)
      handle' := fun h hanswer => absurd hanswer (hhandle _ h)
      change := rfl
      told := rfl
      station := h.station }⟩

/-- **What is left is the same in both runs.** -/
theorem keep (h : Lockstep a s s') (hs : s.Keeps d t) (hs' : s'.Keeps d t)
    (hleft : act.isLeft a (s.stations.handleOf? a) = true) (ho : s.perform act = .ok o)
    (ho' : s'.perform (act.readdressed (s'.stations.handleOf? a)) = .ok o') :
    Lockstep a o.next o'.next ∧ Mirrored a ⟨act, o⟩ ⟨act.readdressed (s'.stations.handleOf? a), o'⟩ := by
  obtain hact | hfor := Action.isLeft_eq_true_iff.1 hleft
  · rw [Action.readdressed_of_isForObservers hact] at ho' ⊢
    exact h.attend hact ho ho'
  · exact h.turn hs hs' hfor ho ho'

end Lockstep

namespace Reduced

variable {s s' : RateControl} {a : MacAddress} {past : List Deed} {left : List (Deed × Deed)} {observers : Observers}

/-- **A run and what is left of it stay in lockstep.** -/
theorem lockstep (h : Reduced ⟨⟨d, t, observers⟩, {}⟩ a past s left s') :
    Lockstep a s s' ∧ (∀ p ∈ left, Mirrored a p.1 p.2) ∧ changesOf a (left.map (·.2)) = changesOf a past := by
  induction h with
  | start => exact ⟨⟨rfl, rfl⟩, by simp, rfl⟩
  | omits hbefore hleft ho ih =>
    obtain ⟨hlockstep, hmirrored, hchanges⟩ := ih
    obtain ⟨hnext, hapart⟩ := hlockstep.skip hbefore.run.lives.1 hleft ho
    exact ⟨hnext, hmirrored, hchanges.trans (changesOf_cons_of_apart hapart _).symm⟩
  | keeps hbefore hleft ho ho' ih =>
    obtain ⟨hlockstep, hmirrored, hchanges⟩ := ih
    obtain ⟨hnext, hkept⟩ := hlockstep.keep hbefore.run.lives.1 hbefore.run_left.lives.1 hleft ho ho'
    refine ⟨hnext, List.forall_mem_cons.2 ⟨hkept, hmirrored⟩, ?_⟩
    rw [List.map_cons, changesOf_cons, changesOf_cons, hkept.change, hchanges]

end Reduced

/-- **Every run has a reduced one.** -/
theorem exists_reduced (hd : d.Faultless) (ht : t.Covers d) {observers : Observers} {past : List Deed} {s : RateControl}
    (hrun : Run ⟨⟨d, t, observers⟩, {}⟩ past s) (a : MacAddress) :
    ∃ left s', Reduced ⟨⟨d, t, observers⟩, {}⟩ a past s left s' := by
  induction hrun with
  | start => exact ⟨_, _, .start⟩
  | @step past s act o hrun ho ih =>
    obtain ⟨left, s', hreduced⟩ := ih
    cases hleft : act.isLeft a (s.stations.handleOf? a) with
    | false => exact ⟨_, _, hreduced.omits hleft ho⟩
    | true =>
      obtain ⟨o', ho'⟩ := RateControl.exists_outcome_of_run hd ht hreduced.run_left
        (act.readdressed (s'.stations.handleOf? a))
      exact ⟨_, _, hreduced.keeps hleft ho ho'⟩

namespace RateControl

/-- **Stations do not disturb one another**: whatever run is made, leaving out all that is not addressed to `a` leaves a
run in which `a` gets the same answers and has the same station after each of its actions and the same changes. -/
theorem run_isolated {model : ErrorModel} {target : Float} {r s : RateControl} {past : List Deed}
    (hr : build d model target = .ok r) (hrun : Run r past s) (a : MacAddress) :
    (∃ left s', Reduced r a past s left s') ∧
      ∀ {left s'}, Reduced r a past s left s' →
        Run r (left.map (·.2)) s' ∧ (∀ p ∈ left, Mirrored a p.1 p.2) ∧
          changesOf a (left.map (·.2)) = changesOf a past := by
  obtain ⟨hfault, t, ht, rfl⟩ := build_eq_ok_iff.1 hr
  refine ⟨exists_reduced ((Device.fault?_eq_none_iff d).1 hfault) (Thresholds.covers_of_build ht) hrun a, ?_⟩
  intro left s' hreduced
  obtain ⟨-, hmirrored, hchanges⟩ := hreduced.lockstep
  exact ⟨hreduced.run_left, hmirrored, hchanges⟩

/-- The station of another address registers first and goes again, so the handles differ. -/
theorem run_isolated_otherHandle :
    let d := Device.legacy [Catalog.slowestDsss]
    let model := (StepCurve.empty.set Catalog.slowestDsss 2.0).model
    let a := MacAddress.locallyAdministered 1
    ∃ r s s' past left, build d model 0.5 = .ok r ∧ Run r past s ∧ past.length = 4 ∧ Reduced r a past s left s' ∧
      left.length = 2 ∧ s.stations.handleOf? a = some ⟨1⟩ ∧ s'.stations.handleOf? a = some ⟨0⟩ ∧
      Run r (left.map (·.2)) s' ∧ (∀ p ∈ left, Mirrored a p.1 p.2) ∧
      changesOf a (left.map (·.2)) = changesOf a past := by
  intro d model a
  let t : Thresholds := ⟨[(.legacy Catalog.slowestDsss, 2.0)], 0.5⟩
  let r : RateControl := ⟨⟨d, t, {}⟩, {}⟩
  have ht : Thresholds.build d model 0.5 = .ok t := rfl
  have hr : build d model 0.5 = .ok r := build_eq_ok_iff.2 ⟨rfl, _, ht, rfl⟩
  have hother := (Reduced.start (r := r) (a := a)).omits rfl
    (show perform _ (.register (.locallyAdministered 9) d.toCapabilities) = .ok _ from rfl)
  have hregistered := hother.keeps rfl (show perform _ (.register a d.toCapabilities) = .ok _ from rfl) rfl
  have hgone := hregistered.omits rfl (show perform _ (.deregister ⟨0⟩) = .ok _ from rfl)
  have hreduced := hgone.keeps rfl (show perform _ (.report ⟨1⟩ (.rtsAnswered 4.0 4.0)) = .ok _ from rfl) rfl
  obtain ⟨hrun', hmirrored, hchanges⟩ := (run_isolated hr hreduced.run a).2 hreduced
  exact ⟨r, _, _, _, _, hr, hreduced.run, rfl, hreduced, rfl, rfl, rfl, hrun', hmirrored, hchanges⟩

end RateControl
end LinkAdaptation

import LinkAdaptation.Proofs.Control.Conditions
import LinkAdaptation.Proofs.Control.Lockstep
import LinkAdaptation.Proofs.Control.Protection
/-!
# The order of the modes breaks ties

Three lists of modes can be in any order and hold modes more than once: those of the device, its basic modes and those that
a peer advertises.  The order says which of several equals comes first, and that is all it says
(`RateControl.run_relisted`): with another list of modes a device sends at the same rates, with another list of basic modes
it protects its frames at the same thresholds, and the list of a peer is only asked what it holds.
-/
namespace LinkAdaptation

/-- As fast as the other one. -/
def SameRate (v v' : TxVector) : Prop :=
  v'.dataRate = v.dataRate

/-- Asking for as much as the other one, as IEEE 754 compares numbers: the two zeros are equal. -/
def SameThreshold (t : Thresholds) (v v' : TxVector) : Prop :=
  Option.Rel (fun x x' => (x == x') = true) (t.lookup? v) (t.lookup? v')

/-- The same device with another list of basic modes. -/
def Device.rebased (d : Device) (ms : List Mode) : Device :=
  { d with basicModes := ms }

variable {d : Device} {t t' : Thresholds} {peer peer' : Capabilities} {snr : Float} {ms : List Mode}

/-! ## The modes of a peer -/

theorem Capabilities.lists_congr (hms : SameModes peer.modes ms) (m : Mode) :
    Capabilities.lists { peer with modes := ms } m = peer.lists m := by
  rw [Bool.eq_iff_iff, lists, lists, List.contains_iff_mem, List.contains_iff_mem]
  exact hms m

namespace Thresholds

/-- **What is chosen for a peer does not hang on the order of its modes.** -/
theorem choose_matches (hpeer : peer.Matches peer') (snr : Float) : t.choose d peer' snr = t.choose d peer snr := by
  obtain ⟨ms, hms, rfl⟩ := hpeer
  unfold choose eligible
  simp only [Capabilities.lists_congr hms]
  rfl

/-! ## The modes of the device -/

theorem firstBest_sameRate {vs vs' : List TxVector} (h : ∀ v, v ∈ vs' ↔ v ∈ vs) :
    Option.Rel SameRate (firstBest isFaster vs) (firstBest isFaster vs') := by
  cases hv : firstBest isFaster vs with
  | none =>
    rw [firstBest_eq_none_iff] at hv
    have hnil : vs' = [] := List.eq_nil_iff_forall_not_mem.2 fun v hmem => by
      rw [h v, hv] at hmem
      cases hmem
    rw [hnil]
    exact .none
  | some v =>
    have hbest := isFirstBest_of_firstBest ranks_isFaster hv
    cases hv' : firstBest isFaster vs' with
    | none =>
      have hmem := (h v).2 hbest.mem
      rw [firstBest_eq_none_iff.1 hv'] at hmem
      cases hmem
    | some v' =>
      have hbest' := isFirstBest_of_firstBest ranks_isFaster hv'
      exact .some (Nat.le_antisymm (dataRate_le_of_isFirstBest hbest ((h v').1 hbest'.mem))
        (dataRate_le_of_isFirstBest hbest' ((h v).2 hbest.mem)))

theorem findSome?_rel {R : β → γ → Prop} {f : α → Option β} {f' : α → Option γ} {l : List α}
    (h : ∀ a ∈ l, Option.Rel R (f a) (f' a)) : Option.Rel R (l.findSome? f) (l.findSome? f') := by
  induction l with
  | nil => exact .none
  | cons a l ih =>
    rw [List.findSome?_cons, List.findSome?_cons]
    rcases rel_cases (h a List.mem_cons_self) with ⟨hb, hc⟩ | ⟨b, c, hb, hc, hR⟩
    · rw [hb, hc]
      exact ih fun a' ha' => h a' (List.mem_cons_of_mem a ha')
    · rw [hb, hc]
      exact .some hR

theorem isBelow_congr (ht : ∀ v, t'.lookup? v = t.lookup? v) : t'.isBelow = t.isBelow := by
  funext snr v
  rw [isBelow, isBelow, ht]

theorem choose_relisted (hms : SameModes d.modes ms) (ht : ∀ v, t'.lookup? v = t.lookup? v) (peer : Capabilities)
    (snr : Float) : Option.Rel SameRate (t.choose d peer snr) (t'.choose (d.relisted ms) peer snr) := by
  refine findSome?_rel fun g _ => firstBest_sameRate fun v => ?_
  rw [mem_eligible, mem_eligible, isBelow_congr ht, Device.mem_candidates, Device.mem_candidates]
  refine and_congr_left fun _ => and_congr_right fun _ => exists_congr fun m => ?_
  exact and_congr (hms m) Iff.rfl

theorem protect_congr {d' : Device} (hbasic : d'.basicModes = d.basicModes) (ht : ∀ v, t'.lookup? v = t.lookup? v)
    (snr : Float) : t'.protect d' snr = t.protect d snr := by
  have hhigher : t'.isHigher = t.isHigher := by
    funext v w
    rw [isHigher, isHigher, candidate, candidate, candidate, candidate, ht, ht]
  rw [protect, protect, isBelow_congr ht, hhigher, hbasic]

/-! ## The basic modes -/

/-- **Another list of the same basic modes leads to a choice of the same threshold.** -/
theorem protect_rebased (hms : SameModes d.basicModes ms) (snr : Float) :
    Option.Rel (SameThreshold t) (t.protect d snr) (t.protect (d.rebased ms) snr) := by
  cases hv : t.protect d snr with
  | none =>
    have hnone : t.protect (d.rebased ms) snr = none :=
      protect_eq_none_iff.2 fun m hm => protect_eq_none_iff.1 hv m ((hms m).1 hm)
    rw [hnone]
    exact .none
  | some v =>
    obtain ⟨m, rfl, hbest⟩ := mostProtective_of_protect hv
    obtain ⟨hm, x, hx, hlt⟩ := hbest.eligible
    cases hv' : t.protect (d.rebased ms) snr with
    | none =>
      have hbelow := protect_eq_none_iff.1 hv' m ((hms m).2 hm)
      rw [isBelow_iff.2 ⟨x, hx, hlt⟩] at hbelow
      cases hbelow
    | some v' =>
      obtain ⟨m', rfl, hbest'⟩ := mostProtective_of_protect hv'
      obtain ⟨hm', x', hx', hlt'⟩ := hbest'.eligible
      -- Each of the two is a basic mode of both lists, so neither asks for more than the other.
      obtain ⟨y, hy, hle⟩ := hbest.le ((hms m').1 hm') hx' hlt'
      obtain ⟨y', hy', hle'⟩ := hbest'.le ((hms m).2 hm) hx hlt
      cases hx.symm.trans hy
      cases hx'.symm.trans hy'
      refine .some ?_
      rw [SameThreshold, hx, hx']
      exact .some (Binary64.beq_of_le_of_le hle' hle)

end Thresholds

/-! ## Runs -/

theorem agrees_relisted (hd : d.Faultless) (ht : t.Covers d) (hms : SameModes d.modes ms) (ht' : t'.Covers (d.relisted ms))
    (hlookup : ∀ v, t'.lookup? v = t.lookup? v) : Agrees SameRate SameRate d t (d.relisted ms) t' where
  faultless := hd
  covers := ht
  faultless' := hd.relisted hms
  covers' := ht'
  dataRate h := h
  answers h := h
  fallback := rfl
  choose hpeer snr := by
    rw [Thresholds.choose_matches hpeer snr]
    exact Thresholds.choose_relisted hms hlookup _ snr
  protect snr := by
    have hsame : t'.protect (d.relisted ms) snr = t.protect d snr := Thresholds.protect_congr rfl hlookup snr
    have hrate : ∀ v, SameRate v v := fun _ => rfl
    rw [hsame]
    exact rel_self hrate _

theorem Device.Faultless.rebased (hd : d.Faultless) (hms : SameModes d.basicModes ms) : (d.rebased ms).Faultless :=
  { hd with basicModes := fun m hm => hd.basicModes m ((hms m).1 hm) }

theorem agrees_rebased {E : TxVector → TxVector → Prop} (hd : d.Faultless) (ht : t.Covers d)
    (hms : SameModes d.basicModes ms) (hE : ∀ v, E v v)
    (hprotect : ∀ snr, Option.Rel E (t.protect d snr) (t.protect (d.rebased ms) snr)) :
    Agrees Eq E d t (d.rebased ms) t where
  faultless := hd
  covers := ht
  faultless' := hd.rebased hms
  covers' := ht
  dataRate h := by rw [h]
  answers h := h ▸ hE _
  fallback := rfl
  choose hpeer snr := by
    -- The basic modes are not asked for what to send data with.
    show Option.Rel Eq (t.choose d _ snr) (t.choose d _ snr)
    rw [Thresholds.choose_matches hpeer snr]
    exact rel_self (fun _ => rfl) _
  protect := hprotect

theorem agrees_self (hd : d.Faultless) (ht : t.Covers d) : Agrees Eq Eq d t d t :=
  agrees_rebased hd ht (fun _ => Iff.rfl) (fun _ => rfl) fun _ => rel_self (fun _ => rfl) _

theorem sameThreshold_self {model : ErrorModel} {target : Float} (ht : Thresholds.build d model target = .ok t)
    (v : TxVector) : SameThreshold t v v := by
  unfold SameThreshold
  cases hx : t.lookup? v with
  | none => exact .none
  | some x =>
    have hle := Binary64.le_refl (Binary64.isNaN_of_le (Thresholds.lookup?_nonneg ht hx)).2
    exact .some (Binary64.beq_of_le_of_le hle hle)

namespace RateControl

theorem inStep_start (V : TxVector → TxVector → Prop) (d : Device) (t : Thresholds) (d' : Device) (t' : Thresholds) :
    InStep V d t d' t' ⟨⟨d, t, {}⟩, {}⟩ ⟨⟨d', t', {}⟩, {}⟩ :=
  ⟨⟨{}, rfl, rfl⟩, .empty _⟩

theorem forall₂_matches_self (acts : List Action) : List.Forall₂ Action.Matches acts acts :=
  List.forall₂_same.2 fun act _ => .same act

/-- **The order of a list of modes breaks ties and does no more**, and nor does a mode that is listed again.  With another
list of the same modes a device has the same thresholds, and in every run the same rates are sent at and the same changes
told; the stations count the same, their fallbacks included.  A peer with another list of its modes is answered the same
configurations.  With another list of the same basic modes what protects a frame asks for the same threshold. -/
theorem run_relisted {model : ErrorModel} {target : Float} {r : RateControl} (hr : build d model target = .ok r) :
    (∀ ms, SameModes d.modes ms → ∃ r', build (d.relisted ms) model target = .ok r' ∧
      (∀ v, r'.selector.thresholds.lookup? v = r.selector.thresholds.lookup? v) ∧
      ∀ acts, ∃ outcomes outcomes', r.run acts = .ok outcomes ∧ r'.run acts = .ok outcomes' ∧
        List.Forall₂ (Outcome.Matches SameRate SameRate) outcomes outcomes') ∧
    (∀ acts acts', List.Forall₂ Action.Matches acts acts' →
      ∃ outcomes outcomes', r.run acts = .ok outcomes ∧ r.run acts' = .ok outcomes' ∧
        List.Forall₂ (Outcome.Matches Eq Eq) outcomes outcomes') ∧
    ∀ ms, SameModes d.basicModes ms → ∃ r', build (d.rebased ms) model target = .ok r' ∧
      ∀ acts, ∃ outcomes outcomes', r.run acts = .ok outcomes ∧ r'.run acts = .ok outcomes' ∧
        List.Forall₂ (Outcome.Matches Eq (SameThreshold r.selector.thresholds)) outcomes outcomes' := by
  obtain ⟨hfault, t, ht, rfl⟩ := build_eq_ok_iff.1 hr
  have hd := (Device.fault?_eq_none_iff d).1 hfault
  have hcovers := Thresholds.covers_of_build ht
  refine ⟨fun ms hms => ?_, fun acts acts' hacts => ?_, fun ms hms => ?_⟩
  · obtain ⟨t', ht', hlookup⟩ := Thresholds.build_relisted ht hms
    have hr' := build_eq_ok_iff.2 ⟨(Device.fault?_eq_none_iff _).2 (hd.relisted hms), t', ht', rfl⟩
    have hagrees := agrees_relisted hd hcovers hms (Thresholds.covers_of_build ht') hlookup
    exact ⟨_, hr', hlookup, fun acts => run_matches hagrees (forall₂_matches_self acts) (inStep_start ..)⟩
  · exact run_matches (agrees_self hd hcovers) hacts (inStep_start ..)
  · have hr' := build_eq_ok_iff.2 ⟨(Device.fault?_eq_none_iff _).2 (hd.rebased hms), t, ht, rfl⟩
    have hagrees := agrees_rebased hd hcovers hms (sameThreshold_self ht) (Thresholds.protect_rebased hms)
    exact ⟨_, hr', fun acts => run_matches hagrees (forall₂_matches_self acts) (inStep_start ..)⟩

/-- Two modes of the same rate and threshold change places and one is listed again, in the list of the device, in that of
the peer and in that of the basic modes: the earlier one of the list that was turned round is chosen, for data or to
protect a frame, at the same rate. -/
theorem run_relisted_turnedRound :
    let first := Catalog.slowestOfdm
    let second := Mode.ofdmRate .erpOfdm 0 6 2 .half
    let d : Device := { Device.legacy [first, second] with basicModes := [first, second] }
    let ms := [second, first, first]
    let model := ((StepCurve.empty.set first 1.0).set second 1.0).model
    let acts : Capabilities → List Action := fun peer =>
      [.register (.locallyAdministered 1) peer, .report ⟨0⟩ (.rtsAnswered 3.0 3.0), .selectData ⟨0⟩, .selectRts ⟨0⟩]
    let peer := d.toCapabilities
    let peer' : Capabilities := { peer with modes := ms }
    ∃ r r' r'', SameModes d.modes ms ∧ SameModes d.basicModes ms ∧ build d model 0.5 = .ok r ∧
      build (d.relisted ms) model 0.5 = .ok r' ∧ build (d.rebased ms) model 0.5 = .ok r'' ∧
      (∃ outcomes outcomes', r.run (acts peer) = .ok outcomes ∧ r'.run (acts peer) = .ok outcomes' ∧
        List.Forall₂ (Outcome.Matches SameRate SameRate) outcomes outcomes') ∧
      (List.Forall₂ Action.Matches (acts peer) (acts peer') ∧
        ∃ outcomes outcomes', r.run (acts peer) = .ok outcomes ∧ r.run (acts peer') = .ok outcomes' ∧
          List.Forall₂ (Outcome.Matches Eq Eq) outcomes outcomes') ∧
      (∃ outcomes outcomes', r.run (acts peer) = .ok outcomes ∧ r''.run (acts peer) = .ok outcomes' ∧
        List.Forall₂ (Outcome.Matches Eq (SameThreshold r.selector.thresholds)) outcomes outcomes') ∧
      r.selector.thresholds.choose d peer 3.0 = some (.legacy first) ∧
      r'.selector.thresholds.choose (d.relisted ms) peer 3.0 = some (.legacy second) ∧
      r.selector.thresholds.choose d peer' 3.0 = some (.legacy first) ∧
      r.selector.thresholds.protect d 3.0 = some (.legacy first) ∧
      r''.selector.thresholds.protect (d.rebased ms) 3.0 = some (.legacy second) := by
  intro first second d ms model acts peer peer'
  let t : Thresholds := ⟨[(.legacy first, 1.0), (.legacy second, 1.0)], 0.5⟩
  let t' : Thresholds := ⟨[(.legacy second, 1.0), (.legacy first, 1.0)], 0.5⟩
  have hr : build d model 0.5 = .ok ⟨⟨d, t, {}⟩, {}⟩ := rfl
  have hrelisted : build (d.relisted ms) model 0.5 = .ok ⟨⟨d.relisted ms, t', {}⟩, {}⟩ := rfl
  have hrebased : build (d.rebased ms) model 0.5 = .ok ⟨⟨d.rebased ms, t, {}⟩, {}⟩ := rfl
  have hms : SameModes [first, second] ms := by
    intro m
    show m ∈ [second, first, first] ↔ m ∈ [first, second]
    simp [or_comm]
  have hpeers : List.Forall₂ Action.Matches (acts peer) (acts peer') :=
    .cons (.register ⟨ms, hms, rfl⟩) (forall₂_matches_self _)
  obtain ⟨hdevice, hpeer, hbasic⟩ := run_relisted hr
  obtain ⟨r', hr', -, hruns'⟩ := hdevice ms hms
  cases hr'.symm.trans hrelisted
  obtain ⟨r'', hr'', hruns''⟩ := hbasic ms hms
  cases hr''.symm.trans hrebased
  have hchoose : t.choose d peer 3.0 = some (.legacy first) := by decide +kernel
  have hchoose' : t'.choose (d.relisted ms) peer 3.0 = some (.legacy second) := by decide +kernel
  have hpeer' : t.choose d peer' 3.0 = some (.legacy first) := by decide +kernel
  have hprotect : t.protect d 3.0 = some (.legacy first) := by decide +kernel
  have hprotect' : t.protect (d.rebased ms) 3.0 = some (.legacy second) := by decide +kernel
  exact ⟨_, _, _, hms, hms, hr, hr', hr'', hruns' _, ⟨hpeers, hpeer _ _ hpeers⟩, hruns'' _, hchoose, hchoose', hpeer',
    hprotect, hprotect'⟩

end RateControl
end LinkAdaptation

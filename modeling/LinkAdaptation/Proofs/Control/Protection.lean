import LinkAdaptation.Proofs.Binary64.Order
import LinkAdaptation.Proofs.Control.Choice
/-!
# What protects a frame

The basic modes may stand in any order, more than once, and several may ask for the same SNR.  What protects a frame is
the earliest one of those that ask for the most below the observed SNR (`Thresholds.MostProtective`), and nothing else
that is known of a station plays a part (`Selector.selectRts_decided`).

Numbers that cannot be compared keep the comparison of thresholds from being one by rank; the thresholds that clear an
SNR are no such numbers, so among them it is one: the comparison of their places on the line.
-/
namespace LinkAdaptation

/-! ## The first of the best that pass -/

theorem firstBest_congr {beats beats' : α → α → Bool} {l : List α} (h : ∀ a ∈ l, ∀ b ∈ l, beats a b = beats' a b) :
    firstBest beats l = firstBest beats' l := by
  induction l using List.reverseRecOn with
  | nil => rfl
  | append_singleton l c ih =>
    rw [firstBest_concat, firstBest_concat,
      ih fun a ha b hb => h a (List.mem_append_left _ ha) b (List.mem_append_left _ hb)]
    cases hl : firstBest beats' l with
    | none => rfl
    | some b =>
      dsimp only
      rw [h c (by simp) b (List.mem_append_left _ (mem_of_firstBest hl))]

/-- **The first of the best of those that pass stands among all of them so** that whoever passes before it is beaten. -/
theorem IsFirstBest.of_filter {beats : α → α → Bool} {p : α → Bool} {l : List α} {a : α}
    (h : IsFirstBest beats (l.filter p) a) :
    ∃ before after, l = before ++ a :: after ∧ p a = true ∧ (∀ b ∈ before, p b = true → beats a b = true) ∧
      ∀ b ∈ after, p b = true → beats b a = false := by
  obtain ⟨passed, rest, hl, hbefore, hafter⟩ := h
  obtain ⟨front, back, rfl, rfl, hback⟩ := List.filter_eq_append_iff.1 hl
  obtain ⟨skipped, after, rfl, hskipped, ha, rfl⟩ := List.filter_eq_cons_iff.1 hback
  refine ⟨front ++ skipped, after, by simp, ha, fun b hb hp => ?_, fun b hb hp => hafter b (List.mem_filter.2 ⟨hb, hp⟩)⟩
  rcases List.mem_append.1 hb with hb | hb
  · exact hbefore b (List.mem_filter.2 ⟨hb, hp⟩)
  · exact absurd hp (hskipped b hb)

namespace Thresholds

variable {t : Thresholds} {d : Device} {snr : Float}

/-! ## The most demanding of the basic modes -/

/-- **What protects best at an SNR**: of the modes whose thresholds lie strictly below it, one with the highest of these
thresholds, and none before it has one as high. -/
def MostProtective (t : Thresholds) (modes : List Mode) (snr : Float) (m : Mode) : Prop :=
  ∃ before after x, modes = before ++ m :: after ∧ t.lookup? (.legacy m) = some x ∧ x < snr ∧
    (∀ b ∈ before, ∀ y, t.lookup? (.legacy b) = some y → y < snr → y < x) ∧
    ∀ a ∈ after, ∀ y, t.lookup? (.legacy a) = some y → y < snr → y ≤ x

/-- The place of a threshold on the line of numbers. -/
def height (t : Thresholds) (v : TxVector) : Int :=
  ((t.lookup? v).bind Binary64.place?).getD 0

theorem height_eq {v : TxVector} {x : Float} {p : Int} (hx : t.lookup? v = some x) (hp : Binary64.place? x = some p) :
    t.height v = p := by
  rw [height, hx, Option.bind_some, hp, Option.getD_some]

theorem isHigher_eq_height {v w : TxVector} (hv : t.isBelow snr v = true) (hw : t.isBelow snr w = true) :
    t.isHigher v w = decide (t.height w < t.height v) := by
  obtain ⟨x, hx, hlt⟩ := isBelow_iff.1 hv
  obtain ⟨y, hy, hlt'⟩ := isBelow_iff.1 hw
  obtain ⟨p, hp⟩ := Binary64.exists_place (Binary64.isNaN_of_lt hlt).1
  obtain ⟨q, hq⟩ := Binary64.exists_place (Binary64.isNaN_of_lt hlt').1
  rw [height_eq hx hp, height_eq hy hq, isHigher, Candidate.isHigher, candidate, candidate, hx, hy]
  refine decide_eq_decide.2 (Iff.trans Binary64.lt_iff ?_)
  simp [hp, hq]

theorem isHigher_eq_true_iff {v w : TxVector} {x y : Float} (hx : t.lookup? v = some x) (hy : t.lookup? w = some y) :
    t.isHigher v w = true ↔ y < x := by
  rw [isHigher, Candidate.isHigher, candidate, candidate, hx, hy]
  exact decide_eq_true_iff

theorem ranks_height (t : Thresholds) : Ranks fun v w => decide (t.height w < t.height v) where
  trans := by
    intro a b c hab hbc
    simp only [decide_eq_true_eq] at *
    omega
  beats_of_not := by
    intro a b c hab hcb
    simp only [decide_eq_true_eq, decide_eq_false_iff_not] at *
    omega

/-- **What a search for protection finds is what protects best.** -/
theorem mostProtective_of_protect {v : TxVector} (h : t.protect d snr = some v) :
    ∃ m, v = .legacy m ∧ t.MostProtective d.basicModes snr m := by
  -- `isHigher` does not rank all configurations, but those that pass it compares as their places do.
  have hrank : firstBest t.isHigher ((d.basicModes.map TxVector.legacy).filter (t.isBelow snr)) =
      firstBest (fun v w => decide (t.height w < t.height v)) ((d.basicModes.map TxVector.legacy).filter (t.isBelow snr)) :=
    firstBest_congr fun v hv w hw => isHigher_eq_height (List.mem_filter.1 hv).2 (List.mem_filter.1 hw).2
  rw [protect, hrank] at h
  obtain ⟨before, after, hsplit, hbelow, hbefore, hafter⟩ := (isFirstBest_of_firstBest t.ranks_height h).of_filter
  obtain ⟨front, back, hmodes, rfl, hback⟩ := List.map_eq_append_iff.1 hsplit
  obtain ⟨m, rest, rfl, rfl, rfl⟩ := List.map_eq_cons_iff.1 hback
  obtain ⟨x, hx, hlt⟩ := isBelow_iff.1 hbelow
  refine ⟨m, rfl, front, rest, x, hmodes, hx, hlt, fun b hb y hy hyb => ?_, fun a ha y hy hya => ?_⟩
  · have hbelow' := isBelow_iff.2 ⟨y, hy, hyb⟩
    have hhigher := hbefore _ (List.mem_map_of_mem hb) hbelow'
    rw [← isHigher_eq_height hbelow hbelow'] at hhigher
    exact (isHigher_eq_true_iff hx hy).1 hhigher
  · have hbelow' := isBelow_iff.2 ⟨y, hy, hya⟩
    have hhigher := hafter _ (List.mem_map_of_mem ha) hbelow'
    rw [← isHigher_eq_height hbelow' hbelow, ← Bool.not_eq_true, isHigher_eq_true_iff hy hx] at hhigher
    exact (Binary64.lt_or_le (Binary64.isNaN_of_lt hlt).1 (Binary64.isNaN_of_lt hya).1).resolve_left hhigher

theorem MostProtective.eligible {modes : List Mode} {m : Mode} (h : t.MostProtective modes snr m) :
    m ∈ modes ∧ ∃ x, t.lookup? (.legacy m) = some x ∧ x < snr := by
  obtain ⟨before, after, x, rfl, hx, hlt, -⟩ := h
  exact ⟨by simp, x, hx, hlt⟩

theorem MostProtective.le {modes : List Mode} {m : Mode} (h : t.MostProtective modes snr m) {b : Mode} (hb : b ∈ modes)
    {y : Float} (hy : t.lookup? (.legacy b) = some y) (hlt : y < snr) : ∃ x, t.lookup? (.legacy m) = some x ∧ y ≤ x := by
  obtain ⟨before, after, x, rfl, hx, hxlt, hbefore, hafter⟩ := h
  refine ⟨x, hx, ?_⟩
  rcases List.mem_append.1 hb with hb | hb
  · exact Binary64.le_of_lt (hbefore b hb y hy hlt)
  rcases List.mem_cons.1 hb with rfl | hb
  · cases hx.symm.trans hy
    exact Binary64.le_refl (Binary64.isNaN_of_lt hlt).1
  · exact hafter b hb y hy hlt

end Thresholds

namespace Selector

variable {d : Device} {t : Thresholds} {model : ErrorModel} {target : Float}

/-- What a selection for a protective frame answers. -/
inductive Protects (t : Thresholds) (d : Device) (snr : Float) : TxVector → Prop
  /-- The earliest one of the most demanding modes below the SNR. -/
  | found {m : Mode} : t.MostProtective d.basicModes snr m → Protects t d snr (.legacy m)
  /-- No basic mode has a threshold below the SNR. -/
  | nothing : (∀ m ∈ d.basicModes, t.isBelow snr (.legacy m) = false) → Protects t d snr (.legacy d.defaultMode)

theorem protects_of_selectRts (hd : d.Faultless) (ht : t.Covers d) (observers : Observers) (st : Station) :
    ∃ v, selectRts ⟨d, t, observers⟩ st = .ok v ∧ Protects t d st.observed v := by
  refine ⟨_, selectRts_eq hd ht observers st, ?_⟩
  cases h : t.protect d st.observed with
  | none => exact .nothing (Thresholds.protect_eq_none_iff.1 h)
  | some v =>
    obtain ⟨m, rfl, hm⟩ := Thresholds.mostProtective_of_protect h
    exact .found hm

theorem Protects.exists_mode {snr : Float} {v : TxVector} (h : Protects t d snr v) {m : Mode} (hm : m ∈ d.basicModes)
    (hbelow : t.isBelow snr (.legacy m) = true) : ∃ m', v = .legacy m' ∧ t.MostProtective d.basicModes snr m' := by
  cases h with
  | found hm' => exact ⟨_, rfl, hm'⟩
  | nothing hnone =>
    rw [hnone m hm] at hbelow
    cases hbelow

theorem Protects.mono {snr snr' : Float} {v v' : TxVector} (h : Protects t d snr v) (h' : Protects t d snr' v')
    (hsnr : snr ≤ snr') {m : Mode} (hm : m ∈ d.basicModes) (hbelow : t.isBelow snr (.legacy m) = true) :
    ∃ x x', t.lookup? v = some x ∧ t.lookup? v' = some x' ∧ x ≤ x' := by
  obtain ⟨m₁, rfl, hbest⟩ := h.exists_mode hm hbelow
  obtain ⟨hmem, x, hx, hlt⟩ := hbest.eligible
  have hlt' : x < snr' := Binary64.lt_of_lt_of_le hlt hsnr
  obtain ⟨m₂, rfl, hbest'⟩ := h'.exists_mode hmem (Thresholds.isBelow_iff.2 ⟨x, hx, hlt'⟩)
  obtain ⟨x', hx', hle⟩ := hbest'.le hmem hx hlt'
  exact ⟨x, x', hx, hx', hle⟩

/-- **A selection for a protective frame is decided by the observed SNR alone**: it answers the earliest one of the most
demanding basic modes below the SNR, or the default mode if none is below it, and once there is one, a higher SNR leads
to a mode that asks for no less. -/
theorem selectRts_decided (hd : d.fault? = none) (ht : Thresholds.build d model target = .ok t) (observers : Observers)
    (st : Station) :
    (∃ v, selectRts ⟨d, t, observers⟩ st = .ok v ∧ Protects t d st.observed v) ∧
      (∀ st' : Station, st'.observed = st.observed →
        selectRts ⟨d, t, observers⟩ st' = selectRts ⟨d, t, observers⟩ st) ∧
      ∀ st' : Station, st.observed ≤ st'.observed → (∃ m ∈ d.basicModes, t.isBelow st.observed (.legacy m) = true) →
        ∃ v v' x x', selectRts ⟨d, t, observers⟩ st = .ok v ∧ selectRts ⟨d, t, observers⟩ st' = .ok v' ∧
          t.lookup? v = some x ∧ t.lookup? v' = some x' ∧ x ≤ x' := by
  have hfaultless := (Device.fault?_eq_none_iff d).1 hd
  have hcovers := Thresholds.covers_of_build ht
  obtain ⟨v, hv, hprotects⟩ := protects_of_selectRts hfaultless hcovers observers st
  refine ⟨⟨v, hv, hprotects⟩, fun st' hsame => ?_, fun st' hsnr ⟨m, hm, hbelow⟩ => ?_⟩
  · rw [selectRts_eq hfaultless hcovers, selectRts_eq hfaultless hcovers, hsame]
  · obtain ⟨v', hv', hprotects'⟩ := protects_of_selectRts hfaultless hcovers observers st'
    obtain ⟨x, x', hx, hx', hle⟩ := hprotects.mono hprotects' hsnr hm hbelow
    exact ⟨v, v', x, x', hv, hv', hx, hx', hle⟩

/-- Of two modes with the same threshold, both above a third one that is listed twice, the earlier one is answered. -/
theorem selectRts_decided_sameThreshold :
    let slow := Catalog.slowestOfdm
    let earlier := Mode.ofdmRate .ofdm 4 24 16 .half
    let later := Mode.ofdmRate .ofdm 2 12 4 .half
    let d : Device := { Device.legacy [slow, later, earlier] with basicModes := [slow, earlier, later, slow] }
    let curve := ((StepCurve.empty.set slow 1.0).set earlier 2.0).set later 2.0
    let st : Station := { Station.fresh (.locallyAdministered 1) d.toCapabilities with observed := 2.5 }
    let st' : Station := { st with observed := 4.0, cachedRate := 6000000 }
    ∃ t, d.fault? = none ∧ Thresholds.build d curve.model 0.5 = .ok t ∧ st.observed ≤ st'.observed ∧
      selectRts ⟨d, t, {}⟩ st = .ok (.legacy earlier) ∧ Protects t d st.observed (.legacy earlier) ∧
      ∃ v' x x', selectRts ⟨d, t, {}⟩ st' = .ok v' ∧ t.lookup? (.legacy earlier) = some x ∧ t.lookup? v' = some x' ∧
        x ≤ x' := by
  intro slow earlier later d curve st st'
  let t : Thresholds := ⟨[(.legacy slow, 1.0), (.legacy later, 2.0), (.legacy earlier, 2.0)], 0.5⟩
  have hd : d.fault? = none := rfl
  have ht : Thresholds.build d curve.model 0.5 = .ok t := rfl
  have hsnr : st.observed ≤ st'.observed := by decide +kernel
  have hbelow : ∃ m ∈ d.basicModes, t.isBelow st.observed (.legacy m) = true := by decide +kernel
  have hprotect : t.protect d st.observed = some (.legacy earlier) := by decide +kernel
  have hanswer : selectRts ⟨d, t, {}⟩ st = .ok (.legacy earlier) := by
    rw [selectRts_eq ((Device.fault?_eq_none_iff d).1 hd) (Thresholds.covers_of_build ht), hprotect]
    rfl
  obtain ⟨⟨v, hv, hprotects⟩, -, hmono⟩ := selectRts_decided hd ht {} st
  cases hanswer.symm.trans hv
  obtain ⟨w, v', x, x', hw, hv', hx, hx', hle⟩ := hmono st' hsnr hbelow
  cases hanswer.symm.trans hw
  exact ⟨t, hd, ht, hsnr, hanswer, hprotects, v', x, x', hv', hx, hx', hle⟩

end Selector
end LinkAdaptation

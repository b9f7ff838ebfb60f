import LinkAdaptation.Proofs.Control.Coherence
/-!
# What both ends allow

A link takes the smaller bounds and the longer guard interval of its two ends, and a width that HT and later generations
have.  So what a data selection answers keeps to what both ends advertise (`RateControl.run_allowed`), a channel of less
than 20 MHz counting as one of 20; and where the two ends have a configuration in common, the link mostly has one too
(`Selector.selectData_usable`).
-/
namespace LinkAdaptation

variable {d : Device} {t : Thresholds} {peer : Capabilities}

/-! ## Terms of one end -/

namespace Capabilities

/-- The shortest guard interval that an end puts up with. -/
def guardNs (c : Capabilities) : Generation → Nat
  | .he => c.heGuardNs
  | _ => c.htGuardNs

/-- What an end allows: it lists the mode, and the other three values keep within its bounds. -/
structure Allows (c : Capabilities) (v : TxVector) : Prop where
  mem_modes : v.mode ∈ c.modes
  streams_le : v.streams ≤ c.streams
  width_le : v.widthMHz ≤ c.widthMHz
  guard_le : c.guardNs v.mode.generation ≤ v.guardNs

/-- The same end with a channel of 20 MHz in place of a narrower one. -/
def widened (c : Capabilities) : Capabilities :=
  { c with widthMHz := max 20 c.widthMHz }

theorem htGuardNs_cases (c : Capabilities) : c.htGuardNs = shortGuardNs ∨ c.htGuardNs = longGuardNs := by
  unfold htGuardNs
  split
  · exact Or.inl rfl
  · exact Or.inr rfl

end Capabilities

/-! ## The width of a link -/

theorem operatingWidth_eq (limit : Nat) :
    operatingWidth limit = if 160 ≤ limit then 160 else if 80 ≤ limit then 80 else if 40 ≤ limit then 40 else 20 := by
  unfold operatingWidth widthsWithin mcsWidthsMHz
  by_cases h160 : 160 ≤ limit
  · simp [h160, show 80 ≤ limit by omega, show 40 ≤ limit by omega, show 20 ≤ limit by omega]
  · by_cases h80 : 80 ≤ limit
    · simp [h160, h80, show 40 ≤ limit by omega, show 20 ≤ limit by omega]
    · by_cases h40 : 40 ≤ limit
      · simp [h160, h80, h40, show 20 ≤ limit by omega]
      · by_cases h20 : 20 ≤ limit <;> simp [h160, h80, h40, h20]

theorem operatingWidth_le (limit : Nat) : operatingWidth limit ≤ max 20 limit := by
  rw [operatingWidth_eq]
  split_ifs <;> omega

theorem operatingWidth_mem_mcsWidthsMHz (limit : Nat) : operatingWidth limit ∈ mcsWidthsMHz := by
  rw [operatingWidth_eq]
  split_ifs <;> decide

/-! ## Configurations of a link -/

theorem Mode.one_le_htStreams (m : Mode) : 1 ≤ m.htStreams := by
  unfold htStreams
  split <;> omega

namespace Link

def guardNs (l : Link) : Generation → Nat
  | .he => l.heGuardNs
  | _ => l.htGuardNs

theorem guardNs_between (d : Device) (peer : Capabilities) (g : Generation) :
    (between d peer).guardNs g = max (peer.guardNs g) (d.guardNs g) := by
  cases g <;> rfl

/-- An MCS on a link, with so many streams. -/
def vector (l : Link) (m : Mode) (streams : Nat) : TxVector :=
  ⟨m, streams, l.guardNs m.generation, l.widthMHz⟩

/-- **The configurations of an MCS on a link** are those with the streams of the link, or of the index for HT. -/
theorem mem_vectors_iff {l : Link} {m : Mode} (hm : m.generation ≠ .legacy) {v : TxVector} :
    v ∈ l.vectors m ↔ ∃ n, v = l.vector m n ∧ 1 ≤ n ∧ n ≤ l.streams ∧ (m.generation = .ht → n = m.htStreams) := by
  have hht := m.one_le_htStreams
  unfold vectors vector Mode.generation at *
  cases hc : m.modulation with
  | dsss | hrDsss | erpOfdm | ofdm =>
    rw [hc] at hm
    exact absurd rfl hm
  | ht =>
    dsimp only [ModulationClass.generation, Link.guardNs]
    constructor
    · intro h
      split at h
      · exact ⟨_, List.mem_singleton.1 h, hht, ‹_›, fun _ => rfl⟩
      · cases h
    · rintro ⟨n, rfl, -, hle, hstreams⟩
      cases hstreams rfl
      rw [if_pos hle]
      exact List.mem_singleton_self _
  | vht | he =>
    dsimp only [ModulationClass.generation, Link.guardNs]
    rw [List.mem_map]
    constructor
    · rintro ⟨n, hn, rfl⟩
      obtain ⟨h1, hle⟩ := mem_streamsUpTo.1 hn
      exact ⟨n, rfl, h1, hle, fun h => by cases h⟩
    · rintro ⟨n, rfl, h1, hle, -⟩
      exact ⟨n, mem_streamsUpTo.2 ⟨h1, hle⟩, rfl⟩

end Link

namespace Device

/-- **A generation is tried only if both ends advertise it.** -/
theorem supports_of_mem_applicable {g : Generation} (hg : g ∈ d.applicable peer) :
    d.supports g = true ∧ peer.supports g = true := by
  rw [← generations_eq_applicable, generations, List.mem_append, Option.mem_toList] at hg
  rcases hg with hg | hg
  · have hshares := List.find?_some hg
    unfold shares at hshares
    exact Bool.and_eq_true_iff.1 hshares
  · cases List.mem_singleton.1 hg
    exact ⟨rfl, rfl⟩

/-- **What may be sent to a peer is allowed by both ends**, a narrower channel of the peer counting as one of 20 MHz. -/
theorem candidate_allowed (hd : d.Faultless) {g : Generation} (hg : g ≠ .legacy) {v : TxVector}
    (hv : v ∈ d.candidates peer g) : d.Allows v ∧ peer.widened.Allows v := by
  obtain ⟨-, m, hm, rfl, hpeer, hvector⟩ := mem_candidates.1 hv
  obtain ⟨n, rfl, -, hstreams, -⟩ := (Link.mem_vectors_iff hg).1 hvector
  have hstreams : n ≤ min peer.streams d.streams := hstreams
  have hwidth := operatingWidth_le (min peer.widthMHz d.widthMHz)
  have hdevice := hd.mcsWidth (hd.hasMcs hm hg)
  have hguard := Link.guardNs_between d peer m.generation
  constructor
  · refine ⟨hm, ?_, ?_, ?_⟩
    · show n ≤ d.streams
      omega
    · show operatingWidth _ ≤ d.widthMHz
      omega
    · show d.guardNs m.generation ≤ (Link.between d peer).guardNs m.generation
      omega
  · refine ⟨hpeer, ?_, ?_, ?_⟩
    · show n ≤ peer.streams
      omega
    · show operatingWidth _ ≤ max 20 peer.widthMHz
      omega
    · show peer.guardNs m.generation ≤ (Link.between d peer).guardNs m.generation
      omega

end Device

/-! ## What a run answers -/

theorem Thresholds.uncached_eq (hd : d.Faultless) (ht : t.Covers d) (peer : Capabilities) (snr : Float) :
    t.uncached d peer snr = .ok ((t.choose d peer snr).getD (.legacy d.defaultMode)) := by
  rw [uncached_of_search (search_eq hd ht peer snr)]
  cases t.choose d peer snr <;> rfl

/-- **What is chosen of a newer generation than the legacy one keeps to the terms of both ends.** -/
theorem Thresholds.choose_allowed (hd : d.Faultless) {snr : Float} {v : TxVector} (hv : t.choose d peer snr = some v)
    (hmcs : v.mode.generation ≠ .legacy) :
    d.supports v.mode.generation = true ∧ peer.supports v.mode.generation = true ∧ d.Allows v ∧ peer.widened.Allows v := by
  obtain ⟨g, hg, hbest⟩ := List.exists_of_findSome?_eq_some hv
  have hcandidate := (mem_eligible.1 (mem_of_firstBest hbest)).1
  obtain ⟨-, m, -, rfl, -, hvector⟩ := Device.mem_candidates.1 hcandidate
  cases Link.mode_of_mem_vectors hvector
  obtain ⟨hdevice, hpeer⟩ := Device.supports_of_mem_applicable hg
  exact ⟨hdevice, hpeer, Device.candidate_allowed hd hmcs hcandidate⟩

namespace RateControl

/-- **Selections stay within what both ends advertise**: after every run, an HT, VHT or HE configuration that a data
selection answers is of a generation that both ends support, of a mode that both list, and within the streams, the width
and the guard interval of both, as the peer advertised them last; only a channel of less than 20 MHz counts as one of 20. -/
theorem run_allowed {model : ErrorModel} {target : Float} {r s : RateControl} {past : List Deed}
    (hr : build d model target = .ok r) (hrun : Run r past s) {h : Handle} {l : Life} (hlife : lifeAt h past = some l) :
    ∃ o v, s.perform (.selectData h) = .ok o ∧ o.answer = .vector (some v) ∧
      (v.mode.generation ≠ .legacy →
        d.supports v.mode.generation = true ∧ l.capabilities.supports v.mode.generation = true ∧ d.Allows v ∧
          l.capabilities.widened.Allows v) := by
  obtain ⟨hfault, t, ht, rfl⟩ := build_eq_ok_iff.1 hr
  have hd := (Device.fault?_eq_none_iff d).1 hfault
  have hcovers := Thresholds.covers_of_build ht
  obtain ⟨observers, hselector⟩ := hrun.lives.1.selector
  obtain ⟨st, hst, hl⟩ := hrun.exists_station hlife
  obtain ⟨chosen, hchosen, huncached⟩ := Selector.selectData_eq_uncached hd hcovers observers hl.current
  refine ⟨_, chosen.vector, selectData_of_get? hst (by rw [hselector]; exact hchosen), rfl, fun hmcs => ?_⟩
  -- a fallback is a legacy configuration, so the answer was chosen
  rw [Thresholds.uncached_eq hd hcovers] at huncached
  have hanswer := Except.ok.inj huncached
  rw [← hl.capabilities]
  cases hchoose : t.choose d st.capabilities st.observed with
  | none =>
    rw [hchoose] at hanswer
    rw [← hanswer] at hmcs
    exact absurd (Device.listsLegacy_iff.1 hd.defaultMode).1 hmcs
  | some v =>
    rw [hchoose] at hanswer
    cases hanswer
    exact Thresholds.choose_allowed hd hchoose hmcs

/-- A peer that counts as one of 20 MHz, and is sent to with an HE configuration. -/
theorem run_allowed_narrowPeer :
    let d : Device := { Device.legacy [Catalog.slowestDsss, Mode.mcs .he 0] with he := true, widthMHz := 20 }
    let model := ((StepCurve.empty.set Catalog.slowestDsss 2.0).set (Mode.mcs .he 0) 3.0).model
    ∃ r s past l, build d model 0.5 = .ok r ∧ Run r past s ∧ lifeAt ⟨0⟩ past = some l ∧ l.capabilities.widthMHz = 10 ∧
      ∃ o v, s.perform (.selectData ⟨0⟩) = .ok o ∧ o.answer = .vector (some v) ∧
        (v.mode.generation ≠ .legacy →
          d.supports v.mode.generation = true ∧ l.capabilities.supports v.mode.generation = true ∧ d.Allows v ∧
            l.capabilities.widened.Allows v) := by
  intro d model
  obtain ⟨t, ht⟩ : ∃ t, Thresholds.build d model 0.5 = .ok t := ⟨_, rfl⟩
  let r : RateControl := ⟨⟨d, t, {}⟩, {}⟩
  have hr : build d model 0.5 = .ok r := build_eq_ok_iff.2 ⟨rfl, _, ht, rfl⟩
  have hregistered := Run.step (r := r)
    (a := .register (.locallyAdministered 1) { d.toCapabilities with widthMHz := 10 }) .start rfl
  have hrun := hregistered.step (a := .report ⟨0⟩ (.rtsAnswered 4.0 4.0)) rfl
  exact ⟨r, _, _, _, hr, hrun, rfl, rfl, run_allowed hr hrun (h := ⟨0⟩) rfl⟩

/-- **A peer that advertises 10 MHz is sent to at 20 MHz.** -/
theorem run_exceeds_narrowPeer :
    let d : Device := { Device.legacy [Catalog.slowestDsss, Mode.mcs .he 0] with he := true, widthMHz := 20 }
    let model := ((StepCurve.empty.set Catalog.slowestDsss 2.0).set (Mode.mcs .he 0) 3.0).model
    ∃ r s past l o v, build d model 0.5 = .ok r ∧ Run r past s ∧ lifeAt ⟨0⟩ past = some l ∧
      s.perform (.selectData ⟨0⟩) = .ok o ∧ o.answer = .vector (some v) ∧ v.mode.generation = .he ∧
      l.capabilities.widthMHz = 10 ∧ v.widthMHz = 20 := by
  intro d model
  let w : TxVector := ⟨Mode.mcs .he 0, 1, 800, 20⟩
  let t : Thresholds := ⟨[(.legacy Catalog.slowestDsss, 2.0), (w, 3.0)], 0.5⟩
  let r : RateControl := ⟨⟨d, t, {}⟩, {}⟩
  let c : Capabilities := { d.toCapabilities with widthMHz := 10 }
  have ht : Thresholds.build d model 0.5 = .ok t := rfl
  have hr : build d model 0.5 = .ok r := build_eq_ok_iff.2 ⟨rfl, _, ht, rfl⟩
  have hregistered := Run.step (r := r) (a := .register (.locallyAdministered 1) c) .start rfl
  have hrun := hregistered.step (a := .report ⟨0⟩ (.rtsAnswered 4.0 4.0)) rfl
  let st : Station := { Station.fresh (.locallyAdministered 1) c with observed := 4.0, counters := { snrUpdates := 1 } }
  have hchoose : t.choose d st.capabilities st.observed = some w := by decide +kernel
  have hreusable : st.reusable? = none := rfl
  have hchosen := Selector.selectData_of_search ((Device.fault?_eq_none_iff d).1 rfl) (Thresholds.covers_of_build ht) {}
    hreusable
  rw [hchoose] at hchosen
  dsimp only at hchosen
  rw [Selector.adopt_eq] at hchosen
  exact ⟨r, _, _, _, _, w, hr, hrun, rfl, selectData_of_get? (h := ⟨0⟩) rfl hchosen, rfl, rfl, rfl, rfl⟩

end RateControl

/-! ## A generation that can be used -/

namespace TxVector

theorem isPermitted_ht_iff (v : TxVector) (hv : v.mode.generation = .ht) :
    v.isPermitted = true ↔ (v.widthMHz = 20 ∨ v.widthMHz = 40) ∧
      (v.guardNs = shortGuardNs ∨ v.guardNs = longGuardNs) ∧ v.mode.index < 32 ∧ v.streams = v.mode.htStreams := by
  unfold Mode.generation at hv
  unfold isPermitted
  cases hc : v.mode.modulation <;> rw [hc] at hv <;> cases hv
  simp only [Bool.and_eq_true, Bool.or_eq_true, decide_eq_true_eq, and_assoc]

theorem isPermitted_vht_iff (v : TxVector) (hv : v.mode.generation = .vht) :
    v.isPermitted = true ↔ v.widthMHz ∈ mcsWidthsMHz ∧ (v.guardNs = shortGuardNs ∨ v.guardNs = longGuardNs) ∧
      (1 ≤ v.streams ∧ v.streams ≤ 8) ∧ v.mode.index < 10 ∧ isExcludedVht v.mode.index v.streams v.widthMHz = false := by
  unfold Mode.generation at hv
  unfold isPermitted
  cases hc : v.mode.modulation <;> rw [hc] at hv <;> cases hv
  simp only [Bool.and_eq_true, Bool.or_eq_true, decide_eq_true_eq, Bool.not_eq_true', and_assoc]

theorem isPermitted_he_iff (v : TxVector) (hv : v.mode.generation = .he) :
    v.isPermitted = true ↔ v.widthMHz ∈ mcsWidthsMHz ∧ v.guardNs ∈ heGuardsNs ∧ (1 ≤ v.streams ∧ v.streams ≤ 8) ∧
      v.mode.index < 12 := by
  unfold Mode.generation at hv
  unfold isPermitted
  cases hc : v.mode.modulation <;> rw [hc] at hv <;> cases hv
  simp only [Bool.and_eq_true, decide_eq_true_eq, and_assoc]

/-- One stream is excluded at no width but 20 MHz. -/
theorem isExcludedVht_one (index : Nat) {widthMHz : Nat} (h : widthMHz ≠ 20) : isExcludedVht index 1 widthMHz = false := by
  unfold isExcludedVht
  split
  · exact absurd rfl h
  · rfl
  · rfl
  · rfl

end TxVector

namespace Link

/-- A width that there is for MCSes, and a guard interval that there is for HT and VHT. -/
structure Regular (l : Link) : Prop where
  width_mem : l.widthMHz ∈ mcsWidthsMHz
  htGuard : l.htGuardNs = shortGuardNs ∨ l.htGuardNs = longGuardNs

theorem regular_between (d : Device) (peer : Capabilities) : (between d peer).Regular where
  width_mem := operatingWidth_mem_mcsWidthsMHz _
  htGuard := by
    show max peer.htGuardNs d.htGuardNs = _ ∨ max peer.htGuardNs d.htGuardNs = _
    rcases peer.htGuardNs_cases with hp | hp <;> rcases d.htGuardNs_cases with hd | hd <;> rw [hp, hd] <;> decide

section Regular

variable {l : Link} {m : Mode}

theorem isPermitted_vector_ht (hl : l.Regular) (hg : m.generation = .ht) (hwidth : l.widthMHz ≤ 40) (hindex : m.index < 32) :
    (l.vector m m.htStreams).isPermitted = true := by
  refine ((l.vector m m.htStreams).isPermitted_ht_iff hg).2 ⟨?_, ?_, hindex, rfl⟩
  · have hmem := hl.width_mem
    simp only [mcsWidthsMHz, List.mem_cons, List.not_mem_nil, or_false] at hmem
    show l.widthMHz = 20 ∨ l.widthMHz = 40
    omega
  · show l.guardNs m.generation = _ ∨ l.guardNs m.generation = _
    rw [hg]
    exact hl.htGuard

theorem isPermitted_vector_vht (hl : l.Regular) (hg : m.generation = .vht) {n : Nat} (hn : 1 ≤ n ∧ n ≤ 8)
    (hindex : m.index < 10) (hallowed : TxVector.isExcludedVht m.index n l.widthMHz = false) :
    (l.vector m n).isPermitted = true := by
  refine ((l.vector m n).isPermitted_vht_iff hg).2 ⟨hl.width_mem, ?_, hn, hindex, hallowed⟩
  show l.guardNs m.generation = _ ∨ l.guardNs m.generation = _
  rw [hg]
  exact hl.htGuard

theorem isPermitted_vector_he (hl : l.Regular) (hg : m.generation = .he) {n : Nat} (hn : 1 ≤ n ∧ n ≤ 8)
    (hindex : m.index < 12) (hguard : l.heGuardNs ∈ heGuardsNs) : (l.vector m n).isPermitted = true := by
  refine ((l.vector m n).isPermitted_he_iff hg).2 ⟨hl.width_mem, ?_, hn, hindex⟩
  show l.guardNs m.generation ∈ heGuardsNs
  rw [hg]
  exact hguard

end Regular

/-- What a link has to offer for a generation to be of use: HT stops at 40 MHz, HE has three guard intervals. -/
structure Suits (l : Link) (g : Generation) : Prop where
  htWidth : g = .ht → l.widthMHz ≤ 40
  heGuard : g = .he → l.heGuardNs ∈ heGuardsNs

theorem suits_between_iff (d : Device) (peer : Capabilities) (g : Generation) :
    (between d peer).Suits g ↔
      (g = .ht → min d.widthMHz peer.widthMHz < 80) ∧ (g = .he → max d.heGuardNs peer.heGuardNs ∈ heGuardsNs) := by
  have hwidth : (between d peer).widthMHz ≤ 40 ↔ min d.widthMHz peer.widthMHz < 80 := by
    show operatingWidth (min peer.widthMHz d.widthMHz) ≤ 40 ↔ _
    rw [operatingWidth_eq]
    split_ifs <;> omega
  have hguard : (between d peer).heGuardNs = max d.heGuardNs peer.heGuardNs := Nat.max_comm _ _
  rw [← hwidth, ← hguard]
  exact ⟨fun h => ⟨h.htWidth, h.heGuard⟩, fun h => ⟨h.1, h.2⟩⟩

/-- **A link that does not suit a generation leaves nothing of it to send**: no HT from 80 MHz on, no HE at a guard
interval that is not one of the three. -/
theorem candidates_of_not_suits {g : Generation} (h : ¬ (between d peer).Suits g) : d.candidates peer g = [] := by
  refine List.eq_nil_iff_forall_not_mem.2 fun v hv => h ?_
  obtain ⟨hpermitted, m, -, rfl, -, hvector⟩ := Device.mem_candidates.1 hv
  have hmcs : ∀ g, g ≠ .legacy → m.generation = g → ∃ n, v = (between d peer).vector m n := fun g hg hm => by
    obtain ⟨n, hn, -⟩ := (mem_vectors_iff (hm ▸ hg)).1 hvector
    exact ⟨n, hn⟩
  constructor
  · intro hht
    obtain ⟨n, rfl⟩ := hmcs .ht (by decide) hht
    have hwidth : (between d peer).widthMHz = 20 ∨ (between d peer).widthMHz = 40 :=
      ((TxVector.isPermitted_ht_iff _ hht).1 hpermitted).1
    omega
  · intro hhe
    obtain ⟨n, rfl⟩ := hmcs .he (by decide) hhe
    have hguard : (between d peer).guardNs m.generation ∈ heGuardsNs :=
      ((TxVector.isPermitted_he_iff _ hhe).1 hpermitted).2.1
    rw [hhe] at hguard
    exact hguard

variable {v : TxVector}

/-- **At 20 MHz the link is as wide as all that both ends allow.** -/
theorem width_eq_of_allowed (hdevice : d.Allows v) (hpeer : peer.Allows v) (hv : v.widthMHz ∈ mcsWidthsMHz)
    (h20 : (between d peer).widthMHz = 20) : v.widthMHz = (between d peer).widthMHz := by
  have hlimit : v.widthMHz ≤ min peer.widthMHz d.widthMHz := Nat.le_min.2 ⟨hpeer.width_le, hdevice.width_le⟩
  have hwidth : (between d peer).widthMHz = operatingWidth (min peer.widthMHz d.widthMHz) := rfl
  rw [operatingWidth_eq] at hwidth
  simp only [mcsWidthsMHz, List.mem_cons, List.not_mem_nil, or_false] at hv
  split_ifs at hwidth <;> omega

/-- **Where both ends allow a configuration, the link has one of the same mode**, if it suits the generation. -/
theorem exists_permitted (hdevice : d.Allows v) (hpeer : peer.Allows v) (hpermitted : v.isPermitted = true)
    (hmcs : v.mode.generation ≠ .legacy) (hsuits : (between d peer).Suits v.mode.generation) :
    ∃ w ∈ (between d peer).vectors v.mode, w.isPermitted = true := by
  have hl := regular_between d peer
  have hstreams : v.streams ≤ (between d peer).streams := Nat.le_min.2 ⟨hpeer.streams_le, hdevice.streams_le⟩
  have hvector : ∀ n, 1 ≤ n → n ≤ (between d peer).streams → (v.mode.generation = .ht → n = v.mode.htStreams) →
      ((between d peer).vector v.mode n).isPermitted = true →
      ∃ w ∈ (between d peer).vectors v.mode, w.isPermitted = true := fun n h1 hle hht hn =>
    ⟨_, (mem_vectors_iff hmcs).2 ⟨n, rfl, h1, hle, hht⟩, hn⟩
  cases hg : v.mode.generation with
  | legacy => exact absurd hg hmcs
  | ht =>
    obtain ⟨-, -, hindex, hht⟩ := (v.isPermitted_ht_iff hg).1 hpermitted
    exact hvector _ v.mode.one_le_htStreams (hht ▸ hstreams) (fun _ => rfl)
      (isPermitted_vector_ht hl hg (hsuits.htWidth hg) hindex)
  | vht =>
    obtain ⟨hv, -, hcount, hindex, hallowed⟩ := (v.isPermitted_vht_iff hg).1 hpermitted
    have hht : ∀ n, v.mode.generation = .ht → n = v.mode.htStreams := fun n h => by rw [hg] at h; cases h
    -- the exclusions hang on the width: at 20 MHz the common configuration itself has it, above one stream will do
    by_cases h20 : (between d peer).widthMHz = 20
    · have hsame := width_eq_of_allowed hdevice hpeer hv h20
      exact hvector v.streams hcount.1 hstreams (hht _) (isPermitted_vector_vht hl hg hcount hindex (hsame ▸ hallowed))
    · exact hvector 1 (Nat.le_refl 1) (Nat.le_trans hcount.1 hstreams) (hht 1)
        (isPermitted_vector_vht hl hg (by omega) hindex (TxVector.isExcludedVht_one _ h20))
  | he =>
    obtain ⟨-, -, hcount, hindex⟩ := (v.isPermitted_he_iff hg).1 hpermitted
    exact hvector v.streams hcount.1 hstreams (fun h => by rw [hg] at h; cases h)
      (isPermitted_vector_he hl hg hcount hindex (hsuits.heGuard hg))

end Link

/-- A configuration of the newest generation in common that both ends allow. -/
structure Offered (d : Device) (peer : Capabilities) (g : Generation) (v : TxVector) : Prop where
  applicable : d.applicable peer = [g, .legacy]
  isPermitted : v.isPermitted = true
  generation : v.mode.generation = g
  device : d.Allows v
  peer : peer.Allows v

namespace Offered

variable {g : Generation} {v : TxVector}

theorem mcs (h : Offered d peer g v) : g ≠ .legacy := by
  have happlicable := h.applicable
  rintro rfl
  unfold Device.applicable at happlicable
  split_ifs at happlicable <;> cases happlicable

theorem exists_candidate (h : Offered d peer g v) (hsuits : (Link.between d peer).Suits g) :
    ∃ w, w ∈ d.candidates peer g := by
  have hmcs := h.mcs
  obtain ⟨-, hpermitted, rfl, hdevice, hpeer⟩ := h
  obtain ⟨w, hw, hpermitted⟩ := Link.exists_permitted hdevice hpeer hpermitted hmcs hsuits
  exact ⟨w, Device.mem_candidates.2 ⟨hpermitted, v.mode, hdevice.mem_modes, rfl, hpeer.mem_modes, hw⟩⟩

/-- **There is something of the newest generation in common to send** exactly if an HT link is narrower than 80 MHz and an
HE link has one of the three guard intervals. -/
theorem candidates_ne_nil_iff (h : Offered d peer g v) :
    d.candidates peer g ≠ [] ↔
      (g = .ht → min d.widthMHz peer.widthMHz < 80) ∧ (g = .he → max d.heGuardNs peer.heGuardNs ∈ heGuardsNs) := by
  rw [← Link.suits_between_iff]
  constructor
  · intro hcandidates
    by_contra hsuits
    exact hcandidates (Link.candidates_of_not_suits hsuits)
  · intro hsuits
    obtain ⟨w, hw⟩ := h.exists_candidate hsuits
    exact List.ne_nil_of_mem hw

end Offered

namespace Thresholds

theorem exists_entry {v : TxVector} {snr : Float} (h : t.lookup? v = some snr) : ∃ e ∈ t.entries, e.2 = snr := by
  obtain ⟨e, he, rfl⟩ := Option.map_eq_some_iff.1 h
  exact ⟨e, List.mem_of_find?_eq_some he, rfl⟩

/-- **Above all thresholds every candidate is eligible.** -/
theorem isBelow_of_above {snr : Float} (habove : ∀ e ∈ t.entries, e.2 < snr) {v : TxVector}
    (hv : (t.lookup? v).isSome = true) : t.isBelow snr v = true := by
  obtain ⟨x, hx⟩ := Option.isSome_iff_exists.1 hv
  obtain ⟨e, he, rfl⟩ := exists_entry hx
  exact isBelow_iff.2 ⟨_, hx, habove e he⟩

theorem generation_of_mem_eligible {snr : Float} {g : Generation} {v : TxVector} (hv : v ∈ t.eligible d peer snr g) :
    v.mode.generation = g := by
  obtain ⟨-, m, -, rfl, -, hvector⟩ := Device.mem_candidates.1 (mem_eligible.1 hv).1
  rw [Link.mode_of_mem_vectors hvector]

/-- **The first generation that has a candidate above its threshold is the one that is chosen of.** -/
theorem choose_of_eligible {snr : Float} {g : Generation} {later : List Generation}
    (happlicable : d.applicable peer = g :: later) {w : TxVector} (hw : w ∈ t.eligible d peer snr g) :
    ∃ v, t.choose d peer snr = some v ∧ v.mode.generation = g := by
  rw [choose, happlicable, List.findSome?_cons]
  cases hbest : firstBest isFaster (t.eligible d peer snr g) with
  | none =>
    rw [firstBest_eq_none_iff.1 hbest] at hw
    cases hw
  | some v => exact ⟨v, rfl, generation_of_mem_eligible (mem_of_firstBest hbest)⟩

end Thresholds

namespace Selector

/-- **A generation that applies is of use**: above all thresholds, a search answers a configuration of the newest
generation in common, not a legacy one, if the two ends have one in common that can be put on air; provided that an HT
link is narrower than 80 MHz and the longer one of two HE guard intervals is one of the three that there are. -/
theorem selectData_usable {model : ErrorModel} {target : Float} (hd : d.fault? = none)
    (ht : Thresholds.build d model target = .ok t) (observers : Observers) {st : Station} (hst : st.isCacheValid = false)
    (habove : ∀ e ∈ t.entries, e.2 < st.observed) {g : Generation} {v : TxVector} (hv : Offered d st.capabilities g v)
    (hwidth : g = .ht → min d.widthMHz st.capabilities.widthMHz < 80)
    (hguard : g = .he → max d.heGuardNs st.capabilities.heGuardNs ∈ heGuardsNs) :
    ∃ chosen, selectData ⟨d, t, observers⟩ st = .ok chosen ∧ chosen.vector.mode.generation = g ∧ g ≠ .legacy ∧
      chosen.vector ≠ .legacy d.defaultMode := by
  have hfaultless := (Device.fault?_eq_none_iff d).1 hd
  have hcovers := Thresholds.covers_of_build ht
  obtain ⟨w, hw⟩ := hv.exists_candidate ((Link.suits_between_iff d _ g).2 ⟨hwidth, hguard⟩)
  have heligible := Thresholds.mem_eligible.2 ⟨hw, Thresholds.isBelow_of_above habove (hcovers.candidate hfaultless hw)⟩
  obtain ⟨u, hu, hgeneration⟩ := Thresholds.choose_of_eligible hv.applicable heligible
  refine ⟨_, selectData_of_choose hfaultless hcovers observers (Station.reusable?_eq_none_iff.2 hst) hu, ?_⟩
  rw [adopt_vector]
  refine ⟨hgeneration, hv.mcs, fun hdefault => hv.mcs ?_⟩
  rw [← hgeneration, show u = .legacy d.defaultMode from hdefault]
  exact (Device.listsLegacy_iff.1 hfaultless.defaultMode).1

/-- Two ends that both allow VHT MCS 9 at 40 MHz and get it at 80 MHz. -/
theorem selectData_usable_widerLink :
    let d : Device := { Device.legacy [Catalog.slowestDsss, Mode.mcs .vht 9] with vht := true, widthMHz := 80 }
    let model := ((StepCurve.empty.set Catalog.slowestDsss 2.0).set (Mode.mcs .vht 9) 3.0).model
    let peer : Capabilities := { d.toCapabilities with widthMHz := 300, shortGuard := true }
    let st : Station := { Station.fresh (.locallyAdministered 1) peer with observed := 4.0 }
    let v : TxVector := ⟨Mode.mcs .vht 9, 1, 800, 40⟩
    ∃ t, d.fault? = none ∧ Thresholds.build d model 0.5 = .ok t ∧ st.isCacheValid = false ∧
      (∀ e ∈ t.entries, e.2 < st.observed) ∧ Offered d peer .vht v ∧
      ∃ chosen, selectData ⟨d, t, {}⟩ st = .ok chosen ∧ chosen.vector.mode.generation = .vht ∧
        Generation.vht ≠ .legacy ∧ chosen.vector ≠ .legacy d.defaultMode := by
  intro d model peer st v
  let t : Thresholds := ⟨(distinctKeys d.vectors).map fun v => (v, if v.mode.generation = .legacy then 2.0 else 3.0), 0.5⟩
  have ht : Thresholds.build d model 0.5 = .ok t := rfl
  have habove : ∀ e ∈ t.entries, e.2 < st.observed := by decide +kernel
  have hv : Offered d peer .vht v :=
    ⟨rfl, by decide +kernel, rfl, ⟨by decide +kernel, by decide, by decide, by decide⟩,
      ⟨by decide +kernel, by decide, by decide, by decide⟩⟩
  exact ⟨t, rfl, ht, rfl, habove, hv, selectData_usable rfl ht {} rfl habove hv (by decide) (by decide)⟩

/-- **A generation that applies may be of no use**: two ends with HT and 80 MHz channels, and two ends with HE of which
one asks for a guard interval of 1000 ns, are left with the legacy rates although they have more in common. -/
theorem selectData_unusable :
    let curve := StepCurve.empty.set Catalog.slowestDsss 2.0
    (let d : Device := { Device.legacy [Catalog.slowestDsss, Mode.mcs .ht 0] with ht := true, widthMHz := 80 }
      let st : Station := { Station.fresh (.locallyAdministered 1) d.toCapabilities with observed := 4.0 }
      ∃ t chosen, d.fault? = none ∧ Thresholds.build d (curve.set (Mode.mcs .ht 0) 3.0).model 0.5 = .ok t ∧
        st.isCacheValid = false ∧ (∀ e ∈ t.entries, e.2 < st.observed) ∧
        Offered d st.capabilities .ht ⟨Mode.mcs .ht 0, 1, 800, 40⟩ ∧ selectData ⟨d, t, {}⟩ st = .ok chosen ∧
        chosen.vector.mode.generation = .legacy) ∧
    (let d : Device := { Device.legacy [Catalog.slowestDsss, Mode.mcs .he 0] with he := true }
      let peer : Capabilities := { d.toCapabilities with heGuardNs := 1000 }
      let st : Station := { Station.fresh (.locallyAdministered 1) peer with observed := 4.0 }
      ∃ t chosen, d.fault? = none ∧ Thresholds.build d (curve.set (Mode.mcs .he 0) 3.0).model 0.5 = .ok t ∧
        st.isCacheValid = false ∧ (∀ e ∈ t.entries, e.2 < st.observed) ∧
        Offered d st.capabilities .he ⟨Mode.mcs .he 0, 1, 1600, 20⟩ ∧ selectData ⟨d, t, {}⟩ st = .ok chosen ∧
        chosen.vector.mode.generation = .legacy) := by
  intro curve
  constructor
  · intro d st
    let t : Thresholds :=
      ⟨(distinctKeys d.vectors).map fun v => (v, if v.mode.generation = .legacy then 2.0 else 3.0), 0.5⟩
    have ht : Thresholds.build d (curve.set (Mode.mcs .ht 0) 3.0).model 0.5 = .ok t := rfl
    have habove : ∀ e ∈ t.entries, e.2 < st.observed := by decide +kernel
    have hallows : d.Allows ⟨Mode.mcs .ht 0, 1, 800, 40⟩ := ⟨by decide +kernel, by decide, by decide, by decide⟩
    have hchoose : t.choose d st.capabilities st.observed = some (.legacy Catalog.slowestDsss) := by decide +kernel
    have hchosen := selectData_of_choose ((Device.fault?_eq_none_iff d).1 rfl) (Thresholds.covers_of_build ht) {} rfl hchoose
    exact ⟨t, _, rfl, ht, rfl, habove, ⟨rfl, by decide +kernel, rfl, hallows, hallows⟩, hchosen,
      by rw [adopt_vector]; rfl⟩
  · intro d peer st
    let t : Thresholds :=
      ⟨(distinctKeys d.vectors).map fun v => (v, if v.mode.generation = .legacy then 2.0 else 3.0), 0.5⟩
    have ht : Thresholds.build d (curve.set (Mode.mcs .he 0) 3.0).model 0.5 = .ok t := rfl
    have habove : ∀ e ∈ t.entries, e.2 < st.observed := by decide +kernel
    have hdevice : d.Allows ⟨Mode.mcs .he 0, 1, 1600, 20⟩ := ⟨by decide +kernel, by decide, by decide, by decide⟩
    have hpeer : peer.Allows ⟨Mode.mcs .he 0, 1, 1600, 20⟩ := ⟨by decide +kernel, by decide, by decide, by decide⟩
    have hchoose : t.choose d st.capabilities st.observed = some (.legacy Catalog.slowestDsss) := by decide +kernel
    have hchosen := selectData_of_choose ((Device.fault?_eq_none_iff d).1 rfl) (Thresholds.covers_of_build ht) {} rfl hchoose
    exact ⟨t, _, rfl, ht, rfl, habove, ⟨rfl, by decide +kernel, rfl, hdevice, hpeer⟩, hchosen,
      by rw [adopt_vector]; rfl⟩

end Selector
end LinkAdaptation

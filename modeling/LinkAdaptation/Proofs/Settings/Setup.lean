import LinkAdaptation.Proofs.Control.Passage
import LinkAdaptation.Proofs.Radio.Faults
import LinkAdaptation.Proofs.Settings.Resolution
/-!
# Rate control for settings

The device of resolved settings is that of a standard, which has no fault, with some fields replaced.  So what can still be
wrong with it lies in these fields (`Settings.misfits`); with a model that has a threshold for every configuration, rate
control is set up unless one of them is wrong (`RateControl.ofSettings_decided`).
-/
namespace LinkAdaptation

open Attempt (failure? failure?_bind failure?_eq_none_iff failure?_eq_some_iff unmet unmet_eq_none_iff
  unmet_eq_some_iff unmet_congr)

/-! ## The devices of standards -/

namespace Standard

theorem faultless_device (s : Standard) : s.device.Faultless := by
  rw [← Device.fault?_eq_none_iff]
  cases s <;> decide

theorem hasMcs_device (s : Standard) : s.device.hasMcs = true ↔ s ∉ [.a, .b, .g] := by
  cases s <;> decide

theorem he_device (s : Standard) : s.device.he = true ↔ s ∈ [.axLowBand, .axHighBand] := by
  cases s <;> decide

end Standard

/-- What holds of all that a field names, and of what is there, holds of what replaces it. -/
theorem Replaces.of_present {names : α → β → Prop} {present b : β} {field : Option α} {p : β → Prop}
    (h : Replaces names present field b) (hpresent : p present) (hnames : ∀ a b, names a b → p b) : p b := by
  cases h with
  | absent => exact hpresent
  | given hb => exact hnames _ _ hb

namespace RadioSection.Overrides

variable {r : RadioSection} {preset d : Device}

theorem supports (h : r.Overrides preset d) (g : Generation) : d.supports g = preset.supports g := by
  cases g with
  | legacy => rfl
  | ht => exact h.ht
  | vht => exact h.vht
  | he => exact h.he

theorem hasMcs (h : r.Overrides preset d) : d.hasMcs = preset.hasMcs := by
  rw [Capabilities.hasMcs, h.ht, h.vht, h.he, Capabilities.hasMcs]

/-- The default mode is legacy, in a preset and in a file. -/
theorem legacy_defaultMode (h : r.Overrides preset d) (hpreset : preset.Faultless) : d.defaultMode.generation = .legacy :=
  h.defaultMode.of_present (Device.listsLegacy_iff.1 hpreset.defaultMode).1 fun _ _ hm => hm.legacy

theorem legacy_basicModes (h : r.Overrides preset d) (hpreset : preset.Faultless) :
    ∀ m ∈ d.basicModes, m.generation = .legacy := by
  refine h.basicModes.of_present (p := fun ms => ∀ m ∈ ms, m.generation = .legacy)
    (fun m hm => (Device.listsLegacy_iff.1 (hpreset.basicModes m hm)).1) fun names ms hms => ?_
  induction hms with
  | nil => simp
  | cons hm _ ih => exact List.forall_mem_cons.2 ⟨hm.legacy, ih⟩

end RadioSection.Overrides

/-! ## What can be wrong with settings -/

namespace Settings

variable {f : SettingsFile} {s : Settings}

/-- **All that is wrong with resolved settings**, in the order in which it is looked at. -/
def misfits (s : Settings) : List SetupFault :=
  (unmet (s.device.defaultMode ∈ s.standard.modes) (SetupFault.invalidDefaultMode s.device.defaultMode)).toList ++
    (s.device.basicModes.filter (· ∉ s.standard.modes)).map .invalidBasicMode ++
    (unmet (1 ≤ s.device.widthMHz ∧ (s.standard ∉ [.a, .b, .g] → 20 ≤ s.device.widthMHz))
      (SetupFault.invalidWidth s.device.widthMHz)).toList ++
    (unmet (1 ≤ s.device.streams ∧ s.device.streams ≤ 8) (SetupFault.invalidStreams s.device.streams)).toList ++
    (unmet (s.standard ∈ [.axLowBand, .axHighBand] → s.device.heGuardNs ∈ [800, 1600, 3200])
      (SetupFault.invalidHeGuard s.device.heGuardNs)).toList

/-- What resolved settings have to keep to, for rate control to be set up. -/
structure Fits (s : Settings) : Prop where
  defaultMode : s.device.defaultMode ∈ s.standard.modes
  basicModes : ∀ m ∈ s.device.basicModes, m ∈ s.standard.modes
  width : 1 ≤ s.device.widthMHz
  mcsWidth : s.standard ∉ [.a, .b, .g] → 20 ≤ s.device.widthMHz
  streams : 1 ≤ s.device.streams ∧ s.device.streams ≤ 8
  heGuard : s.standard ∈ [.axLowBand, .axHighBand] → s.device.heGuardNs ∈ [800, 1600, 3200]

theorem misfits_eq_nil_iff : s.misfits = [] ↔ s.Fits := by
  simp only [misfits, List.append_eq_nil_iff, Option.toList_eq_nil_iff, unmet_eq_none_iff, List.map_eq_nil_iff,
    List.filter_eq_nil_iff, decide_eq_true_eq, not_not]
  constructor
  · rintro ⟨⟨⟨⟨hdefault, hbasic⟩, hwidth⟩, hstreams⟩, hguard⟩
    exact ⟨hdefault, hbasic, hwidth.1, hwidth.2, hstreams, hguard⟩
  · rintro ⟨hdefault, hbasic, hpos, hwidth, hstreams, hguard⟩
    exact ⟨⟨⟨⟨hdefault, hbasic⟩, hpos, hwidth⟩, hstreams⟩, hguard⟩

theorem misfit_cases {fault : SetupFault} (h : fault ∈ s.misfits) : fault = .invalidDefaultMode s.device.defaultMode ∨
    (∃ m ∈ s.device.basicModes, fault = .invalidBasicMode m) ∨ fault = .invalidWidth s.device.widthMHz ∨
    fault = .invalidStreams s.device.streams ∨ fault = .invalidHeGuard s.device.heGuardNs := by
  simp only [misfits, List.mem_append, Option.mem_toList, unmet_eq_some_iff, List.mem_map, List.mem_filter] at h
  obtain (((⟨-, h⟩ | ⟨m, ⟨hm, -⟩, h⟩) | ⟨-, h⟩) | ⟨-, h⟩) | ⟨-, h⟩ := h
  · exact .inl h.symm
  · exact .inr (.inl ⟨m, hm, h.symm⟩)
  · exact .inr (.inr (.inl h.symm))
  · exact .inr (.inr (.inr (.inl h.symm)))
  · exact .inr (.inr (.inr (.inr h.symm)))

/-- **The faults of the device are those of its replaced fields**; the catalog is the standard's. -/
theorem faults_device (hs : f.ResolvesTo s) : s.device.faults = s.misfits := by
  have hd := hs.device
  have hpreset := s.standard.faultless_device
  have hmodes : s.device.modes = s.standard.modes := hd.modes
  have hlists : ∀ m : Mode, m.generation = .legacy → (s.device.listsLegacy m = true ↔ m ∈ s.standard.modes) := by
    intro m hm
    rw [Device.listsLegacy_iff, hmodes]
    exact and_iff_right hm
  have hbasic : s.device.basicModes.filter (!s.device.listsLegacy ·) =
      s.device.basicModes.filter (· ∉ s.standard.modes) := by
    refine List.filter_congr fun m hm => ?_
    have hm := hlists m (hd.legacy_basicModes hpreset m hm)
    rw [Bool.eq_iff_iff, Bool.not_eq_true', ← Bool.not_eq_true, hm, decide_eq_true_eq]
  have henabled : s.device.modes.filter (!s.device.supports ·.generation) = [] := by
    rw [List.filter_eq_nil_iff]
    intro m hm
    rw [hd.supports, hpreset.enabled m (hd.modes ▸ hm)]
    decide
  have hempty : unmet (s.device.modes ≠ []) SetupFault.emptyCatalog = none :=
    unmet_eq_none_iff.2 (hd.modes ▸ hpreset.modes_ne_nil)
  have hwidth : 0 < s.device.widthMHz ∧ (s.device.hasMcs = true → 20 ≤ s.device.widthMHz) ↔
      1 ≤ s.device.widthMHz ∧ (s.standard ∉ [.a, .b, .g] → 20 ≤ s.device.widthMHz) := by
    rw [hd.hasMcs, Standard.hasMcs_device]
    exact Iff.rfl
  have hguard : (s.device.he = true → s.device.heGuardNs ∈ heGuardsNs) ↔
      (s.standard ∈ [.axLowBand, .axHighBand] → s.device.heGuardNs ∈ [800, 1600, 3200]) := by
    rw [hd.he, Standard.he_device, heGuardsNs]
  rw [Device.faults, hempty, hbasic, henabled, unmet_congr (hlists _ (hd.legacy_defaultMode hpreset)), unmet_congr hwidth,
    unmet_congr hguard, misfits]
  simp

theorem isProbability_of_resolve (hs : resolve f = .ok s) : Thresholds.isProbability s.bitErrorTarget = true := by
  obtain ⟨hf, hto⟩ := resolve_eq_ok_iff.1 hs
  rw [Thresholds.isProbability_iff, hto.target]
  exact hf.target

end Settings

/-! ## Setting up -/

namespace Thresholds

/-- The model has a threshold for a configuration: its least SNR exists, is finite and is not negative. -/
def Solvable (model : ErrorModel) (target : Float) (v : TxVector) : Prop :=
  ∃ snr, model.leastSnr v target = some snr ∧ snr.isFinite = true ∧ 0.0 ≤ snr

theorem exists_build {d : Device} {model : ErrorModel} {target : Float} (htarget : isProbability target = true)
    (hmodel : ∀ v ∈ d.vectors, Solvable model target v) : ∃ t, build d model target = .ok t := by
  have hsolve : ∀ v ∈ distinctKeys d.vectors, ∃ e, solve model target v = .ok e := by
    intro v hv
    obtain ⟨snr, hsnr⟩ := hmodel v (List.mem_of_find?_eq_some (mem_distinctKeys.1 hv))
    exact ⟨(v, snr), solve_eq_ok_iff.2 ⟨rfl, hsnr⟩⟩
  obtain ⟨entries, hentries⟩ := Attempt.exists_mapM hsolve
  exact ⟨⟨entries, target⟩, build_eq_ok_iff.2 ⟨htarget, hentries, rfl⟩⟩

end Thresholds

namespace RateControl

variable {f : SettingsFile} {s : Settings} {model : ErrorModel}

/-- What is wrong with the device comes before what is wrong with its thresholds. -/
theorem failure?_build (d : Device) (model : ErrorModel) (target : Float) :
    failure? (build d model target) = d.fault?.or (failure? (Thresholds.build d model target)) := by
  rw [build, failure?_bind (g := none) fun _ _ => rfl, Option.or_none, Selector.build]
  cases d.fault? with
  | some fault => rfl
  | none => rw [failure?_bind (g := none) fun _ _ => rfl, Option.or_none, Option.none_or]

/-- **Setting up fails with the first of what is wrong with the settings.** -/
theorem failure?_ofSettings (hs : Settings.resolve f = .ok s)
    (hmodel : ∀ v ∈ s.device.vectors, Thresholds.Solvable model s.bitErrorTarget v) :
    failure? (ofSettings s model) = s.misfits.head? := by
  obtain ⟨-, hto⟩ := Settings.resolve_eq_ok_iff.1 hs
  have hthresholds := Thresholds.exists_build (Settings.isProbability_of_resolve hs) hmodel
  rw [ofSettings, failure?_build, failure?_eq_none_iff.2 hthresholds, Option.or_none, Device.fault?_eq_head?,
    Settings.faults_device hto]

/-- **From a settings file to rate control.**  For settings that a file resolves to, and a model that has a threshold for
every configuration, there is rate control exactly if the default mode and the basic modes are in the catalog of the
standard, the width is positive and wide enough for the standard, there are one to eight streams, and a standard with HE has
one of the three guard intervals; else the first of these that is not so is the fault.  No other fault is possible. -/
theorem ofSettings_decided (hs : Settings.resolve f = .ok s)
    (hmodel : ∀ v ∈ s.device.vectors, Thresholds.Solvable model s.bitErrorTarget v) :
    ((∃ r, ofSettings s model = .ok r) ↔ s.Fits) ∧
      (∀ fault, ofSettings s model = .error fault ↔ s.misfits.head? = some fault) ∧
      (∀ fault, ofSettings s model = .error fault → fault ≠ .emptyCatalog ∧ (∀ m, fault ≠ .generationDisabled m) ∧
        (∀ target, fault ≠ .invalidTarget target) ∧ ∀ v, fault ≠ .unreachableThreshold v) := by
  have hfault : ∀ fault, ofSettings s model = .error fault ↔ s.misfits.head? = some fault := by
    intro fault
    rw [← failure?_eq_some_iff, failure?_ofSettings hs hmodel]
  refine ⟨?_, hfault, fun fault h => ?_⟩
  · rw [← failure?_eq_none_iff, failure?_ofSettings hs hmodel, List.head?_eq_none_iff, Settings.misfits_eq_nil_iff]
  · have hmem := List.mem_of_head? ((hfault fault).1 h)
    obtain rfl | ⟨m, -, rfl⟩ | rfl | rfl | rfl := Settings.misfit_cases hmem <;> simp

/-- The file of a radio that is too narrow for its standard and has too many streams. -/
def narrowFile : SettingsFile where
  radio := { standard := some "802.11n-5ghz", widthMHz := some 10, streams := some 9 }

theorem ofSettings_decided_narrowFile : ∃ s, Settings.resolve narrowFile = .ok s ∧
    ofSettings s ⟨fun _ _ _ => 1.0, fun _ _ => some 3.0⟩ = .error (.invalidWidth 10) := by
  have hname : Text.SameLetters (Text.trimmed "802.11n-5ghz") Standard.nHighBand.name := by decide +kernel
  have hresolves : Settings.resolve narrowFile =
      .ok ⟨1, 1e-5, .nHighBand, { Standard.nHighBand.device with widthMHz := 10, streams := 9 }⟩ :=
    Settings.resolve_eq_ok_iff.2 ⟨⟨.inl rfl, by decide +kernel, ⟨_, .named hname⟩, by rintro _ ⟨⟩, by rintro _ ⟨⟩⟩,
      ⟨rfl, rfl, .named hname, ⟨rfl, rfl, rfl, rfl, rfl, rfl, rfl, rfl, .absent, .absent⟩⟩⟩
  have hmodel : (3.0 : Float).isFinite = true ∧ (0.0 : Float) ≤ 3.0 := by decide +kernel
  exact ⟨_, hresolves, ((ofSettings_decided hresolves fun _ _ => ⟨3.0, rfl, hmodel⟩).2.1 _).2 rfl⟩

end RateControl
end LinkAdaptation

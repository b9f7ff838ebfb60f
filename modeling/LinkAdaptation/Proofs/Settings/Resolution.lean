import LinkAdaptation.Proofs.Settings.Names
import LinkAdaptation.Proofs.Snr.Table
/-!
# Resolving a settings file

All that is wrong with a settings file, in the order in which it is looked at, is `SettingsFile.faults`: resolving the file
fails with the first of these faults and succeeds if there is none (`Settings.failure?_resolve`).  What then comes out is
the device of the standard with the given fields replaced and no other one (`SettingsFile.ResolvesTo`).
-/
namespace LinkAdaptation

open Attempt (failure? failure?_bind failure?_mapM failure?_eq_none_iff failure?_eq_some_iff bind_eq_ok mapM_eq_ok_iff
  unmet unmet_eq_none_iff unmet_of_not)

/-! ## What comes out -/

/-- A field that is given stands for what it names; one that is left out leaves what is there. -/
inductive Replaces (names : α → β → Prop) (present : β) : Option α → β → Prop where
  | absent : Replaces names present none present
  | given {a : α} {b : β} : names a b → Replaces names present (some a) b

/-- `d` is the device of a preset but for the fields that a section gives, and has those as the section gives them. -/
structure RadioSection.Overrides (r : RadioSection) (preset d : Device) : Prop where
  modes : d.modes = preset.modes
  ht : d.ht = preset.ht
  vht : d.vht = preset.vht
  he : d.he = preset.he
  widthMHz : d.widthMHz = r.widthMHz.getD preset.widthMHz
  streams : d.streams = r.streams.getD preset.streams
  shortGuard : d.shortGuard = r.shortGuard.getD preset.shortGuard
  heGuardNs : d.heGuardNs = r.heGuardNs.getD preset.heGuardNs
  basicModes : Replaces (List.Forall₂ NamesLegacy) preset.basicModes r.basicModes d.basicModes
  defaultMode : Replaces NamesLegacy preset.defaultMode r.defaultMode d.defaultMode

/-- The settings that a file without fault stands for. -/
structure SettingsFile.ResolvesTo (f : SettingsFile) (s : Settings) : Prop where
  version : s.version = 1
  target : s.bitErrorTarget = f.bitErrorTarget.getD 1e-5
  standard : NamesStandard f.radio.standard s.standard
  device : f.radio.Overrides s.standard.device s.device

namespace RadioSection

variable {r : RadioSection} {preset d : Device}

/-- Looking up what a field names, if it is given. -/
def lookUp (names? : α → Except SettingsFault β) (present : β) : Option α → Except SettingsFault β
  | some a => names? a
  | none => .ok present

section LookUp

variable {names? : α → Except SettingsFault β} {names : α → β → Prop} {present : β}

theorem lookUp_eq_ok_iff (h : ∀ a b, names? a = .ok b ↔ names a b) {field : Option α} {b : β} :
    lookUp names? present field = .ok b ↔ Replaces names present field b := by
  cases field with
  | none =>
    constructor
    · intro hb
      cases hb
      exact .absent
    · rintro ⟨⟩
      rfl
  | some a =>
    rw [lookUp, h]
    exact ⟨.given, fun | .given hb => hb⟩

theorem failure?_lookUp (field : Option α) :
    failure? (lookUp names? present field) = field.bind fun a => failure? (names? a) := by
  cases field <;> rfl

end LookUp

theorem device_eq (r : RadioSection) (preset : Device) : r.device preset = (do
    let basicModes ← lookUp (List.mapM legacyMode) preset.basicModes r.basicModes
    let defaultMode ← lookUp legacyMode preset.defaultMode r.defaultMode
    return { preset with
      widthMHz := r.widthMHz.getD preset.widthMHz
      streams := r.streams.getD preset.streams
      shortGuard := r.shortGuard.getD preset.shortGuard
      heGuardNs := r.heGuardNs.getD preset.heGuardNs
      basicModes := basicModes
      defaultMode := defaultMode }) := by
  rw [device]
  cases r.basicModes <;> cases r.defaultMode <;> rfl

theorem basicModes_eq_ok_iff {names : Option (List String)} {present ms : List Mode} :
    lookUp (List.mapM legacyMode) present names = .ok ms ↔ Replaces (List.Forall₂ NamesLegacy) present names ms :=
  lookUp_eq_ok_iff fun _ _ => by simp only [mapM_eq_ok_iff, legacyMode_eq_ok_iff]

theorem defaultMode_eq_ok_iff {name : Option String} {present m : Mode} :
    lookUp legacyMode present name = .ok m ↔ Replaces NamesLegacy present name m :=
  lookUp_eq_ok_iff fun _ _ => legacyMode_eq_ok_iff

/-- **The device of a section** overrides its preset with what the section gives. -/
theorem device_eq_ok_iff : r.device preset = .ok d ↔ r.Overrides preset d := by
  rw [device_eq, bind_eq_ok]
  constructor
  · rintro ⟨basicModes, hbasic, h⟩
    obtain ⟨defaultMode, hdefault, h⟩ := bind_eq_ok.1 h
    cases h
    exact ⟨rfl, rfl, rfl, rfl, rfl, rfl, rfl, rfl, basicModes_eq_ok_iff.1 hbasic, defaultMode_eq_ok_iff.1 hdefault⟩
  · rintro ⟨hmodes, hht, hvht, hhe, hwidth, hstreams, hshort, hguard, hbasic, hdefault⟩
    refine ⟨d.basicModes, basicModes_eq_ok_iff.2 hbasic,
      bind_eq_ok.2 ⟨d.defaultMode, defaultMode_eq_ok_iff.2 hdefault, ?_⟩⟩
    rw [← hwidth, ← hstreams, ← hshort, ← hguard, ← hmodes, ← hht, ← hvht, ← hhe]
    rfl

theorem failure?_device (r : RadioSection) (preset : Device) : failure? (r.device preset) =
    ((r.basicModes.getD []).filterMap modeFault?).head?.or (r.defaultMode.bind modeFault?) := by
  rw [device_eq, failure?_bind (g := r.defaultMode.bind modeFault?), failure?_lookUp]
  · cases r.basicModes with
    | none => rfl
    | some names => simp only [Option.bind_some, Option.getD_some, failure?_mapM, failure?_legacyMode]
  · intro basicModes _
    rw [failure?_bind (g := none) fun _ _ => rfl, Option.or_none, failure?_lookUp]
    simp only [failure?_legacyMode]

end RadioSection

/-! ## What is wrong with a file -/

namespace SettingsFile

variable {f : SettingsFile}

/-- **All faults of a file**: version, target, standard, basic modes from left to right, default mode. -/
def faults (f : SettingsFile) : List SettingsFault :=
  (unmet (f.version = 0 ∨ f.version = 1) (SettingsFault.unsupportedVersion f.version)).toList ++
    (unmet (0.0 < f.bitErrorTarget.getD 1e-5 ∧ f.bitErrorTarget.getD 1e-5 < 1.0)
      (SettingsFault.invalidTarget (f.bitErrorTarget.getD 1e-5))).toList ++
    (standardFault? f.radio.standard).toList ++ (f.radio.basicModes.getD []).filterMap modeFault? ++
    (f.radio.defaultMode.bind modeFault?).toList

/-- What a file has to say, so that there are settings for it. -/
structure Resolvable (f : SettingsFile) : Prop where
  version : f.version = 0 ∨ f.version = 1
  target : 0.0 < f.bitErrorTarget.getD 1e-5 ∧ f.bitErrorTarget.getD 1e-5 < 1.0
  standard : ∃ s, NamesStandard f.radio.standard s
  basicModes : ∀ names ∈ f.radio.basicModes, ∀ name ∈ names, ∃ m, NamesLegacy name m
  defaultMode : ∀ name ∈ f.radio.defaultMode, ∃ m, NamesLegacy name m

theorem faults_eq_nil_iff : f.faults = [] ↔ f.Resolvable := by
  simp only [faults, List.append_eq_nil_iff, Option.toList_eq_nil_iff, unmet_eq_none_iff, standardFault?_eq_none_iff,
    List.filterMap_eq_nil_iff, Option.bind_eq_none_iff, modeFault?_eq_none_iff]
  constructor
  · rintro ⟨⟨⟨⟨hversion, htarget⟩, hstandard⟩, hbasic⟩, hdefault⟩
    exact ⟨hversion, htarget, hstandard, fun names hnames => by simpa [Option.mem_def.1 hnames] using hbasic, hdefault⟩
  · rintro ⟨hversion, htarget, hstandard, hbasic, hdefault⟩
    refine ⟨⟨⟨⟨hversion, htarget⟩, hstandard⟩, ?_⟩, hdefault⟩
    cases hnames : f.radio.basicModes with
    | none => simp
    | some names => exact hbasic names hnames

end SettingsFile

/-! ## Resolving -/

namespace Settings

variable {f : SettingsFile} {s : Settings}

theorem resolve_of_unsupported (h : ¬ (f.version = 0 ∨ f.version = 1)) :
    resolve f = .error (.unsupportedVersion f.version) := by
  rw [not_or] at h
  simp [resolve, h.1, h.2, currentVersion]

theorem resolve_of_supported (h : f.version = 0 ∨ f.version = 1) : resolve f =
    if 0.0 < f.bitErrorTarget.getD 1e-5 ∧ f.bitErrorTarget.getD 1e-5 < 1.0 then do
      let standard ← f.radio.resolveStandard
      return ⟨1, f.bitErrorTarget.getD 1e-5, standard, ← f.radio.device standard.device⟩
    else .error (.invalidTarget (f.bitErrorTarget.getD 1e-5)) := by
  have hversion : (if f.version = 0 then currentVersion else f.version) = 1 := by
    rcases h with h | h <;> rw [h] <;> rfl
  rw [resolve, hversion, if_neg (by decide)]
  by_cases htarget : 0.0 < f.bitErrorTarget.getD 1e-5 ∧ f.bitErrorTarget.getD 1e-5 < 1.0
  · have hprobability : Thresholds.isProbability (f.bitErrorTarget.getD Thresholds.defaultTarget) = true :=
      Thresholds.isProbability_iff.2 htarget
    rw [if_pos htarget, hprobability]
    rfl
  · have hprobability : Thresholds.isProbability (f.bitErrorTarget.getD Thresholds.defaultTarget) = false :=
      Bool.eq_false_iff.2 (Thresholds.isProbability_iff.not.2 htarget)
    rw [if_neg htarget, hprobability]
    rfl

/-- **Resolving fails with the first fault of the file.** -/
theorem failure?_resolve (f : SettingsFile) : failure? (resolve f) = f.faults.head? := by
  simp only [SettingsFile.faults, List.head?_append, Option.head?_toList]
  by_cases hversion : f.version = 0 ∨ f.version = 1
  · rw [resolve_of_supported hversion, unmet_eq_none_iff.2 hversion]
    split
    · rename_i htarget
      rw [unmet_eq_none_iff.2 htarget, failure?_bind (g :=
        ((f.radio.basicModes.getD []).filterMap modeFault?).head?.or (f.radio.defaultMode.bind modeFault?))]
      · simp only [RadioSection.failure?_resolveStandard, Option.none_or, Option.or_assoc]
      · intro standard _
        rw [failure?_bind (g := none) fun _ _ => rfl, Option.or_none, RadioSection.failure?_device]
    · rename_i htarget
      simp [unmet_of_not htarget]
  · simp [resolve_of_unsupported hversion, unmet_of_not hversion]

theorem exists_resolve_iff : (∃ s, resolve f = .ok s) ↔ f.Resolvable := by
  rw [← failure?_eq_none_iff, failure?_resolve, List.head?_eq_none_iff, SettingsFile.faults_eq_nil_iff]

theorem resolve_eq_ok_iff : resolve f = .ok s ↔ f.Resolvable ∧ f.ResolvesTo s := by
  have hsteps : f.Resolvable → (resolve f = .ok s ↔ f.ResolvesTo s) := by
    intro hf
    rw [resolve_of_supported hf.version, if_pos hf.target, bind_eq_ok]
    constructor
    · rintro ⟨standard, hstandard, h⟩
      obtain ⟨device, hdevice, h⟩ := bind_eq_ok.1 h
      cases h
      exact ⟨rfl, rfl, RadioSection.resolveStandard_eq_ok_iff.1 hstandard, RadioSection.device_eq_ok_iff.1 hdevice⟩
    · rintro ⟨hversion, htarget, hstandard, hdevice⟩
      refine ⟨s.standard, RadioSection.resolveStandard_eq_ok_iff.2 hstandard,
        bind_eq_ok.2 ⟨s.device, RadioSection.device_eq_ok_iff.2 hdevice, ?_⟩⟩
      rw [← hversion, ← htarget]
      rfl
  constructor
  · intro h
    have hf := exists_resolve_iff.1 ⟨s, h⟩
    exact ⟨hf, (hsteps hf).1 h⟩
  · rintro ⟨hf, hs⟩
    exact (hsteps hf).2 hs

theorem parse_of_blank {text : String} (h : ∀ c ∈ text.toList, Text.isBlank c = true) : parse text = .ok standardOnes := by
  rw [parse, Text.trimmed_of_blank h]
  rfl

theorem resolve_empty : resolve {} = .ok standardOnes := by
  rw [resolve_of_supported (.inl rfl), if_pos (Thresholds.isProbability_iff.1 (by decide +kernel))]
  rfl

/-- **What a settings file resolves to.**  There are settings for it exactly if the version is 0 or 1, the target strictly
between 0 and 1, and every name stands for something; else the first fault counts, in the order version, target, standard,
basic modes from left to right, default mode.  The settings have the device of the standard, with just the given fields
replaced, and a text of blanks stands for the same as a file that says nothing. -/
theorem resolve_decided (f : SettingsFile) :
    ((∃ s, resolve f = .ok s) ↔ f.Resolvable) ∧
      (∀ fault, resolve f = .error fault ↔ f.faults.head? = some fault) ∧
      (∀ s, resolve f = .ok s ↔ f.Resolvable ∧ f.ResolvesTo s) ∧
      ∀ text : String, (∀ c ∈ text.toList, Text.isBlank c = true) →
        parse text = resolve {} ∧ resolve {} = .ok standardOnes := by
  refine ⟨exists_resolve_iff, fun fault => ?_, fun s => resolve_eq_ok_iff, fun text hblank => ⟨?_, resolve_empty⟩⟩
  · rw [← failure?_eq_some_iff, failure?_resolve]
  · rw [parse_of_blank hblank, resolve_empty]

/-- A file that gives every field, with blanks and capitals in its names. -/
def fullFile : SettingsFile where
  version := 1
  bitErrorTarget := some 1e-6
  radio := {
    standard := some " 802.11AX-5GHz"
    widthMHz := some 40
    streams := some 2
    shortGuard := some true
    heGuardNs := some 1600
    basicModes := some ["OfdmRate6Mbps\t", "OfdmRate12Mbps"]
    defaultMode := some "\nOfdmRate6Mbps " }

theorem resolvable_fullFile : fullFile.Resolvable where
  version := .inr rfl
  target := by decide +kernel
  standard := ⟨.axHighBand, .named (by decide +kernel)⟩
  basicModes := by
    rintro names ⟨⟩
    simp only [exists_namesLegacy_iff]
    decide +kernel
  defaultMode := by
    rintro name ⟨⟩
    simp only [exists_namesLegacy_iff]
    decide +kernel

theorem resolve_decided_fullFile :
    (∃ s, resolve fullFile = .ok s ∧ fullFile.ResolvesTo s) ∧ parse " \n\t" = resolve {} := by
  have hblank : " \n\t".toList.all Text.isBlank = true := by decide +kernel
  obtain ⟨hresolvable, -, hsettings, htext⟩ := resolve_decided fullFile
  obtain ⟨s, hs⟩ := hresolvable.2 resolvable_fullFile
  exact ⟨⟨s, hs, ((hsettings s).1 hs).2⟩, (htext " \n\t" (List.all_eq_true.1 hblank)).1⟩

end Settings
end LinkAdaptation

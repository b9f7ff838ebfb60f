import LinkAdaptation.Proofs.Attempts
import LinkAdaptation.Radio.Fault
/-!
# Devices without fault

`Device.fault?` looks at a device field by field and stops at the first fault; `Device.faults` goes on
(`fault?_eq_head?`).  `Faultless` says at once what a device that passes all the looks promises, and
`fault?_eq_none_iff` that the two are one.
-/
namespace LinkAdaptation

theorem Capabilities.hasMcs_of_supports {c : Capabilities} {g : Generation} (h : c.supports g = true)
    (hg : g ≠ .legacy) : c.hasMcs = true := by
  unfold hasMcs
  cases g with
  | legacy => exact absurd rfl hg
  | ht | vht | he => simp_all [supports]

namespace Device

open Attempt (unmet unmet_eq_none_iff unmet_or)

/-- What the set-up of a device has to promise. -/
structure Faultless (d : Device) : Prop where
  modes_ne_nil : d.modes ≠ []
  defaultMode : d.listsLegacy d.defaultMode = true
  basicModes : ∀ m ∈ d.basicModes, d.listsLegacy m = true
  enabled : ∀ m ∈ d.modes, d.supports m.generation = true
  width_pos : 0 < d.widthMHz
  mcsWidth : d.hasMcs = true → 20 ≤ d.widthMHz
  streams_pos : 1 ≤ d.streams
  streams_le : d.streams ≤ 8
  heGuard : d.he = true → d.heGuardNs ∈ heGuardsNs

/-- **All faults of a device**, in the order of the looks at it. -/
def faults (d : Device) : List SetupFault :=
  (unmet (d.modes ≠ []) SetupFault.emptyCatalog).toList ++
    (unmet (d.listsLegacy d.defaultMode = true) (SetupFault.invalidDefaultMode d.defaultMode)).toList ++
    (d.basicModes.filter (!d.listsLegacy ·)).map .invalidBasicMode ++
    (d.modes.filter (!d.supports ·.generation)).map .generationDisabled ++
    (unmet (0 < d.widthMHz ∧ (d.hasMcs = true → 20 ≤ d.widthMHz)) (SetupFault.invalidWidth d.widthMHz)).toList ++
    (unmet (1 ≤ d.streams ∧ d.streams ≤ 8) (SetupFault.invalidStreams d.streams)).toList ++
    (unmet (d.he = true → d.heGuardNs ∈ heGuardsNs) (SetupFault.invalidHeGuard d.heGuardNs)).toList

theorem faults_eq_nil_iff (d : Device) : d.faults = [] ↔ d.Faultless := by
  simp only [faults, List.append_eq_nil_iff, Option.toList_eq_nil_iff, unmet_eq_none_iff, List.map_eq_nil_iff,
    List.filter_eq_nil_iff, Bool.not_eq_true', Bool.not_eq_false]
  constructor
  · rintro ⟨⟨⟨⟨⟨⟨hmodes, hdefault⟩, hbasic⟩, henabled⟩, hwidth⟩, hstreams⟩, hguard⟩
    exact ⟨hmodes, hdefault, hbasic, henabled, hwidth.1, hwidth.2, hstreams.1, hstreams.2, hguard⟩
  · rintro ⟨hmodes, hdefault, hbasic, henabled, hpos, hwidth, hone, height, hguard⟩
    exact ⟨⟨⟨⟨⟨⟨hmodes, hdefault⟩, hbasic⟩, henabled⟩, hpos, hwidth⟩, hone, height⟩, hguard⟩

/-- **The first of all faults is the one that counts.** -/
theorem fault?_eq_head? (d : Device) : d.fault? = d.faults.head? := by
  have hwidth : (d.widthMHz = 0 || (d.hasMcs && d.widthMHz < 20)) = true ↔
      ¬ (0 < d.widthMHz ∧ (d.hasMcs = true → 20 ≤ d.widthMHz)) := by
    cases d.hasMcs <;> simp
    omega
  have hstreams : (d.streams < 1 || 8 < d.streams) = true ↔ ¬ (1 ≤ d.streams ∧ d.streams ≤ 8) := by
    simp
    omega
  have hguard : (d.he && !heGuardsNs.contains d.heGuardNs) = true ↔ ¬ (d.he = true → d.heGuardNs ∈ heGuardsNs) := by
    simp
  have hmodes : d.modes.isEmpty = true ↔ ¬ d.modes ≠ [] := by
    simp
  have hdefault : (!d.listsLegacy d.defaultMode) = true ↔ ¬ d.listsLegacy d.defaultMode = true := by
    simp
  simp only [faults, List.head?_append, Option.head?_toList, List.head?_map, List.head?_filter, Option.or_assoc]
  unfold fault?
  simp only [hmodes, hdefault, hwidth, hstreams, hguard, ite_not, unmet_or]
  -- The two searches come between looks that are alike.
  cases d.basicModes.find? (!d.listsLegacy ·) with
  | some m => rfl
  | none =>
    cases d.modes.find? (!d.supports ·.generation) <;> rfl

/-- **A device has no fault exactly when it promises all of it.** -/
theorem fault?_eq_none_iff (d : Device) : d.fault? = none ↔ d.Faultless := by
  rw [fault?_eq_head?, List.head?_eq_none_iff, faults_eq_nil_iff]

section Faultless

variable {d : Device}

theorem listsLegacy_iff {m : Mode} : d.listsLegacy m = true ↔ m.generation = .legacy ∧ m ∈ d.modes := by
  simp [listsLegacy, Capabilities.lists]

theorem Faultless.hasMcs (h : d.Faultless) {m : Mode} (hm : m ∈ d.modes) (hmcs : m.generation ≠ .legacy) :
    d.hasMcs = true :=
  Capabilities.hasMcs_of_supports (h.enabled m hm) hmcs

end Faultless

end Device
end LinkAdaptation

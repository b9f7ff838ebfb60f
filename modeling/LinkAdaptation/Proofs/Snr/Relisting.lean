import LinkAdaptation.Proofs.Snr.Table
/-!
# The order of a device's modes

A device uses one guard interval with each mode, so of all it can put on air there is one configuration of a key.  Which
one comes first is no question then: a device that lists the same modes in another order, or some of them more than once,
has the same thresholds (`Thresholds.build_relisted`).
-/
namespace LinkAdaptation

/-- The same modes, in any order and each any number of times. -/
def SameModes (ms ms' : List Mode) : Prop :=
  ∀ m, m ∈ ms' ↔ m ∈ ms

namespace Device

variable {d : Device} {ms : List Mode} {v w : TxVector}

/-- The same device with another list of modes. -/
def relisted (d : Device) (ms : List Mode) : Device :=
  { d with modes := ms }

theorem Faultless.relisted (hd : d.Faultless) (hms : SameModes d.modes ms) : (d.relisted ms).Faultless := by
  have hlists : ∀ m, (d.relisted ms).listsLegacy m = true ↔ d.listsLegacy m = true := fun m => by
    rw [listsLegacy_iff, listsLegacy_iff]
    exact and_congr_right fun _ => hms m
  refine { hd with
    modes_ne_nil := ?_
    defaultMode := (hlists _).2 hd.defaultMode
    basicModes := fun m hm => (hlists m).2 (hd.basicModes m hm)
    enabled := fun m hm => hd.enabled m ((hms m).1 hm) }
  obtain ⟨m, hm⟩ := List.exists_mem_of_ne_nil _ hd.modes_ne_nil
  exact List.ne_nil_of_mem ((hms m).2 hm)

/-- **What a device can put on air**, mode by mode. -/
theorem mem_vectors_iff : v ∈ d.vectors ↔ ∃ m ∈ d.modes, m.generation = .legacy ∧ v = .legacy m ∨
    m.generation ≠ .legacy ∧ d.hasMcs = true ∧ ∃ w ∈ widthsWithin d.widthMHz, v ∈ d.vectorsAt m w := by
  unfold vectors Capabilities.legacyModes Capabilities.mcsModes Mode.isMcs
  rw [List.mem_append, List.mem_map]
  constructor
  · rintro (⟨m, hm, rfl⟩ | hv)
    · obtain ⟨hm, hlegacy⟩ := List.mem_filter.1 hm
      exact ⟨m, hm, Or.inl ⟨by simpa using hlegacy, rfl⟩⟩
    · split at hv
      · rename_i hmcs
        obtain ⟨m, hm, hv⟩ := List.mem_flatMap.1 hv
        obtain ⟨hm, hnew⟩ := List.mem_filter.1 hm
        exact ⟨m, hm, Or.inr ⟨by simpa using hnew, hmcs, List.mem_flatMap.1 hv⟩⟩
      · cases hv
  · rintro ⟨m, hm, ⟨hlegacy, rfl⟩ | ⟨hnew, hmcs, hv⟩⟩
    · exact Or.inl ⟨m, List.mem_filter.2 ⟨hm, by simpa using hlegacy⟩, rfl⟩
    · rw [if_pos hmcs]
      exact Or.inr (List.mem_flatMap.2 ⟨m, List.mem_filter.2 ⟨hm, by simpa using hnew⟩, List.mem_flatMap.2 hv⟩)

theorem mem_vectors_relisted (hms : SameModes d.modes ms) : v ∈ (d.relisted ms).vectors ↔ v ∈ d.vectors := by
  rw [mem_vectors_iff, mem_vectors_iff]
  exact exists_congr fun m => and_congr (hms m) Iff.rfl

/-- The guard interval that a device uses with a mode. -/
def guardOf (d : Device) (m : Mode) : Nat :=
  match m.generation with
  | .legacy => longGuardNs
  | .ht | .vht => d.htGuardNs
  | .he => d.heGuardNs

/-- The numbers of streams that a device uses with an MCS. -/
def streamsOf (d : Device) (m : Mode) : List Nat :=
  match m.generation with
  | .legacy => []
  | .ht => [m.htStreams]
  | .vht | .he => streamsUpTo d.streams

theorem vectorsAt_eq (d : Device) (m : Mode) (widthMHz : Nat) :
    d.vectorsAt m widthMHz = (d.streamsOf m).map fun n => ⟨m, n, d.guardOf m, widthMHz⟩ := by
  unfold vectorsAt streamsOf guardOf Mode.generation
  cases m.modulation <;> rfl

theorem guardNs_of_mem_vectors (hv : v ∈ d.vectors) : v.guardNs = d.guardOf v.mode := by
  obtain ⟨m, -, ⟨hlegacy, rfl⟩ | ⟨-, -, w, -, hv⟩⟩ := mem_vectors_iff.1 hv
  · show longGuardNs = d.guardOf m
    rw [guardOf, hlegacy]
  · rw [vectorsAt_eq] at hv
    obtain ⟨n, -, rfl⟩ := List.mem_map.1 hv
    rfl

/-- **Of all that a device can put on air there is one configuration of a key.** -/
theorem eq_of_key (hv : v ∈ d.vectors) (hw : w ∈ d.vectors) (hkey : v.key = w.key) : v = w := by
  have hguard := guardNs_of_mem_vectors hv
  have hguard' := guardNs_of_mem_vectors hw
  obtain ⟨m, n, g, width⟩ := v
  obtain ⟨m', n', g', width'⟩ := w
  cases hkey
  cases hguard.trans hguard'.symm
  rfl

theorem firstOfKey (hv : v ∈ d.vectors) : FirstOfKey d.vectors v := by
  unfold FirstOfKey
  cases hfirst : d.vectors.find? (·.key = v.key) with
  | none =>
    have hne := List.find?_eq_none.1 hfirst v hv
    simp at hne
  | some w =>
    have hkey : w.key = v.key := by simpa using List.find?_some hfirst
    rw [eq_of_key (List.mem_of_find?_eq_some hfirst) hv hkey]

theorem find?_vectors_relisted (hms : SameModes d.modes ms) (k : ThresholdKey) :
    (d.relisted ms).vectors.find? (·.key = k) = d.vectors.find? (·.key = k) := by
  cases hfirst : d.vectors.find? (·.key = k) with
  | none =>
    exact List.find?_eq_none.2 fun v hv => List.find?_eq_none.1 hfirst v ((mem_vectors_relisted hms).1 hv)
  | some v =>
    have hkey : v.key = k := by simpa using List.find?_some hfirst
    subst hkey
    exact firstOfKey ((mem_vectors_relisted hms).2 (List.mem_of_find?_eq_some hfirst))

end Device

namespace Thresholds

variable {d : Device} {ms : List Mode} {model : ErrorModel} {target : Float} {t : Thresholds}

/-- **The thresholds do not hang on the order of the modes.** -/
theorem build_relisted (h : build d model target = .ok t) (hms : SameModes d.modes ms) :
    ∃ t', build (d.relisted ms) model target = .ok t' ∧ ∀ v, t'.lookup? v = t.lookup? v := by
  obtain ⟨htarget, hentries, -⟩ := build_eq_ok_iff.1 h
  -- Of each key the same configuration is solved, so nothing is solved that was not solved before.
  have hsolved : ∀ v ∈ distinctKeys (d.relisted ms).vectors, ∃ e, solve model target v = .ok e := by
    intro v hv
    have hmem := (Device.mem_vectors_relisted hms).1 (List.mem_of_find?_eq_some (mem_distinctKeys.1 hv))
    obtain ⟨e, -, he⟩ := Attempt.exists_answer hentries (mem_distinctKeys.2 (Device.firstOfKey hmem))
    exact ⟨e, he⟩
  obtain ⟨entries, hentries'⟩ := Attempt.exists_mapM hsolved
  have h' : build (d.relisted ms) model target = .ok ⟨entries, target⟩ := build_eq_ok_iff.2 ⟨htarget, hentries', rfl⟩
  refine ⟨_, h', fun v => ?_⟩
  rw [lookup?_of_build h', lookup?_of_build h, Device.find?_vectors_relisted hms]

end Thresholds
end LinkAdaptation

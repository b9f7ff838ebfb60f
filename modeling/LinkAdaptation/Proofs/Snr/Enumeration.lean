import LinkAdaptation.Proofs.Snr.Relisting
import LinkAdaptation.Radio.Standard
/-!
# All that a device can put on air

The list of a device's configurations is drawn up mode by mode, width by width and stream by stream.  It holds what the
table of generations says and nothing else (`Device.OnAir`), its length is a product over the widths, modes and streams,
and of a device that lists each mode once no two configurations share a key (`Device.vectors_exact`).  A table of thresholds
then leaves none of them out (`Thresholds.vectors_of_build`).
-/
namespace LinkAdaptation

theorem length_streamsUpTo (limit : Nat) : (streamsUpTo limit).length = limit := by
  simp [streamsUpTo]

theorem nodup_streamsUpTo (limit : Nat) : (streamsUpTo limit).Nodup :=
  List.nodup_range.map Nat.succ_injective

theorem nodup_widthsWithin (limitMHz : Nat) : (widthsWithin limitMHz).Nodup :=
  List.Nodup.filter _ (by decide)

theorem Mode.htStreams_of_ht {m : Mode} (h : m.generation = .ht) : m.htStreams = m.index / 8 + 1 := by
  have hclass : m.modulation = .ht := by
    unfold generation at h
    cases hc : m.modulation <;> simp_all [ModulationClass.generation]
  rw [htStreams, if_pos hclass]

namespace Device

variable {d : Device} {m : Mode} {v : TxVector}

/-! ## Which ones -/

/-- **What a device can put on air**, one rule for each generation. -/
inductive OnAir (d : Device) : TxVector → Prop where
  | legacy {m : Mode} : m ∈ d.modes → m.generation = .legacy → OnAir d (.legacy m)
  | ht {m : Mode} {w : Nat} : m ∈ d.modes → m.generation = .ht → w ∈ [20, 40, 80, 160] → w ≤ d.widthMHz →
      OnAir d ⟨m, m.index / 8 + 1, d.htGuardNs, w⟩
  | vht {m : Mode} {n w : Nat} : m ∈ d.modes → m.generation = .vht → w ∈ [20, 40, 80, 160] → w ≤ d.widthMHz →
      1 ≤ n → n ≤ d.streams → OnAir d ⟨m, n, d.htGuardNs, w⟩
  | he {m : Mode} {n w : Nat} : m ∈ d.modes → m.generation = .he → w ∈ [20, 40, 80, 160] → w ≤ d.widthMHz →
      1 ≤ n → n ≤ d.streams → OnAir d ⟨m, n, d.heGuardNs, w⟩

theorem mem_vectorsAt_iff {w : Nat} :
    v ∈ d.vectorsAt m w ↔ ∃ n ∈ d.streamsOf m, v = ⟨m, n, d.guardOf m, w⟩ := by
  rw [vectorsAt_eq, List.mem_map]
  simp only [eq_comm]

theorem onAir_of_mem_streamsOf (hm : m ∈ d.modes) {w : Nat} (hw : w ∈ widthsWithin d.widthMHz) {n : Nat}
    (hn : n ∈ d.streamsOf m) : d.OnAir ⟨m, n, d.guardOf m, w⟩ := by
  obtain ⟨hw, hle⟩ := mem_widthsWithin.1 hw
  unfold streamsOf at hn
  unfold guardOf
  cases hg : m.generation with
  | legacy =>
    rw [hg] at hn
    cases hn
  | ht =>
    rw [hg] at hn
    rw [List.mem_singleton.1 hn, Mode.htStreams_of_ht hg]
    exact .ht hm hg hw hle
  | vht =>
    rw [hg] at hn
    obtain ⟨hone, hlimit⟩ := mem_streamsUpTo.1 hn
    exact .vht hm hg hw hle hone hlimit
  | he =>
    rw [hg] at hn
    obtain ⟨hone, hlimit⟩ := mem_streamsUpTo.1 hn
    exact .he hm hg hw hle hone hlimit

theorem OnAir.legacy_or_mcs (h : d.OnAir v) : ∃ m ∈ d.modes, m.generation = .legacy ∧ v = .legacy m ∨
    m.generation ≠ .legacy ∧ ∃ w ∈ widthsWithin d.widthMHz, ∃ n ∈ d.streamsOf m, v = ⟨m, n, d.guardOf m, w⟩ := by
  cases h with
  | legacy hm hg => exact ⟨_, hm, Or.inl ⟨hg, rfl⟩⟩
  | ht hm hg hw hle =>
    refine ⟨_, hm, Or.inr ⟨by simp [hg], _, mem_widthsWithin.2 ⟨hw, hle⟩, _, ?_, by rw [guardOf, hg]⟩⟩
    simp [streamsOf, hg, Mode.htStreams_of_ht hg]
  | vht hm hg hw hle hone hlimit | he hm hg hw hle hone hlimit =>
    refine ⟨_, hm, Or.inr ⟨by simp [hg], _, mem_widthsWithin.2 ⟨hw, hle⟩, _, ?_, by rw [guardOf, hg]⟩⟩
    simp [streamsOf, hg, hone, hlimit]

/-- **The list is what the rules say.** -/
theorem mem_vectors_iff_onAir (henabled : ∀ m ∈ d.modes, d.supports m.generation = true) :
    v ∈ d.vectors ↔ d.OnAir v := by
  rw [mem_vectors_iff]
  constructor
  · rintro ⟨m, hm, ⟨hlegacy, rfl⟩ | ⟨-, -, w, hw, hv⟩⟩
    · exact .legacy hm hlegacy
    · obtain ⟨n, hn, rfl⟩ := mem_vectorsAt_iff.1 hv
      exact onAir_of_mem_streamsOf hm hw hn
  · intro hv
    obtain ⟨m, hm, ⟨hlegacy, rfl⟩ | ⟨hnew, w, hw, hv⟩⟩ := hv.legacy_or_mcs
    · exact ⟨m, hm, Or.inl ⟨hlegacy, rfl⟩⟩
    · have hmcs := Capabilities.hasMcs_of_supports (henabled m hm) hnew
      exact ⟨m, hm, Or.inr ⟨hnew, hmcs, w, hw, mem_vectorsAt_iff.2 hv⟩⟩

/-! ## In which order -/

/-- The configurations of the MCSes, whether or not a generation with MCSes is advertised. -/
def mcsVectors (d : Device) : List TxVector :=
  d.mcsModes.flatMap fun m => (widthsWithin d.widthMHz).flatMap (d.vectorsAt m)

theorem vectors_sublist (d : Device) : d.vectors.Sublist (d.legacyModes.map TxVector.legacy ++ d.mcsVectors) := by
  unfold vectors
  split
  · exact List.Sublist.refl _
  · exact List.Sublist.append_left (List.nil_sublist _) _

theorem vectors_eq_append (henabled : ∀ m ∈ d.modes, d.supports m.generation = true) :
    d.vectors = d.legacyModes.map TxVector.legacy ++ d.mcsVectors := by
  unfold vectors
  by_cases hmcs : d.hasMcs = true
  · rw [if_pos hmcs]
    rfl
  · -- a device that advertises no MCS lists none
    have hnone : d.mcsModes = [] := List.filter_eq_nil_iff.2 fun m hm hnew =>
      hmcs (Capabilities.hasMcs_of_supports (henabled m hm) (by simpa [Mode.isMcs] using hnew))
    rw [if_neg hmcs, mcsVectors, hnone]
    rfl

theorem generation_of_mem_legacy (hv : v ∈ d.legacyModes.map TxVector.legacy) : v.mode.generation = .legacy := by
  obtain ⟨m, hm, rfl⟩ := List.mem_map.1 hv
  exact of_decide_eq_true (List.mem_filter.1 hm).2

theorem generation_of_mem_mcsVectors (hv : v ∈ d.mcsVectors) : v.mode.generation ≠ .legacy := by
  obtain ⟨m, hm, hv⟩ := List.mem_flatMap.1 hv
  obtain ⟨w, -, hv⟩ := List.mem_flatMap.1 hv
  obtain ⟨n, -, rfl⟩ := mem_vectorsAt_iff.1 hv
  simpa [Mode.isMcs] using (List.mem_filter.1 hm).2

/-- **Nothing legacy comes after an MCS.** -/
theorem pairwise_vectors (d : Device) :
    d.vectors.Pairwise fun v w => w.mode.generation = .legacy → v.mode.generation = .legacy := by
  refine List.Pairwise.sublist d.vectors_sublist (List.pairwise_append.2 ⟨?_, ?_, fun v hv w _ _ => ?_⟩)
  · exact List.pairwise_of_forall_mem_list fun v hv w _ _ => generation_of_mem_legacy hv
  · exact List.pairwise_of_forall_mem_list fun v _ w hw h => absurd h (generation_of_mem_mcsVectors hw)
  · exact generation_of_mem_legacy hv

/-! ## Each one once -/

theorem nodup_streamsOf (d : Device) (m : Mode) : (d.streamsOf m).Nodup := by
  unfold streamsOf
  cases m.generation with
  | legacy => exact List.nodup_nil
  | ht => exact List.nodup_singleton _
  | vht | he => exact nodup_streamsUpTo _

theorem nodup_vectorsAt (d : Device) (m : Mode) (w : Nat) : (d.vectorsAt m w).Nodup := by
  rw [vectorsAt_eq]
  exact (d.nodup_streamsOf m).map fun n n' h => congrArg TxVector.streams h

theorem nodup_mcsVectors (hdistinct : d.modes.Nodup) : d.mcsVectors.Nodup := by
  unfold mcsVectors
  -- a configuration says at which width it was listed, and for which mode
  refine List.nodup_flatMap.2 ⟨fun m _ => List.nodup_flatMap.2 ⟨fun w _ => d.nodup_vectorsAt m w, ?_⟩, ?_⟩
  · refine (nodup_widthsWithin _).imp fun {w w'} hne v hv hv' => hne ?_
    obtain ⟨n, -, rfl⟩ := mem_vectorsAt_iff.1 hv
    obtain ⟨n', -, heq⟩ := mem_vectorsAt_iff.1 hv'
    exact congrArg TxVector.widthMHz heq
  · refine (hdistinct.filter _).imp fun {m m'} hne v hv hv' => hne ?_
    obtain ⟨w, -, hv⟩ := List.mem_flatMap.1 hv
    obtain ⟨w', -, hv'⟩ := List.mem_flatMap.1 hv'
    obtain ⟨n, -, rfl⟩ := mem_vectorsAt_iff.1 hv
    obtain ⟨n', -, heq⟩ := mem_vectorsAt_iff.1 hv'
    exact congrArg TxVector.mode heq

/-- **A device that lists each mode once has each configuration once.** -/
theorem nodup_vectors (hdistinct : d.modes.Nodup) : d.vectors.Nodup := by
  refine List.Nodup.sublist d.vectors_sublist (List.Nodup.append ?_ (nodup_mcsVectors hdistinct) fun v hv hv' => ?_)
  · exact (hdistinct.filter _).map fun m m' h => congrArg TxVector.mode h
  · exact generation_of_mem_mcsVectors hv' (generation_of_mem_legacy hv)

theorem nodup_keys (hdistinct : d.modes.Nodup) : (d.vectors.map TxVector.key).Nodup :=
  List.Nodup.map_on (fun _ hv _ hw => eq_of_key hv hw) (nodup_vectors hdistinct)

/-! ## How many -/

/-- How many modes of a generation a device lists. -/
def count (d : Device) (g : Generation) : Nat :=
  d.modes.countP (·.generation = g)

theorem countP_mcsModes (d : Device) {g : Generation} (hg : g ≠ .legacy) :
    d.mcsModes.countP (·.generation = g) = d.count g := by
  unfold Capabilities.mcsModes count
  rw [List.countP_filter]
  refine List.countP_congr fun m _ => ?_
  simp only [Bool.and_eq_true, decide_eq_true_eq, Mode.isMcs]
  exact ⟨fun h => h.1, fun h => ⟨h, h ▸ hg⟩⟩

theorem length_flatMap_streamsOf (d : Device) : ∀ ms : List Mode, (ms.flatMap d.streamsOf).length =
    ms.countP (·.generation = .ht) + d.streams * (ms.countP (·.generation = .vht) + ms.countP (·.generation = .he))
  | [] => rfl
  | m :: ms => by
    rw [List.flatMap_cons, List.length_append, length_flatMap_streamsOf d ms]
    simp only [List.countP_cons]
    unfold streamsOf
    cases m.generation <;> simp [length_streamsUpTo, Nat.mul_add] <;> omega

theorem length_flatMap_vectorsAt (d : Device) (ws : List Nat) (ms : List Mode) :
    (ms.flatMap fun m => ws.flatMap (d.vectorsAt m)).length = ws.length * (ms.flatMap d.streamsOf).length := by
  simp only [List.length_flatMap, vectorsAt_eq, List.length_map, List.map_const', List.sum_replicate, smul_eq_mul,
    List.sum_map_mul_left]

/-- **One configuration for a legacy mode, one for each width of an HT mode, and one for each width and number of streams of
a VHT or HE mode.** -/
theorem length_vectors (henabled : ∀ m ∈ d.modes, d.supports m.generation = true) : d.vectors.length =
    d.count .legacy + [20, 40, 80, 160].countP (· ≤ d.widthMHz) *
      (d.count .ht + d.streams * (d.count .vht + d.count .he)) := by
  have hwidths : (widthsWithin d.widthMHz).length = [20, 40, 80, 160].countP (· ≤ d.widthMHz) :=
    List.countP_eq_length_filter.symm
  rw [vectors_eq_append henabled, List.length_append, List.length_map, mcsVectors, length_flatMap_vectorsAt,
    length_flatMap_streamsOf, countP_mcsModes d (by decide), countP_mcsModes d (by decide),
    countP_mcsModes d (by decide), hwidths, Capabilities.legacyModes, ← List.countP_eq_length_filter]
  rfl

/-! ## All of it -/

/-- **The list of a device's configurations is exact**, for any device that lists each mode once and advertises the
generations of all of them. -/
theorem vectors_exact (d : Device) (hdistinct : d.modes.Nodup)
    (henabled : ∀ m ∈ d.modes, d.supports m.generation = true) :
    (d.vectors.map TxVector.key).Nodup ∧
    (∀ v, v ∈ d.vectors ↔ d.OnAir v) ∧
    d.vectors.length = d.count .legacy + [20, 40, 80, 160].countP (· ≤ d.widthMHz) *
      (d.count .ht + d.streams * (d.count .vht + d.count .he)) ∧
    d.vectors.Pairwise fun v w => w.mode.generation = .legacy → v.mode.generation = .legacy :=
  ⟨nodup_keys hdistinct, fun _ => mem_vectors_iff_onAir henabled, length_vectors henabled, d.pairwise_vectors⟩

/-- A radio with two streams for 802.11ax in the 5 GHz band. -/
theorem vectors_exact_axHighBand :
    let d := { Standard.axHighBand.device with streams := 2 }
    d.modes.Nodup ∧ (∀ m ∈ d.modes, d.supports m.generation = true) ∧ (d.vectors.map TxVector.key).Nodup ∧
      (∀ v, v ∈ d.vectors ↔ d.OnAir v) ∧ d.vectors.length = 8 + 3 * (32 + 2 * (10 + 12)) ∧
      d.vectors.Pairwise fun v w => w.mode.generation = .legacy → v.mode.generation = .legacy := by
  intro d
  have hdistinct : d.modes.Nodup := by decide +kernel
  have henabled : ∀ m ∈ d.modes, d.supports m.generation = true := by decide +kernel
  exact ⟨hdistinct, henabled, vectors_exact d hdistinct henabled⟩

end Device

theorem distinctKeys_of_nodup : ∀ vs : List TxVector, (vs.map TxVector.key).Nodup → distinctKeys vs = vs
  | [], _ => rfl
  | v :: vs, h => by
    rw [List.map_cons, List.nodup_cons] at h
    rw [distinctKeys, distinctKeys_of_nodup vs h.2]
    congr 1
    refine List.filter_eq_self.2 fun w hw => decide_eq_true fun hkey => ?_
    exact h.1 (hkey ▸ List.mem_map_of_mem hw)

namespace Thresholds

variable {d : Device} {model : ErrorModel} {target : Float} {t : Thresholds}

/-- **A table leaves out no configuration** of a device that lists each mode once. -/
theorem vectors_of_build (hdistinct : d.modes.Nodup) (h : build d model target = .ok t) :
    t.entries.map (·.1) = d.vectors := by
  obtain ⟨-, hentries, -⟩ := build_eq_ok_iff.1 h
  rw [distinctKeys_of_nodup _ (Device.nodup_keys hdistinct)] at hentries
  exact (entries_of_solved (Attempt.mapM_eq_ok_iff.1 hentries)).1

end Thresholds
end LinkAdaptation

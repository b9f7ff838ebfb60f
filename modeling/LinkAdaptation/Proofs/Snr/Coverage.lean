import LinkAdaptation.Control.Link
import LinkAdaptation.Proofs.Attempts
import LinkAdaptation.Proofs.Radio.Faults
/-!
# What the thresholds cover

The table of thresholds is drawn up from the device alone, before any peer is known; the configurations that are looked
up in it later come from the link to a peer.  Keys bring the two together: whatever a peer advertises, each configuration
of a link has the key of one the device can put on air (`Device.candidate_covered`), so a table built for the device
answers every question of a selection.
-/
namespace LinkAdaptation

/-! ## First configurations of a key -/

/-- **Leaving out later configurations of a key does not change the first one.** -/
theorem find?_distinctKeys (k : ThresholdKey) (vs : List TxVector) :
    (distinctKeys vs).find? (·.key = k) = vs.find? (·.key = k) := by
  induction vs with
  | nil => rfl
  | cons w vs ih =>
    rw [distinctKeys]
    by_cases hw : w.key = k
    · rw [List.find?_cons_of_pos (by simpa using hw), List.find?_cons_of_pos (by simpa using hw)]
    · rw [List.find?_cons_of_neg (by simpa using hw), List.find?_cons_of_neg (by simpa using hw), ← ih,
        List.find?_filter]
      congr 1
      funext v
      by_cases hv : v.key = k
      · simp [hv, Ne.symm hw]
      · simp [hv]

namespace Thresholds

variable {d : Device} {model : ErrorModel} {target : Float} {t : Thresholds}

theorem solve_eq_ok_iff {v : TxVector} {e : TxVector × Float} :
    solve model target v = .ok e ↔
      e.1 = v ∧ model.leastSnr v target = some e.2 ∧ e.2.isFinite = true ∧ 0.0 ≤ e.2 := by
  obtain ⟨w, snr⟩ := e
  unfold solve
  cases hsnr : model.leastSnr v target with
  | none => simp
  | some x =>
    simp only [Option.some.injEq]
    constructor
    · intro h
      split at h
      · rename_i hx
        simp only [Bool.and_eq_true, decide_eq_true_eq] at hx
        cases h
        exact ⟨rfl, rfl, hx⟩
      · cases h
    · rintro ⟨rfl, rfl, hfinite, hpos⟩
      rw [if_pos (by simp [hfinite, hpos])]

theorem find?_solved (k : ThresholdKey) {vs : List TxVector} {es : List (TxVector × Float)}
    (h : List.Forall₂ (fun v e => solve model target v = .ok e) vs es) :
    (es.find? fun e => e.1.key = k).map (·.2) = (vs.find? (·.key = k)).bind (model.leastSnr · target) := by
  induction h with
  | nil => rfl
  | @cons v e vs es hv _ ih =>
    obtain ⟨rfl, hsnr, -⟩ := solve_eq_ok_iff.1 hv
    by_cases hk : e.1.key = k
    · rw [List.find?_cons_of_pos (by simpa using hk), List.find?_cons_of_pos (by simpa using hk)]
      exact hsnr.symm
    · rw [List.find?_cons_of_neg (by simpa using hk), List.find?_cons_of_neg (by simpa using hk)]
      exact ih

theorem build_eq_ok_iff : build d model target = .ok t ↔
    isProbability target = true ∧ (distinctKeys d.vectors).mapM (solve model target) = .ok t.entries ∧
      t.target = target := by
  unfold build
  split
  · rename_i hp
    rw [Attempt.bind_eq_ok]
    constructor
    · rintro ⟨entries, hentries, heq⟩
      cases heq
      exact ⟨hp, hentries, rfl⟩
    · rintro ⟨-, hentries, rfl⟩
      exact ⟨_, hentries, rfl⟩
  · rename_i hp
    constructor
    · intro h
      cases h
    · intro h
      exact absurd h.1 hp

/-- **A threshold that was built is what the model says of the first configuration of the key.** -/
theorem lookup?_of_build (h : build d model target = .ok t) (v : TxVector) :
    t.lookup? v = (d.vectors.find? (·.key = v.key)).bind (model.leastSnr · target) := by
  obtain ⟨-, hentries, -⟩ := build_eq_ok_iff.1 h
  rw [lookup?, find?_solved v.key (Attempt.mapM_eq_ok_iff.1 hentries), find?_distinctKeys]

/-- The thresholds of all configurations that a device can put on air. -/
def Covers (t : Thresholds) (d : Device) : Prop :=
  ∀ w ∈ d.vectors, (t.lookup? w).isSome = true

theorem lookup?_congr {v w : TxVector} (h : v.key = w.key) : t.lookup? v = t.lookup? w := by
  rw [lookup?, lookup?, h]

/-- **A table that was built covers its device.** -/
theorem covers_of_build (h : build d model target = .ok t) : t.Covers d := by
  intro w hw
  rw [lookup?_of_build h]
  cases hfirst : d.vectors.find? (·.key = w.key) with
  | none =>
    have := List.find?_eq_none.1 hfirst w hw
    simp at this
  | some v =>
    have hv : v ∈ distinctKeys d.vectors := List.mem_of_find?_eq_some (by rw [find?_distinctKeys]; exact hfirst)
    obtain ⟨e, -, he⟩ := Attempt.exists_answer (build_eq_ok_iff.1 h).2.1 hv
    rw [Option.bind_some, (solve_eq_ok_iff.1 he).2.1]
    rfl

/-- **No threshold of a table is negative.** -/
theorem lookup?_nonneg (h : build d model target = .ok t) {v : TxVector} {snr : Float} (hv : t.lookup? v = some snr) :
    0.0 ≤ snr := by
  rw [lookup?_of_build h] at hv
  obtain ⟨w, hw, hsnr⟩ := Option.bind_eq_some_iff.1 hv
  have hmem : w ∈ distinctKeys d.vectors := List.mem_of_find?_eq_some (by rw [find?_distinctKeys]; exact hw)
  obtain ⟨e, -, he⟩ := Attempt.exists_answer (build_eq_ok_iff.1 h).2.1 hmem
  obtain ⟨-, hsolved, -, hnonneg⟩ := solve_eq_ok_iff.1 he
  rwa [Option.some.inj (hsnr.symm.trans hsolved)]

theorem get_eq_ok_iff {v : TxVector} {snr : Float} : t.get v = .ok snr ↔ t.lookup? v = some snr := by
  unfold get
  cases t.lookup? v with
  | none => simp
  | some x => simp

end Thresholds

/-! ## Configurations of a link -/

theorem Link.mode_of_mem_vectors {l : Link} {m : Mode} {v : TxVector} (h : v ∈ l.vectors m) : v.mode = m := by
  unfold Link.vectors at h
  split at h
  · split at h
    · rw [List.mem_singleton.1 h]
    · cases h
  · obtain ⟨n, -, rfl⟩ := List.mem_map.1 h
    rfl
  · obtain ⟨n, -, rfl⟩ := List.mem_map.1 h
    rfl
  · rw [List.mem_singleton.1 h]
    rfl

@[simp] theorem mem_streamsUpTo {n limit : Nat} : n ∈ streamsUpTo limit ↔ 1 ≤ n ∧ n ≤ limit := by
  unfold streamsUpTo
  rw [List.mem_map]
  constructor
  · rintro ⟨i, hi, rfl⟩
    have := List.mem_range.1 hi
    omega
  · rintro ⟨h1, h2⟩
    exact ⟨n - 1, List.mem_range.2 (by omega), by omega⟩

@[simp] theorem mem_widthsWithin {w limit : Nat} : w ∈ widthsWithin limit ↔ w ∈ mcsWidthsMHz ∧ w ≤ limit := by
  unfold widthsWithin
  rw [List.mem_filter, decide_eq_true_eq]

/-- **The width of a link is one the device has a threshold for**, however little the peer offers. -/
theorem operatingWidth_mem {a limit : Nat} (hlimit : 20 ≤ limit) (ha : a ≤ limit) :
    operatingWidth a ∈ widthsWithin limit := by
  unfold operatingWidth
  cases hlast : (widthsWithin a).getLast? with
  | none => exact mem_widthsWithin.2 ⟨by decide, hlimit⟩
  | some w =>
    obtain ⟨hw, hle⟩ := mem_widthsWithin.1 (List.mem_of_getLast? hlast)
    exact mem_widthsWithin.2 ⟨hw, Nat.le_trans hle ha⟩

namespace Device

variable {d : Device} {peer : Capabilities} {g : Generation} {v : TxVector}

theorem mem_sharedModes {m : Mode} :
    m ∈ d.sharedModes peer g ↔ m ∈ d.modes ∧ m.generation = g ∧ m ∈ peer.modes := by
  simp [sharedModes, Capabilities.lists]

theorem mem_candidates :
    v ∈ d.candidates peer g ↔ v.isPermitted = true ∧
      ∃ m, m ∈ d.modes ∧ m.generation = g ∧ m ∈ peer.modes ∧ v ∈ (Link.between d peer).vectors m := by
  unfold candidates
  rw [List.mem_filter, List.mem_flatMap]
  constructor
  · rintro ⟨⟨m, hm, hv⟩, hp⟩
    obtain ⟨hd, hg, hpeer⟩ := mem_sharedModes.1 hm
    exact ⟨hp, m, hd, hg, hpeer, hv⟩
  · rintro ⟨hp, m, hd, hg, hpeer, hv⟩
    exact ⟨⟨m, mem_sharedModes.2 ⟨hd, hg, hpeer⟩, hv⟩, hp⟩

theorem legacy_mem_vectors {m : Mode} (h : d.listsLegacy m = true) : TxVector.legacy m ∈ d.vectors := by
  obtain ⟨hg, hm⟩ := listsLegacy_iff.1 h
  refine List.mem_append_left _ (List.mem_map_of_mem ?_)
  exact List.mem_filter.2 ⟨hm, by simpa using hg⟩

theorem mcs_mem_vectors (hd : d.Faultless) {m : Mode} (hm : m ∈ d.modes) (hmcs : m.generation ≠ .legacy) {w : Nat}
    (hw : w ∈ widthsWithin d.widthMHz) (hv : v ∈ d.vectorsAt m w) : v ∈ d.vectors := by
  refine List.mem_append_right _ ?_
  rw [if_pos (hd.hasMcs hm hmcs), List.mem_flatMap]
  refine ⟨m, List.mem_filter.2 ⟨hm, by simpa [Mode.isMcs] using hmcs⟩, ?_⟩
  exact List.mem_flatMap.2 ⟨w, hw, hv⟩

/-- A configuration of a link shares its key with one that the device has for the mode and the width of the link. -/
theorem exists_vectorsAt {m : Mode} (hmcs : m.generation ≠ .legacy) (hv : v ∈ (Link.between d peer).vectors m) :
    ∃ w ∈ d.vectorsAt m (Link.between d peer).widthMHz, w.key = v.key := by
  have hstreams : ∀ {n}, n ∈ streamsUpTo (Link.between d peer).streams → n ∈ streamsUpTo d.streams := by
    intro n hn
    have hle : (Link.between d peer).streams ≤ d.streams := Nat.min_le_right _ _
    obtain ⟨h1, h2⟩ := mem_streamsUpTo.1 hn
    exact mem_streamsUpTo.2 ⟨h1, Nat.le_trans h2 hle⟩
  unfold Mode.generation at hmcs
  unfold Link.vectors at hv
  unfold vectorsAt
  cases hc : m.modulation with
  | dsss | hrDsss | erpOfdm | ofdm =>
    rw [hc] at hmcs
    exact absurd rfl hmcs
  | ht =>
    rw [hc] at hv
    dsimp only at hv
    split at hv
    · cases List.mem_singleton.1 hv
      exact ⟨_, List.mem_singleton_self _, rfl⟩
    · cases hv
  | vht | he =>
    rw [hc] at hv
    obtain ⟨n, hn, rfl⟩ := List.mem_map.1 hv
    exact ⟨_, List.mem_map_of_mem (hstreams hn), rfl⟩

theorem vectors_of_legacy (l : Link) {m : Mode} (hm : m.generation = .legacy) : l.vectors m = [.legacy m] := by
  unfold Mode.generation at hm
  unfold Link.vectors
  cases hc : m.modulation <;> rw [hc] at hm <;> first | rfl | cases hm

/-- **Every configuration of a link has the key of one the device can put on air.** -/
theorem candidate_covered (hd : d.Faultless) (hv : v ∈ d.candidates peer g) : ∃ w ∈ d.vectors, w.key = v.key := by
  obtain ⟨-, m, hm, -, -, hv⟩ := mem_candidates.1 hv
  by_cases hmcs : m.generation = .legacy
  · rw [vectors_of_legacy _ hmcs, List.mem_singleton] at hv
    exact ⟨_, legacy_mem_vectors (listsLegacy_iff.2 ⟨hmcs, hm⟩), congrArg _ hv.symm⟩
  · obtain ⟨w, hw, hkey⟩ := exists_vectorsAt hmcs hv
    -- below 20 MHz the link is operated at 20 MHz, which a device with an MCS always has
    have hwidth := operatingWidth_mem (hd.mcsWidth (hd.hasMcs hm hmcs)) (Nat.min_le_right peer.widthMHz d.widthMHz)
    exact ⟨w, mcs_mem_vectors hd hm hmcs hwidth hw, hkey⟩

end Device

namespace Thresholds

variable {d : Device} {t : Thresholds} {v : TxVector}

/-- **No configuration of a link lacks a threshold.** -/
theorem Covers.candidate (ht : t.Covers d) (hd : d.Faultless) {peer : Capabilities} {g : Generation}
    (hv : v ∈ d.candidates peer g) : (t.lookup? v).isSome = true := by
  obtain ⟨w, hw, hkey⟩ := Device.candidate_covered hd hv
  rw [← lookup?_congr hkey]
  exact ht w hw

theorem Covers.legacy (ht : t.Covers d) {m : Mode} (hm : d.listsLegacy m = true) :
    (t.lookup? (.legacy m)).isSome = true :=
  ht _ (Device.legacy_mem_vectors hm)

end Thresholds
end LinkAdaptation

import LinkAdaptation.Control.Selector
import LinkAdaptation.Proofs.Snr.Coverage
import Mathlib.Data.List.Induction
/-!
# What a search chooses

The search walks through nested lists with a running best and may fail at every step.  Here its answer is said without
any of that: the configurations of a generation stand in one list (`Thresholds.eligible`), the answer is the first of the
fastest in the first list that is not empty (`Thresholds.choose`), and on a table that covers the device no step fails
(`Thresholds.search_eq`).
-/
namespace LinkAdaptation

/-! ## The first of the best -/

/-- The best of a list that stands in front of its equals. -/
def IsFirstBest (beats : α → α → Bool) (l : List α) (a : α) : Prop :=
  ∃ before after, l = before ++ a :: after ∧ (∀ b ∈ before, beats a b = true) ∧ ∀ b ∈ after, beats b a = false

/-- A comparison by rank: what does not beat the loser is beaten by the winner too. -/
structure Ranks (beats : α → α → Bool) : Prop where
  trans : ∀ {a b c}, beats a b = true → beats b c = true → beats a c = true
  beats_of_not : ∀ {a b c}, beats a b = true → beats c b = false → beats a c = true

theorem IsFirstBest.mem {beats : α → α → Bool} {l : List α} {a : α} (h : IsFirstBest beats l a) : a ∈ l := by
  obtain ⟨before, after, rfl, -, -⟩ := h
  simp

theorem firstBest_concat (beats : α → α → Bool) (l : List α) (a : α) :
    firstBest beats (l ++ [a]) =
      match firstBest beats l with
      | some b => if beats a b then some a else some b
      | none => some a := by
  rw [firstBest, List.foldl_append]
  rfl

theorem firstBest_eq_none_iff {beats : α → α → Bool} {l : List α} : firstBest beats l = none ↔ l = [] := by
  rcases List.eq_nil_or_concat l with rfl | ⟨l, a, rfl⟩
  · exact ⟨fun _ => rfl, fun _ => rfl⟩
  · rw [List.concat_eq_append, firstBest_concat]
    constructor
    · intro h
      split at h
      · split at h <;> cases h
      · cases h
    · intro h
      simp at h

/-- **The running best is the first of the best.** -/
theorem isFirstBest_of_firstBest {beats : α → α → Bool} (hbeats : Ranks beats) {l : List α} {a : α}
    (h : firstBest beats l = some a) : IsFirstBest beats l a := by
  -- the scan is a fold from the left, so the induction takes the last element off
  induction l using List.reverseRecOn generalizing a with
  | nil => cases h
  | append_singleton l c ih =>
    rw [firstBest_concat] at h
    cases hl : firstBest beats l with
    | none =>
      rw [hl] at h
      cases h
      rw [firstBest_eq_none_iff.1 hl]
      exact ⟨[], [], rfl, by simp, by simp⟩
    | some b =>
      rw [hl] at h
      obtain ⟨before, after, rfl, hbefore, hafter⟩ := ih hl
      dsimp only at h
      split at h
      · rename_i hcb
        cases h
        refine ⟨before ++ b :: after, [], rfl, fun x hx => ?_, by simp⟩
        rcases List.mem_append.1 hx with hx | hx
        · exact hbeats.trans hcb (hbefore x hx)
        · rcases List.mem_cons.1 hx with rfl | hx
          · exact hcb
          -- what stood behind the old winner did no more than tie with it
          · exact hbeats.beats_of_not hcb (hafter x hx)
      · rename_i hcb
        cases h
        refine ⟨before, after ++ [c], by simp, hbefore, fun x hx => ?_⟩
        rcases List.mem_append.1 hx with hx | hx
        · exact hafter x hx
        · rw [List.mem_singleton.1 hx]
          simpa using hcb

theorem mem_of_firstBest {beats : α → α → Bool} {l : List α} {a : α} (h : firstBest beats l = some a) : a ∈ l := by
  induction l using List.reverseRecOn generalizing a with
  | nil => cases h
  | append_singleton l c ih =>
    rw [firstBest_concat] at h
    cases hl : firstBest beats l with
    | none =>
      rw [hl] at h
      cases h
      simp
    | some b =>
      rw [hl] at h
      dsimp only at h
      split at h
      · cases h
        simp
      · cases h
        exact List.mem_append_left _ (ih hl)

theorem firstBest_map (beats : β → β → Bool) (f : α → β) (l : List α) :
    firstBest beats (l.map f) = (firstBest (fun a b => beats (f a) (f b)) l).map f := by
  induction l using List.reverseRecOn with
  | nil => rfl
  | append_singleton l c ih =>
    rw [List.map_append, List.map_singleton, firstBest_concat, firstBest_concat, ih]
    cases firstBest (fun a b => beats (f a) (f b)) l with
    | none => rfl
    | some b =>
      simp only [Option.map_some]
      split <;> rfl

/-! ## What may be sent on a link -/

namespace Device

/-- The generations to try on a link: the newest one with MCSes that both ends have, then the legacy one. -/
def applicable (d : Device) (peer : Capabilities) : List Generation :=
  if d.he && peer.he then [.he, .legacy]
  else if d.vht && peer.vht then [.vht, .legacy]
  else if d.ht && peer.ht then [.ht, .legacy]
  else [.legacy]

/-- What a mode may be sent with: one configuration per stream count that suits both ends, at the width of the narrower
end and the guard interval of the slower one. -/
def expansions (d : Device) (peer : Capabilities) (m : Mode) : List TxVector :=
  let width := operatingWidth (min d.widthMHz peer.widthMHz)
  let streams := min d.streams peer.streams
  match m.generation with
  | .legacy => [.legacy m]
  | .ht => if m.htStreams ≤ streams then [⟨m, m.htStreams, max d.htGuardNs peer.htGuardNs, width⟩] else []
  | .vht => (List.range' 1 streams).map fun n => ⟨m, n, max d.htGuardNs peer.htGuardNs, width⟩
  | .he => (List.range' 1 streams).map fun n => ⟨m, n, max d.heGuardNs peer.heGuardNs, width⟩

theorem generations_eq_applicable (d : Device) (peer : Capabilities) : d.generations peer = d.applicable peer := by
  unfold generations sharedGeneration? applicable
  simp only [List.find?, shares, Capabilities.supports]
  cases d.he && peer.he <;> cases d.vht && peer.vht <;> cases d.ht && peer.ht <;> rfl

theorem streamsUpTo_eq_range' (n : Nat) : streamsUpTo n = List.range' 1 n := by
  rw [streamsUpTo, List.range_eq_range', ← List.range'_succ_left]

theorem vectors_eq_expansions (d : Device) (peer : Capabilities) (m : Mode) :
    (Link.between d peer).vectors m = d.expansions peer m := by
  unfold Link.vectors expansions Mode.generation Link.between
  rw [Nat.min_comm d.widthMHz, Nat.min_comm d.streams, Nat.max_comm d.htGuardNs, Nat.max_comm d.heGuardNs]
  cases m.modulation <;> simp only [ModulationClass.generation, streamsUpTo_eq_range']

theorem candidates_eq (d : Device) (peer : Capabilities) (g : Generation) :
    d.candidates peer g =
      ((d.modes.filter fun m => m.generation = g && peer.lists m).flatMap (d.expansions peer)).filter
        (·.isPermitted) := by
  rw [candidates, sharedModes, funext (vectors_eq_expansions d peer)]

end Device

namespace Thresholds

/-- Whether a configuration has a threshold strictly below an SNR. -/
def isBelow (t : Thresholds) (snr : Float) (v : TxVector) : Bool :=
  (t.lookup? v).any (· < snr)

/-- **What may be sent in a generation at an SNR**, in the order of the device's modes. -/
def eligible (t : Thresholds) (d : Device) (peer : Capabilities) (snr : Float) (g : Generation) : List TxVector :=
  ((d.modes.filter fun m => m.generation = g && peer.lists m).flatMap (d.expansions peer)).filter fun v =>
    v.isPermitted && t.isBelow snr v

/-- A configuration with its threshold. -/
def candidate (t : Thresholds) (v : TxVector) : Candidate :=
  ⟨v, (t.lookup? v).getD 0.0⟩

def isFaster (v w : TxVector) : Bool :=
  w.dataRate < v.dataRate

/-- **The answer of a search**: the first of the fastest in the first generation that has one. -/
def choose (t : Thresholds) (d : Device) (peer : Capabilities) (snr : Float) : Option TxVector :=
  (d.applicable peer).findSome? fun g => firstBest isFaster (t.eligible d peer snr g)

variable {t : Thresholds} {d : Device}

theorem price_eq {vs : List TxVector} (h : ∀ v ∈ vs, (t.lookup? v).isSome = true) :
    t.price vs = .ok (vs.map t.candidate) := by
  refine Attempt.mapM_eq_map fun v hv => ?_
  obtain ⟨snr, hsnr⟩ := Option.isSome_iff_exists.1 (h v hv)
  rw [get_eq_ok_iff.2 hsnr, candidate, hsnr]
  rfl

theorem clears_candidate {v : TxVector} (h : (t.lookup? v).isSome = true) (snr : Float) :
    (t.candidate v).clears snr = t.isBelow snr v := by
  obtain ⟨x, hx⟩ := Option.isSome_iff_exists.1 h
  rw [isBelow, candidate, Candidate.clears, hx]
  rfl

theorem filter_clears {vs : List TxVector} (h : ∀ v ∈ vs, (t.lookup? v).isSome = true) (snr : Float) :
    (vs.map t.candidate).filter (·.clears snr) = (vs.filter (t.isBelow snr)).map t.candidate := by
  rw [List.filter_map]
  congr 1
  exact List.filter_congr fun v hv => clears_candidate (h v hv) snr

/-- **The search in one generation**, on a table that covers the device. -/
theorem fastest_eq (hd : d.Faultless) (ht : t.Covers d) (peer : Capabilities) (snr : Float) (g : Generation) :
    t.fastest d peer snr g = .ok ((firstBest isFaster (t.eligible d peer snr g)).map t.candidate) := by
  have hcovered : ∀ v ∈ d.candidates peer g, (t.lookup? v).isSome = true := fun v hv => ht.candidate hd hv
  have heligible : (d.candidates peer g).filter (t.isBelow snr) = t.eligible d peer snr g := by
    rw [Device.candidates_eq, List.filter_filter]
    exact List.filter_congr fun v _ => Bool.and_comm _ _
  rw [fastest, price_eq hcovered]
  show Except.ok (firstBest _ ((List.map _ _).filter _)) = _
  rw [filter_clears hcovered, heligible, firstBest_map]
  rfl

/-- **The whole search never fails**, on a table that covers the device, and comes to what is to be chosen. -/
theorem search_eq (hd : d.Faultless) (ht : t.Covers d) (peer : Capabilities) (snr : Float) :
    t.search d peer snr = .ok ((t.choose d peer snr).map t.candidate) := by
  rw [search, Attempt.findSomeM?_eq fun g _ => fastest_eq hd ht peer snr g, Device.generations_eq_applicable, choose,
    List.map_findSome?]
  rfl

theorem ranks_isFaster : Ranks isFaster where
  trans := by
    intro a b c hab hbc
    simp only [isFaster, decide_eq_true_eq] at *
    omega
  beats_of_not := by
    intro a b c hab hcb
    simp only [isFaster, decide_eq_true_eq, decide_eq_false_iff_not] at *
    omega

/-- **The answer of a search, spelled out.** -/
theorem choose_eq_some {peer : Capabilities} {snr : Float} {v : TxVector} (h : t.choose d peer snr = some v) :
    ∃ earlier g later, d.applicable peer = earlier ++ g :: later ∧ (∀ e ∈ earlier, t.eligible d peer snr e = []) ∧
      IsFirstBest isFaster (t.eligible d peer snr g) v := by
  obtain ⟨earlier, g, later, happlicable, hv, hearlier⟩ := List.findSome?_eq_some_iff.1 h
  exact ⟨earlier, g, later, happlicable, fun e he => firstBest_eq_none_iff.1 (hearlier e he),
    isFirstBest_of_firstBest ranks_isFaster hv⟩

theorem mem_eligible_of_choose {peer : Capabilities} {snr : Float} {v : TxVector} (h : t.choose d peer snr = some v) :
    ∃ g, v ∈ t.eligible d peer snr g := by
  obtain ⟨g, -, hv⟩ := List.exists_of_findSome?_eq_some h
  exact ⟨g, mem_of_firstBest hv⟩

theorem mem_eligible {peer : Capabilities} {snr : Float} {g : Generation} {v : TxVector} :
    v ∈ t.eligible d peer snr g ↔ v ∈ d.candidates peer g ∧ t.isBelow snr v = true := by
  rw [eligible, Device.candidates_eq, List.mem_filter, List.mem_filter, Bool.and_eq_true, and_assoc]

theorem isBelow_iff {snr : Float} {v : TxVector} : t.isBelow snr v = true ↔ ∃ x, t.lookup? v = some x ∧ x < snr := by
  unfold isBelow
  cases t.lookup? v <;> simp

theorem choose_eq_none_iff {peer : Capabilities} {snr : Float} :
    t.choose d peer snr = none ↔ ∀ g ∈ d.applicable peer, t.eligible d peer snr g = [] := by
  rw [choose, List.findSome?_eq_none_iff]
  exact forall₂_congr fun g _ => firstBest_eq_none_iff

/-! ## What protects a frame -/

/-- A configuration that takes more SNR than another one. -/
def isHigher (t : Thresholds) (v w : TxVector) : Bool :=
  (t.candidate v).isHigher (t.candidate w)

/-- **The answer of a search for protection**: the first of the most demanding basic modes that clear an SNR. -/
def protect (t : Thresholds) (d : Device) (snr : Float) : Option TxVector :=
  firstBest t.isHigher ((d.basicModes.map TxVector.legacy).filter (t.isBelow snr))

theorem Covers.basic (ht : t.Covers d) (hd : d.Faultless) {v : TxVector} (hv : v ∈ d.basicModes.map TxVector.legacy) :
    (t.lookup? v).isSome = true := by
  obtain ⟨m, hm, rfl⟩ := List.mem_map.1 hv
  exact ht.legacy (hd.basicModes m hm)

/-- **The search for protection never fails**, on a table that covers the device. -/
theorem mostProtective_eq (hd : d.Faultless) (ht : t.Covers d) (snr : Float) :
    t.mostProtective d snr = .ok ((t.protect d snr).map t.candidate) := by
  have hcovered : ∀ v ∈ d.basicModes.map TxVector.legacy, (t.lookup? v).isSome = true := fun v hv => ht.basic hd hv
  rw [mostProtective, price_eq hcovered]
  show Except.ok (firstBest _ ((List.map t.candidate _).filter _)) = _
  rw [filter_clears hcovered, firstBest_map]
  rfl

theorem mem_of_protect {snr : Float} {v : TxVector} (h : t.protect d snr = some v) :
    (∃ m ∈ d.basicModes, v = .legacy m) ∧ t.isBelow snr v = true := by
  obtain ⟨hv, hbelow⟩ := List.mem_filter.1 (mem_of_firstBest h)
  obtain ⟨m, hm, rfl⟩ := List.mem_map.1 hv
  exact ⟨⟨m, hm, rfl⟩, hbelow⟩

theorem protect_eq_none_iff {snr : Float} :
    t.protect d snr = none ↔ ∀ m ∈ d.basicModes, t.isBelow snr (.legacy m) = false := by
  rw [protect, firstBest_eq_none_iff, List.filter_eq_nil_iff]
  simp

end Thresholds

/-! ## Selections without a usable choice in the cache -/

/-- What a search makes of a station and of the rate its observers know. -/
inductive FreshSelection (t : Thresholds) (d : Device) (st : Station) : Selection → Prop
  /-- The first of the fastest in the first generation that has one is used and kept. -/
  | found {earlier later : List Generation} {g : Generation} {v : TxVector} :
      d.applicable st.capabilities = earlier ++ g :: later →
      (∀ e ∈ earlier, t.eligible d st.capabilities st.observed e = []) →
      IsFirstBest Thresholds.isFaster (t.eligible d st.capabilities st.observed g) v →
      FreshSelection t d st
        { vector := v
          station := { st with
            used := some st.observed
            cached := some v
            cachedRate := v.dataRate
            counters := { st.counters with
              freshSearches := st.counters.freshSearches + 1
              rateChanges := st.counters.rateChanges + if st.cachedRate = v.dataRate then 0 else 1 } }
          change := if st.cachedRate = v.dataRate then none else some ⟨st.address, st.cachedRate, v.dataRate⟩ }
  /-- No generation has one: the default mode is used and what was kept stays. -/
  | nothing :
      (∀ g ∈ d.applicable st.capabilities, t.eligible d st.capabilities st.observed g = []) →
      FreshSelection t d st
        { vector := .legacy d.defaultMode
          station := { st with
            counters := { st.counters with
              freshSearches := st.counters.freshSearches + 1
              fallbacks := st.counters.fallbacks + 1 } }
          change := none }

namespace Selector

variable {d : Device} {t : Thresholds}

/-- **What adopting a choice comes to**: it is kept with its rate, and another rate than before is a change. -/
theorem adopt_eq (st : Station) (found : Candidate) :
    adopt st found =
      { vector := found.vector
        station := { st with
          used := some st.observed
          cached := some found.vector
          cachedRate := found.dataRate
          counters := { st.counters with
            freshSearches := st.counters.freshSearches + 1
            rateChanges := st.counters.rateChanges + if st.cachedRate = found.dataRate then 0 else 1 } }
        change := if st.cachedRate = found.dataRate then none else some ⟨st.address, st.cachedRate, found.dataRate⟩ } := by
  unfold adopt
  dsimp only
  by_cases hrate : st.cachedRate = found.dataRate
  · rw [if_pos hrate, if_pos hrate, if_pos hrate]
    rfl
  · rw [if_neg hrate, if_neg hrate, if_neg hrate]
    rfl

/-- What a data selection comes to: the cached choice is used again, nothing is found, or what was found is kept. -/
inductive Selects (s : Selector) (st : Station) : Selection → Prop
  | reuses {v : TxVector} : st.reusable? = some v → Selects s st (reuse st v)
  | fallsBack : st.reusable? = none →
      s.thresholds.search s.device st.capabilities st.observed = .ok none → Selects s st (s.fallBack st)
  | adopts {found : Candidate} : st.reusable? = none →
      s.thresholds.search s.device st.capabilities st.observed = .ok (some found) →
      Selects s st
        { vector := found.vector
          station := { st with
            used := some st.observed
            cached := some found.vector
            cachedRate := found.dataRate
            counters := { st.counters with
              freshSearches := st.counters.freshSearches + 1
              rateChanges := st.counters.rateChanges + if st.cachedRate = found.dataRate then 0 else 1 } }
          change := if st.cachedRate = found.dataRate then none else some ⟨st.address, st.cachedRate, found.dataRate⟩ }

/-- **What a data selection that succeeds has done.** -/
theorem selects_of_selectData {s : Selector} {st : Station} {chosen : Selection} (h : s.selectData st = .ok chosen) :
    s.Selects st chosen := by
  unfold selectData at h
  cases hv : st.reusable? with
  | some v =>
    rw [hv] at h
    cases h
    exact .reuses hv
  | none =>
    rw [hv] at h
    obtain ⟨found, hfound, h⟩ := Attempt.bind_eq_ok.1 h
    cases found with
    | none =>
      cases h
      exact .fallsBack hv hfound
    | some c =>
      cases h
      rw [adopt_eq]
      exact .adopts hv hfound

theorem selectData_keeps {s : Selector} {st : Station} {chosen : Selection} (h : s.selectData st = .ok chosen) :
    chosen.station.address = st.address ∧ chosen.station.capabilities = st.capabilities ∧
      chosen.station.observed = st.observed := by
  cases selects_of_selectData h <;> exact ⟨rfl, rfl, rfl⟩

/-- **A change tells of the rate before and of the rate of the answer**, which is the one kept from now on. -/
theorem change_of_selectData {s : Selector} {st : Station} {chosen : Selection} {c : RateChange}
    (h : s.selectData st = .ok chosen) (hc : chosen.change = some c) :
    c = ⟨st.address, st.cachedRate, chosen.vector.dataRate⟩ ∧ st.cachedRate ≠ chosen.vector.dataRate ∧
      chosen.station.cachedRate = chosen.vector.dataRate ∧ st.reusable? = none ∧
      chosen.station.counters.fallbacks = st.counters.fallbacks := by
  cases selects_of_selectData h with
  | reuses => cases hc
  | fallsBack => cases hc
  | adopts hreusable =>
    dsimp only at hc
    split at hc
    · cases hc
    · rename_i hne
      cases hc
      exact ⟨rfl, hne, rfl, hreusable, rfl⟩

/-- **Without a change the kept rate stays as it is.** -/
theorem cachedRate_of_no_change {s : Selector} {st : Station} {chosen : Selection}
    (h : s.selectData st = .ok chosen) (hc : chosen.change = none) : chosen.station.cachedRate = st.cachedRate := by
  cases selects_of_selectData h with
  | reuses => rfl
  | fallsBack => rfl
  | adopts =>
    dsimp only at hc ⊢
    split at hc
    · rename_i heq
      exact heq.symm
    · cases hc

theorem selectData_of_reusable {s : Selector} {st : Station} {v : TxVector} (h : st.reusable? = some v) :
    s.selectData st = .ok (reuse st v) := by
  rw [selectData, h]

theorem selectData_of_found {s : Selector} {st : Station} {found : Option Candidate} (h : st.reusable? = none)
    (hfound : s.thresholds.search s.device st.capabilities st.observed = .ok found) :
    s.selectData st = .ok (found.elim (s.fallBack st) (adopt st)) := by
  rw [selectData, h]
  dsimp only
  rw [hfound]
  cases found <;> rfl

/-- **A data selection that has to search**, on a table that covers the device. -/
theorem selectData_of_search (hd : d.Faultless) (ht : t.Covers d) (observers : Observers) {st : Station}
    (h : st.reusable? = none) :
    selectData ⟨d, t, observers⟩ st =
      .ok (match t.choose d st.capabilities st.observed with
        | some v => adopt st (t.candidate v)
        | none => fallBack ⟨d, t, observers⟩ st) := by
  rw [selectData_of_found h (Thresholds.search_eq hd ht st.capabilities st.observed)]
  cases t.choose d st.capabilities st.observed <;> rfl

/-- **A data selection that has to search keeps what is chosen** and answers it. -/
theorem selectData_of_choose (hd : d.Faultless) (ht : t.Covers d) (observers : Observers) {st : Station}
    (h : st.reusable? = none) {v : TxVector} (hv : t.choose d st.capabilities st.observed = some v) :
    selectData ⟨d, t, observers⟩ st = .ok (adopt st (t.candidate v)) := by
  rw [selectData_of_search hd ht observers h, hv]

theorem adopt_vector (st : Station) (found : Candidate) : (adopt st found).vector = found.vector := by
  rw [adopt_eq]

theorem fresh_adopt {st : Station} {v : TxVector} (h : t.choose d st.capabilities st.observed = some v) :
    FreshSelection t d st (adopt st (t.candidate v)) := by
  obtain ⟨earlier, g, later, happlicable, hearlier, hv⟩ := Thresholds.choose_eq_some h
  rw [adopt_eq]
  exact .found happlicable hearlier hv

/-- **A data selection without a usable choice in the cache**, whatever the peer advertises and whatever the SNR: the
selection succeeds, and nothing but the lists of what may be sent decides on it. -/
theorem selectData_fresh {model : ErrorModel} {target : Float} (hd : d.fault? = none)
    (ht : Thresholds.build d model target = .ok t) (observers : Observers) {st : Station}
    (hst : st.isCacheValid = false) :
    ∃ chosen, selectData ⟨d, t, observers⟩ st = .ok chosen ∧ FreshSelection t d st chosen := by
  have hreusable : st.reusable? = none := by rw [Station.reusable?, hst]; rfl
  refine ⟨_, selectData_of_search ((Device.fault?_eq_none_iff d).1 hd) (Thresholds.covers_of_build ht) observers
    hreusable, ?_⟩
  cases h : t.choose d st.capabilities st.observed with
  | none => exact .nothing (Thresholds.choose_eq_none_iff.1 h)
  | some v => exact fresh_adopt h

/-- **A selection for a protective frame**, on a table that covers the device. -/
theorem selectRts_eq (hd : d.Faultless) (ht : t.Covers d) (observers : Observers) (st : Station) :
    selectRts ⟨d, t, observers⟩ st = .ok ((t.protect d st.observed).getD (.legacy d.defaultMode)) := by
  rw [selectRts]
  dsimp only
  rw [Thresholds.mostProtective_eq hd ht]
  cases t.protect d st.observed <;> rfl

/-- Two modes of one rate and a newer generation with two streams: the earlier one of the two as long as the SNR is low,
and both streams of the newer generation once it is within reach. -/
theorem selectData_fresh_tiedModes :
    let first := Catalog.slowestOfdm
    let tied := Mode.ofdmRate .erpOfdm 0 6 2 .half
    let newer := Mode.mcs .he 0
    let d : Device := { Device.legacy [first, tied, newer] with he := true, streams := 2 }
    let model := (((StepCurve.empty.set first 2.0).set tied 2.0).set newer 6.0).model
    let t : Thresholds :=
      ⟨[(.legacy first, 2.0), (.legacy tied, 2.0), (⟨newer, 1, 800, 20⟩, 6.0), (⟨newer, 2, 800, 20⟩, 6.0)], 0.5⟩
    let near : Station := { Station.fresh (.locallyAdministered 1) d.toCapabilities with observed := 8.0 }
    let far : Station := { near with observed := 4.0 }
    d.fault? = none ∧ Thresholds.build d model 0.5 = .ok t ∧ near.isCacheValid = false ∧ far.isCacheValid = false ∧
      (first ≠ tied ∧ (TxVector.legacy first).dataRate = (TxVector.legacy tied).dataRate) ∧
      (∃ chosen, selectData ⟨d, t, {}⟩ near = .ok chosen ∧ FreshSelection t d near chosen ∧
        chosen.vector = ⟨newer, 2, 800, 20⟩) ∧
      ∃ chosen, selectData ⟨d, t, {}⟩ far = .ok chosen ∧ FreshSelection t d far chosen ∧ chosen.vector = .legacy first := by
  intro first tied newer d model t near far
  have hd : d.fault? = none := by decide +kernel
  have ht : Thresholds.build d model 0.5 = .ok t := rfl
  have htied : first ≠ tied ∧ (TxVector.legacy first).dataRate = (TxVector.legacy tied).dataRate := by decide +kernel
  have hanswers : ∀ {st : Station} {v chosen}, st.reusable? = none → t.choose d st.capabilities st.observed = some v →
      selectData ⟨d, t, {}⟩ st = .ok chosen → chosen.vector = v := fun hst hv hchosen => by
    have hadopted := selectData_of_choose ((Device.fault?_eq_none_iff d).1 hd) (Thresholds.covers_of_build ht) {} hst hv
    cases hchosen.symm.trans hadopted
    exact adopt_vector _ _
  obtain ⟨chosen, hchosen, hfresh⟩ := selectData_fresh hd ht {} (rfl : near.isCacheValid = false)
  obtain ⟨chosen', hchosen', hfresh'⟩ := selectData_fresh hd ht {} (rfl : far.isCacheValid = false)
  exact ⟨hd, ht, rfl, rfl, htied, ⟨chosen, hchosen, hfresh, hanswers rfl (by decide +kernel) hchosen⟩,
    chosen', hchosen', hfresh', hanswers rfl (by decide +kernel) hchosen'⟩

end Selector
end LinkAdaptation

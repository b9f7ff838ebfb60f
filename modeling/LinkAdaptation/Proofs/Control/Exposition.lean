import LinkAdaptation.Proofs.Control.Accounts
import LinkAdaptation.Proofs.Control.Coherence
import LinkAdaptation.Proofs.Station.Samples
/-!
# What the metrics say of a run

The metrics show the fields of a station one by one, and some of those outlive what they belong to: the last configuration
stays when it must not be used again.  Even so a scraper of any state of any run can rely on them (`run_exposed`).  That
the text can be taken apart rests on the modes of the device, so those of all configurations that are kept are traced
back to it (`Station.KeepsModes`).
-/
namespace LinkAdaptation

variable {d : Device} {t : Thresholds}

/-! ## The modes that are kept -/

/-- A configuration that is kept is sent in a mode of the device. -/
def Station.KeepsModes (d : Device) (st : Station) : Prop :=
  ∀ v, st.cached = some v → v.mode ∈ d.modes

namespace Station.KeepsModes

variable {st st' : Station}

theorem selectData (hd : Equipped d t) (h : st.KeepsModes d) {chosen : Selection}
    (hchosen : Selector.selectData ⟨d, t, {}⟩ st = .ok chosen) : chosen.station.KeepsModes d := by
  cases Selector.selects_of_selectData hchosen with
  | reuses => exact h
  | fallsBack => exact h
  | adopts _ hfound =>
    rw [Thresholds.search_eq hd.faultless hd.covers] at hfound
    obtain ⟨v, hv, rfl⟩ := Option.map_eq_some_iff.1 (Except.ok.inj hfound)
    intro w hw
    cases hw
    exact (Thresholds.admissible_of_choose hv).1.mem_device

theorem undergoes (hd : Equipped d t) (h : st.KeepsModes d) {deed : Deed} (hdeed : Undergoes d t st deed st') :
    st'.KeepsModes d := by
  cases hdeed with
  | register => exact h
  | update => exact h
  | report => rw [Station.apply_fst]; exact h
  | reportFrom => rw [Station.apply_fst]; exact h
  | selectData hchosen => exact h.selectData hd hchosen
  | selectRts => exact h

end Station.KeepsModes

theorem Lives.keepsModes (hd : Equipped d t) {l : Life} {st : Station} (h : Lives d t l st) : st.KeepsModes d := by
  refine h.invariant (fun a c v hv => ?_) fun hst hdeed => hst.undergoes hd hdeed
  cases hv

/-! ## What a scraper can rely on -/

namespace RateControl

open Metrics

variable {s : RateControl} {h : Handle}

/-- What the samples of a state say of all its stations. -/
structure Exposition (s : RateControl) (xs : List Sample) : Prop where
  samples : xs = samples s.stations.byAscendingAddress
  count : xs.filter (·.name == "rateadapt_stations") = [⟨"rateadapt_stations", [], toString s.stations.size⟩]
  length : s.stations.byAscendingAddress.length = s.stations.size
  registered : ∀ st, st ∈ s.stations.byAscendingAddress ↔ ∃ h, s.stations.get? h = some st
  ascending : s.stations.byAscendingAddress.Pairwise fun st st' => st.address.precedes st'.address = true
  families_length : families.length = 8
  family : ∀ f ∈ families, xs.filter (·.name == f.name) = s.stations.byAscendingAddress.map f.sample

/-- A configuration as the snapshot of all stations shows it for an address. -/
def Snapshot (r : Registry) (a : MacAddress) (v : TxVector) : Prop :=
  ∃ items item, r.toJson = .arr items ∧ item ∈ items ∧ item.get? "address" = some a.toJson ∧
    item.get? "cached_mode" = some (.str v.mode.name) ∧ item.get? "cached_config" = some v.toJson

/-- What the samples of a state say of the station at a handle.  Its counters are natural numbers here; none of them exceeds
the number of deeds (`Accounted.bounded`), so a counter of 64 bits shows the same after every run of fewer than 2⁶⁴. -/
structure Exposes (s : RateControl) (xs : List Sample) (h : Handle) (st : Station) : Prop where
  /-- One sample in each family. -/
  single : ∀ f ∈ families, about f.name st.address xs = [f.sample st]
  /-- No mode, and no rate; or the mode of the configuration that is shown, and the rate of it. -/
  mode :
    (values "rateadapt_station_data_rate_bps" st.address xs = ["0"] ∧ about "rateadapt_station_mode" st.address xs = []) ∨
    ∃ v, values "rateadapt_station_data_rate_bps" st.address xs = [toString v.dataRate] ∧ toString v.dataRate ≠ "0" ∧
      about "rateadapt_station_mode" st.address xs =
        [⟨"rateadapt_station_mode", [("peer", st.address.toText), ("mode", v.mode.name)], "1"⟩] ∧
      Snapshot s.stations st.address v
  /-- Whether a data selection would be answered from the cache. -/
  valid : ∃ o st', s.perform (.selectData h) = .ok o ∧ o.next.stations.get? h = some st' ∧
    (values "rateadapt_station_cache_valid" st.address xs = ["1"] ∧
        st'.counters.cacheHits = st.counters.cacheHits + 1 ∧ st'.counters.freshSearches = st.counters.freshSearches ∨
      values "rateadapt_station_cache_valid" st.address xs = ["0"] ∧
        st'.counters.cacheHits = st.counters.cacheHits ∧ st'.counters.freshSearches = st.counters.freshSearches + 1)
  /-- Every search falls back, changes the rate or leaves it as it is. -/
  searches :
    values "rateadapt_station_fallbacks_total" st.address xs = [toString st.counters.fallbacks] ∧
    values "rateadapt_station_rate_changes_total" st.address xs = [toString st.counters.rateChanges] ∧
    values "rateadapt_station_searches_total" st.address xs = [toString st.counters.freshSearches] ∧
    st.counters.fallbacks + st.counters.rateChanges ≤ st.counters.freshSearches

theorem unmarked_catalog : ∀ m ∈ Catalog.all, Unmarked m.name.toList := by
  decide +kernel

/-- **The metrics of a state can be taken apart.** -/
theorem scrape_render_of_run (hd : Equipped d t) {observers : Observers} {past : List Deed}
    (hrun : Run ⟨⟨d, t, observers⟩, {}⟩ past s) :
    scrape (render s.stations) = Metrics.samples s.stations.byAscendingAddress := by
  refine scrape_render fun st hst v hv => ?_
  obtain ⟨h, hget⟩ := Registry.mem_byAscendingAddress.1 hst
  obtain ⟨l, -, hl⟩ := hrun.exists_life hget
  exact unmarked_catalog _ (hd.catalog _ (hl.keepsModes hd v hv))

theorem exposition_of_run (hd : Equipped d t) {observers : Observers} {past : List Deed}
    (hrun : Run ⟨⟨d, t, observers⟩, {}⟩ past s) : s.Exposition (scrape (render s.stations)) := by
  have hsamples := scrape_render_of_run hd hrun
  exact
    { samples := hsamples
      count := by rw [hsamples, filter_samples_count, Registry.length_byAscendingAddress]
      length := Registry.length_byAscendingAddress _
      registered := fun st => Registry.mem_byAscendingAddress
      ascending := hrun.lives.1.stations.ascending
      families_length := rfl
      family := fun f hf => by rw [hsamples, filter_samples hf] }

/-! ## One station -/

section

variable {xs : List Sample} {st : Station}

theorem snapshot_of_get? (hst : s.stations.get? h = some st) {v : TxVector} (hv : st.cached = some v) :
    Snapshot s.stations st.address v := by
  refine ⟨_, st.toJson, rfl, List.mem_map_of_mem (Registry.mem_byAscendingAddress.2 ⟨h, hst⟩), rfl, ?_, ?_⟩
  · show some (Json.ofOption (fun v => .str v.mode.name) st.cached) = _
    rw [hv]
    rfl
  · show some (Json.ofOption TxVector.toJson st.cached) = _
    rw [hv]
    rfl

theorem toString_ne_zero {n : Nat} (h : 0 < n) : toString n ≠ "0" := by
  intro heq
  exact Nat.ne_of_gt h (Nat.repr_inj.1 heq)

/-- **The flag of the cache foretells the next selection.** -/
theorem selectData_foretold (hd : Equipped d t) (observers : Observers) (st : Station) :
    ∃ chosen, Selector.selectData ⟨d, t, observers⟩ st = .ok chosen ∧
      (st.isCacheValid = true ∧ chosen.station.counters.cacheHits = st.counters.cacheHits + 1 ∧
          chosen.station.counters.freshSearches = st.counters.freshSearches ∨
        st.isCacheValid = false ∧ chosen.station.counters.cacheHits = st.counters.cacheHits ∧
          chosen.station.counters.freshSearches = st.counters.freshSearches + 1) := by
  cases hv : st.reusable? with
  | some v =>
    have hvalid : st.isCacheValid = true := by
      rw [← Bool.not_eq_false, ← Station.reusable?_eq_none_iff, hv]
      simp
    exact ⟨_, Selector.selectData_of_reusable hv, .inl ⟨hvalid, rfl, rfl⟩⟩
  | none =>
    refine ⟨_, Selector.selectData_of_search hd.faultless hd.covers observers hv,
      .inr ⟨Station.reusable?_eq_none_iff.1 hv, ?_⟩⟩
    cases t.choose d st.capabilities st.observed with
    | none => exact ⟨rfl, rfl⟩
    | some v =>
      dsimp only
      rw [Selector.adopt_eq]
      exact ⟨rfl, rfl⟩

theorem exposes_of_run (hd : Equipped d t) {observers : Observers} {past : List Deed}
    (hrun : Run ⟨⟨d, t, observers⟩, {}⟩ past s) (hst : s.stations.get? h = some st) :
    s.Exposes (scrape (render s.stations)) h st := by
  obtain ⟨observers, hselector⟩ := hrun.lives.1.selector
  obtain ⟨l, -, hl⟩ := hrun.exists_life hst
  have hnodup := hrun.lives.1.stations.nodup_byAscendingAddress
  have hmem := Registry.mem_byAscendingAddress.2 ⟨h, hst⟩
  rw [scrape_render_of_run hd hrun]
  -- the families by their places in the list
  have hvalue := fun (i : Nat) (hi : i < families.length) => values_samples hnodup hmem (List.getElem_mem hi)
  refine
    { single := fun f hf => about_samples hnodup hmem hf
      mode := ?_
      valid := ?_
      searches := ⟨hvalue 5 (by decide), hvalue 6 (by decide), hvalue 3 (by decide), hl.tallied.searches⟩ }
  · have hrate : st.cachedRate = st.cached.elim 0 TxVector.dataRate := hl.rated
    have hshown : values "rateadapt_station_data_rate_bps" st.address (Metrics.samples s.stations.byAscendingAddress) =
        [toString st.cachedRate] := hvalue 1 (by decide)
    rw [hrate] at hshown
    rw [about_samples_mode hnodup hmem, modeSample?]
    cases hv : st.cached with
    | none =>
      rw [hv] at hshown
      exact .inl ⟨hshown, rfl⟩
    | some v =>
      rw [hv] at hshown
      have hpos := (hl.keepsSendable hd v hv).dataRate_pos
      exact .inr ⟨v, hshown, toString_ne_zero hpos, rfl, snapshot_of_get? hst hv⟩
  · obtain ⟨chosen, hchosen, hcounters⟩ := selectData_foretold hd observers st
    have hflag : values "rateadapt_station_cache_valid" st.address (Metrics.samples s.stations.byAscendingAddress) =
        [if st.isCacheValid then "1" else "0"] := hvalue 2 (by decide)
    refine ⟨_, chosen.station, selectData_of_get? hst (by rw [hselector]; exact hchosen),
      Registry.get?_modify_self hst _, ?_⟩
    rcases hcounters with ⟨hvalid, hcounters⟩ | ⟨hvalid, hcounters⟩
    · rw [hvalid] at hflag
      exact .inl ⟨hflag, hcounters⟩
    · rw [hvalid] at hflag
      exact .inr ⟨hflag, hcounters⟩

end

end RateControl

end LinkAdaptation

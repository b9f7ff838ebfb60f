import LinkAdaptation.Proofs.Station.Rendering
import LinkAdaptation.Proofs.Station.Scraping
import Mathlib.Data.List.Nodup
/-!
# Samples by name and by peer

The samples of all stations stand one after the other, family by family.  Those of one name are the samples of one family,
one for each station (`filter_samples`), and where no two stations share an address only one of them is about a peer
(`about_samples`).
-/
namespace LinkAdaptation
namespace Metrics

/-! ## By name -/

/-- Where all keys differ, an element parts the others from it. -/
theorem exists_parts {key : α → κ} {l : List α} {a : α} (hnodup : (l.map key).Nodup) (ha : a ∈ l) :
    ∃ l₁ l₂, l = l₁ ++ a :: l₂ ∧ (∀ b ∈ l₁, key b ≠ key a) ∧ ∀ b ∈ l₂, key b ≠ key a := by
  obtain ⟨l₁, l₂, rfl⟩ := List.append_of_mem ha
  rw [List.map_append, List.map_cons, List.nodup_middle, List.nodup_cons, ← List.map_append] at hnodup
  have hne : ∀ b ∈ l₁ ++ l₂, key b ≠ key a := fun b hb heq => hnodup.1 (List.mem_map.2 ⟨b, hb, heq⟩)
  exact ⟨l₁, l₂, rfl, fun b hb => hne b (List.mem_append_left _ hb), fun b hb => hne b (List.mem_append_right _ hb)⟩

theorem nodup_names : (families.map (·.name)).Nodup := by
  decide

theorem name_ne {f : Family} (hf : f ∈ families) : f.name ≠ "rateadapt_stations" ∧ f.name ≠ "rateadapt_station_mode" := by
  have hall : ∀ n ∈ families.map (·.name), n ≠ "rateadapt_stations" ∧ n ≠ "rateadapt_station_mode" := by decide
  exact hall _ (List.mem_map_of_mem hf)

theorem filter_map_sample (f : Family) (name : String) (sts : List Station) :
    (sts.map f.sample).filter (·.name == name) = if f.name = name then sts.map f.sample else [] := by
  by_cases hname : f.name = name
  · rw [if_pos hname, List.filter_eq_self]
    rintro x hx
    obtain ⟨s, -, rfl⟩ := List.mem_map.1 hx
    exact beq_iff_eq.2 hname
  · rw [if_neg hname, List.filter_eq_nil_iff]
    rintro x hx heq
    obtain ⟨s, -, rfl⟩ := List.mem_map.1 hx
    exact hname (beq_iff_eq.1 heq)

theorem name_of_modeSample {sts : List Station} {x : Sample} (hx : x ∈ sts.filterMap modeSample?) :
    x.name = "rateadapt_station_mode" := by
  obtain ⟨s, -, hs⟩ := List.mem_filterMap.1 hx
  obtain ⟨v, -, rfl⟩ := Option.map_eq_some_iff.1 hs
  rfl

theorem filter_modes_of_ne {name : String} (hname : name ≠ "rateadapt_station_mode") (sts : List Station) :
    (sts.filterMap modeSample?).filter (·.name == name) = [] :=
  List.filter_eq_nil_iff.2 fun _ hx heq => hname ((beq_iff_eq.1 heq).symm.trans (name_of_modeSample hx))

/-- **The samples of a family stand there once for each station**, in the order of the stations. -/
theorem filter_samples {f : Family} (hf : f ∈ families) (sts : List Station) :
    (samples sts).filter (·.name == f.name) = sts.map f.sample := by
  obtain ⟨hcount, hmode⟩ := name_ne hf
  rw [samples, List.cons_append, List.filter_cons_of_neg (by simpa using hcount.symm), List.filter_append,
    List.filter_flatMap, filter_modes_of_ne hmode, List.append_nil]
  simp only [filter_map_sample]
  obtain ⟨before, behind, hsplit, hbefore, hbehind⟩ := exists_parts nodup_names hf
  rw [hsplit, List.flatMap_append, List.flatMap_cons, if_pos rfl,
    List.flatMap_eq_nil_iff.2 fun g hg => if_neg (hbefore g hg),
    List.flatMap_eq_nil_iff.2 fun g hg => if_neg (hbehind g hg), List.nil_append, List.append_nil]

theorem filter_families_of_ne {name : String} (hname : ∀ f ∈ families, f.name ≠ name) (sts : List Station) :
    (families.flatMap fun f => sts.map f.sample).filter (·.name == name) = [] := by
  rw [List.filter_flatMap, List.flatMap_eq_nil_iff]
  intro f hf
  rw [filter_map_sample, if_neg (hname f hf)]

theorem filter_samples_mode (sts : List Station) :
    (samples sts).filter (·.name == "rateadapt_station_mode") = sts.filterMap modeSample? := by
  rw [samples, List.cons_append, List.filter_cons_of_neg (by simp), List.filter_append,
    filter_families_of_ne fun f hf => (name_ne hf).2, List.nil_append, List.filter_eq_self]
  exact fun x hx => beq_iff_eq.2 (name_of_modeSample hx)

theorem filter_samples_count (sts : List Station) :
    (samples sts).filter (·.name == "rateadapt_stations") = [⟨"rateadapt_stations", [], toString sts.length⟩] := by
  rw [samples, List.cons_append, List.filter_cons_of_pos rfl, List.filter_append,
    filter_families_of_ne fun f hf => (name_ne hf).1, filter_modes_of_ne (by decide), List.append_nil]

/-! ## By peer -/

def Sample.isAbout (a : MacAddress) (x : Sample) : Bool :=
  x.labels.lookup "peer" == some a.toText

/-- The samples of one name that are about one peer. -/
def about (name : String) (a : MacAddress) (xs : List Sample) : List Sample :=
  (xs.filter (·.name == name)).filter (·.isAbout a)

def values (name : String) (a : MacAddress) (xs : List Sample) : List String :=
  (about name a xs).map (·.value)

theorem isAbout_sample {f : Family} {s : Station} {a : MacAddress} : (f.sample s).isAbout a = decide (s.address = a) := by
  rw [Bool.eq_iff_iff, decide_eq_true_iff, ← MacAddress.toText_inj]
  simp [Sample.isAbout, Family.sample]

theorem isAbout_modeSample {s : Station} {x : Sample} (hx : modeSample? s = some x) {a : MacAddress} :
    x.isAbout a = decide (s.address = a) := by
  obtain ⟨v, -, rfl⟩ := Option.map_eq_some_iff.1 hx
  rw [Bool.eq_iff_iff, decide_eq_true_iff, ← MacAddress.toText_inj]
  simp [Sample.isAbout]

/-- Where no two stations share an address, one has that of each of them. -/
theorem filter_address {sts : List Station} {st : Station} (hnodup : (sts.map (·.address)).Nodup) (hst : st ∈ sts) :
    sts.filter (fun s => s.address = st.address) = [st] := by
  obtain ⟨before, behind, rfl, hbefore, hbehind⟩ := exists_parts hnodup hst
  rw [List.filter_append, List.filter_cons_of_pos (by simp),
    List.filter_eq_nil_iff.2 fun s hs heq => hbefore s hs (of_decide_eq_true heq),
    List.filter_eq_nil_iff.2 fun s hs heq => hbehind s hs (of_decide_eq_true heq), List.nil_append]

section

variable {sts : List Station} {st : Station} (hnodup : (sts.map (·.address)).Nodup) (hst : st ∈ sts)
include hnodup hst

theorem about_samples {f : Family} (hf : f ∈ families) :
    about f.name st.address (samples sts) = [f.sample st] := by
  rw [about, filter_samples hf, List.filter_map]
  simp only [Function.comp_def, isAbout_sample]
  rw [filter_address hnodup hst]
  rfl

theorem values_samples {f : Family} (hf : f ∈ families) : values f.name st.address (samples sts) = [f.value st] := by
  rw [values, about_samples hnodup hst hf]
  rfl

theorem about_samples_mode :
    about "rateadapt_station_mode" st.address (samples sts) = (modeSample? st).toList := by
  have hpeer : ∀ s ∈ sts, (modeSample? s).filter (·.isAbout st.address) =
      if s.address = st.address then modeSample? s else none := by
    intro s _
    cases hx : modeSample? s with
    | none => rw [Option.filter_none, ite_self]
    | some x => rw [Option.filter_some, isAbout_modeSample hx]; simp only [decide_eq_true_iff]
  have hfilter := List.filterMap_filter (p := fun s : Station => decide (s.address = st.address)) (f := modeSample?)
    (l := sts)
  simp only [decide_eq_true_iff] at hfilter
  rw [about, filter_samples_mode, List.filter_filterMap, List.filterMap_congr hpeer, ← hfilter, filter_address hnodup hst]
  cases hx : modeSample? st <;> simp [hx]

end

end Metrics
end LinkAdaptation

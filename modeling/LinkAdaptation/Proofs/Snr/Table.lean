import LinkAdaptation.Proofs.Binary64.Subtraction
import LinkAdaptation.Proofs.Snr.Coverage
/-!
# Drawing up the table

A table of thresholds can be drawn up in one pass over the configurations of a device: an index keeps the place of each key
among the entries, a configuration whose key has a place is passed over, and the first one without a threshold ends the
pass.  The pass and `Thresholds.build` come to the same entries and the same fault (`Thresholds.build_eq_addAll`), and the
index always points at the entry of its own key (`Draft.Sound`).  What comes out for any device, model and target is
`Thresholds.build_decided`.
-/
namespace LinkAdaptation

open Binary64 (lt_or_le not_lt_of_le isNaN_of_isFinite)

/-! ## First configurations of a key -/

/-- `v` is the first configuration of the list with its key. -/
def FirstOfKey (vs : List TxVector) (v : TxVector) : Prop :=
  vs.find? (·.key = v.key) = some v

theorem nodup_keys_distinctKeys (vs : List TxVector) : ((distinctKeys vs).map TxVector.key).Nodup := by
  induction vs with
  | nil => exact List.nodup_nil
  | cons v vs ih =>
    rw [distinctKeys, List.map_cons, List.nodup_cons]
    refine ⟨fun hmem => ?_, ih.sublist (List.filter_sublist.map _)⟩
    obtain ⟨w, hw, hkey⟩ := List.mem_map.1 hmem
    have hne := (List.mem_filter.1 hw).2
    simp [hkey] at hne

theorem mem_distinctKeys {vs : List TxVector} {v : TxVector} : v ∈ distinctKeys vs ↔ FirstOfKey vs v := by
  rw [FirstOfKey, ← find?_distinctKeys]
  refine ⟨fun hv => ?_, List.mem_of_find?_eq_some⟩
  cases hfirst : (distinctKeys vs).find? (·.key = v.key) with
  | none => simpa using List.find?_eq_none.1 hfirst v hv
  | some w =>
    have hkey : w.key = v.key := by simpa using List.find?_some hfirst
    have hw := List.mem_of_find?_eq_some hfirst
    rw [List.inj_on_of_nodup_map (nodup_keys_distinctKeys vs) hw hv hkey]

theorem distinctKeys_filter (k : ThresholdKey) (vs : List TxVector) :
    distinctKeys (vs.filter (·.key ≠ k)) = (distinctKeys vs).filter (·.key ≠ k) := by
  induction vs with
  | nil => rfl
  | cons w vs ih =>
    by_cases hw : w.key = k
    · rw [List.filter_cons_of_neg (by simpa using hw), ih, distinctKeys, List.filter_cons_of_neg (by simpa using hw), hw,
        List.filter_filter]
      simp
    · rw [List.filter_cons_of_pos (by simpa using hw), distinctKeys, ih, distinctKeys,
        List.filter_cons_of_pos (by simpa using hw), List.filter_filter, List.filter_filter]
      simp only [Bool.and_comm]

/-- **The first configurations of each key are what is left without the later repetitions of a key.** -/
theorem distinctKeys_eq_eraseDupsBy (vs : List TxVector) :
    distinctKeys vs = vs.eraseDupsBy fun w v => w.key == v.key := by
  -- Both recur on a filtered tail, hence by length.
  induction hn : vs.length using Nat.strong_induction_on generalizing vs with
  | h n ih =>
    cases vs with
    | nil => rfl
    | cons v vs =>
      have hlt : (vs.filter (·.key ≠ v.key)).length < n := by
        rw [← hn]
        exact Nat.lt_succ_of_le (List.length_filter_le _ _)
      rw [distinctKeys, List.eraseDupsBy_cons, ← distinctKeys_filter, ih _ hlt _ rfl]
      congr 3
      funext w
      simp

namespace Thresholds

variable {d : Device} {model : ErrorModel} {target : Float} {vs : List TxVector} {v : TxVector}

/-- The model has no threshold for a configuration: its least SNR does not exist, is not finite or is negative. -/
def Unsolvable (model : ErrorModel) (target : Float) (v : TxVector) : Prop :=
  ∀ snr, model.leastSnr v target = some snr → snr.isFinite = false ∨ snr < 0.0

theorem unsolvable_iff : Unsolvable model target v ↔ ∀ e, solve model target v ≠ .ok e := by
  constructor
  · intro hun e he
    obtain ⟨rfl, hsnr, hfinite, hnonneg⟩ := solve_eq_ok_iff.1 he
    rcases hun _ hsnr with hinf | hneg
    · rw [hfinite] at hinf
      cases hinf
    · exact not_lt_of_le hnonneg hneg
  · intro hnone snr hsnr
    cases hfinite : snr.isFinite with
    | false => exact Or.inl rfl
    | true =>
      refine Or.inr ((lt_or_le (isNaN_of_isFinite hfinite) (by decide)).resolve_right fun hnonneg => ?_)
      exact hnone (v, snr) (solve_eq_ok_iff.2 ⟨rfl, hsnr, hfinite, hnonneg⟩)

theorem fault_of_solve {fault : SetupFault} (h : solve model target v = .error fault) :
    fault = .unreachableThreshold v := by
  unfold solve at h
  split at h
  · split at h <;> cases h
    rfl
  · cases h
    rfl

/-- **Solving fails exactly where the model has no threshold**, and names the configuration. -/
theorem solve_eq_error_iff {fault : SetupFault} :
    solve model target v = .error fault ↔ fault = .unreachableThreshold v ∧ Unsolvable model target v := by
  rw [unsolvable_iff]
  cases hsolve : solve model target v with
  | ok e => simp
  | error fault' =>
    rw [fault_of_solve hsolve]
    simp [eq_comm]

end Thresholds

/-! ## One pass -/

/-- A table while it is drawn up: the entries so far, in order, and the place of each key among them. -/
structure Draft where
  entries : Array (TxVector × Float) := #[]
  places : List (ThresholdKey × Nat) := []

namespace Draft

open Thresholds (solve)

variable {model : ErrorModel} {target : Float} {t t' : Draft} {vs : List TxVector} {v : TxVector}

/-- One configuration of the pass; a key that has a place keeps it. -/
def add (model : ErrorModel) (target : Float) (t : Draft) (v : TxVector) : Except SetupFault Draft :=
  match t.places.lookup v.key with
  | some _ => .ok t
  | none => do
    let e ← solve model target v
    return ⟨t.entries.push e, (v.key, t.entries.size) :: t.places⟩

/-- The threshold at the place of a configuration's key. -/
def lookup? (t : Draft) (v : TxVector) : Option Float :=
  (t.places.lookup v.key).bind fun i => t.entries[i]?.map (·.2)

/-- The index holds the place of each key that has an entry, and of no other one. -/
def Sound (t : Draft) : Prop :=
  ∀ k i, t.places.lookup k = some i ↔ ∃ e, t.entries[i]? = some e ∧ e.1.key = k

theorem sound_empty : ({} : Draft).Sound := by
  intro k i
  simp

theorem add_of_placed {i : Nat} (h : t.places.lookup v.key = some i) : add model target t v = .ok t := by
  unfold add
  rw [h]

theorem add_of_new (h : t.places.lookup v.key = none) : add model target t v =
    (solve model target v).map fun e => ⟨t.entries.push e, (v.key, t.entries.size) :: t.places⟩ := by
  unfold add
  rw [h]
  cases solve model target v <;> rfl

theorem lookup_cons_place (k k' : ThresholdKey) (i : Nat) (places : List (ThresholdKey × Nat)) :
    ((k, i) :: places).lookup k' = if k' = k then some i else places.lookup k' := by
  rw [List.lookup_cons]
  by_cases h : k' = k
  · rw [beq_iff_eq.2 h, if_pos h]
  · rw [beq_eq_false_iff_ne.2 h, if_neg h]

/-- A new entry keeps the index right: its key had no entry before, and no place moves. -/
theorem Sound.push (ht : t.Sound) {e : TxVector × Float} (h : t.places.lookup e.1.key = none) :
    Draft.Sound ⟨t.entries.push e, (e.1.key, t.entries.size) :: t.places⟩ := by
  intro k i
  have hnew : ∀ e', t.entries[i]? = some e' → e'.1.key ≠ e.1.key := by
    intro e' he' hkey
    have := (ht e.1.key i).2 ⟨e', he', hkey⟩
    rw [h] at this
    cases this
  rw [lookup_cons_place, Array.getElem?_push]
  by_cases hk : k = e.1.key
  · rw [if_pos hk]
    constructor
    · intro hi
      cases hi
      exact ⟨e, if_pos rfl, hk.symm⟩
    · rintro ⟨e', he', hkey⟩
      split at he'
      · rename_i hi
        rw [hi]
      · exact absurd (hkey.trans hk) (hnew e' he')
  · rw [if_neg hk, ht k i]
    constructor
    · rintro ⟨e', he', hkey⟩
      have hlt := (Array.getElem?_eq_some_iff.1 he').1
      exact ⟨e', by rw [if_neg (Nat.ne_of_lt hlt)]; exact he', hkey⟩
    · rintro ⟨e', he', hkey⟩
      split at he'
      · cases he'
        exact absurd hkey.symm hk
      · exact ⟨e', he', hkey⟩

/-- **What one configuration does to a table**: nothing if its key has a place, else it gets an entry behind the others. -/
theorem add_cases (h : add model target t v = .ok t') :
    ((t.places.lookup v.key).isSome = true ∧ t' = t) ∨
      (t.places.lookup v.key = none ∧ ∃ e, solve model target v = .ok e ∧
        t' = ⟨t.entries.push e, (v.key, t.entries.size) :: t.places⟩) := by
  cases hplace : t.places.lookup v.key with
  | some i =>
    rw [add_of_placed hplace] at h
    exact Or.inl ⟨rfl, (Except.ok.inj h).symm⟩
  | none =>
    rw [add_of_new hplace] at h
    cases hsolve : solve model target v with
    | error fault =>
      rw [hsolve] at h
      cases h
    | ok e =>
      rw [hsolve] at h
      exact Or.inr ⟨rfl, e, rfl, (Except.ok.inj h).symm⟩

theorem add_eq_error_iff {fault : SetupFault} : add model target t v = .error fault ↔
    t.places.lookup v.key = none ∧ solve model target v = .error fault := by
  cases hplace : t.places.lookup v.key with
  | some i =>
    rw [add_of_placed hplace]
    simp
  | none =>
    rw [add_of_new hplace]
    cases solve model target v <;> simp [Except.map]

theorem Sound.add (ht : t.Sound) (h : add model target t v = .ok t') : t'.Sound := by
  obtain ⟨-, rfl⟩ | ⟨hnone, e, hsolve, rfl⟩ := add_cases h
  · exact ht
  · obtain ⟨rfl, -⟩ := Thresholds.solve_eq_ok_iff.1 hsolve
    exact ht.push hnone

/-- The index knows a key after a configuration if it knew it before or the configuration has it. -/
theorem isSome_place_add (h : add model target t v = .ok t') (k : ThresholdKey) :
    (t'.places.lookup k).isSome = true ↔ (t.places.lookup k).isSome = true ∨ v.key = k := by
  obtain ⟨hsome, rfl⟩ | ⟨-, e, -, rfl⟩ := add_cases h
  · refine ⟨Or.inl, ?_⟩
    rintro (hk | rfl)
    · exact hk
    · exact hsome
  · rw [lookup_cons_place]
    split
    · rename_i hk
      simp [hk]
    · rename_i hk
      simp [Ne.symm hk]

/-- **The pass**: all configurations one after another. -/
def addAll (model : ErrorModel) (target : Float) (t : Draft) (vs : List TxVector) : Except SetupFault Draft :=
  vs.foldlM (add model target) t

theorem addAll_cons : addAll model target t (v :: vs) = (add model target t v >>= fun t' => addAll model target t' vs) :=
  List.foldlM_cons

theorem Sound.addAll (ht : t.Sound) (h : addAll model target t vs = .ok t') : t'.Sound := by
  induction vs generalizing t with
  | nil =>
    cases h
    exact ht
  | cons v vs ih =>
    obtain ⟨next, hnext, hrest⟩ := Attempt.bind_eq_ok.1 (addAll_cons ▸ h)
    exact ih (ht.add hnext) hrest

theorem isSome_place_addAll (h : addAll model target t vs = .ok t') (k : ThresholdKey) :
    (t'.places.lookup k).isSome = true ↔ (t.places.lookup k).isSome = true ∨ ∃ v ∈ vs, v.key = k := by
  induction vs generalizing t with
  | nil =>
    cases h
    simp
  | cons v vs ih =>
    obtain ⟨next, hnext, hrest⟩ := Attempt.bind_eq_ok.1 (addAll_cons ▸ h)
    rw [ih hrest, isSome_place_add hnext, or_assoc]
    simp

/-- The first configurations of the keys that have no place yet. -/
def unplaced (places : List (ThresholdKey × Nat)) (vs : List TxVector) : List TxVector :=
  (distinctKeys vs).filter fun v => (places.lookup v.key).isNone

theorem unplaced_nil (vs : List TxVector) : unplaced [] vs = distinctKeys vs :=
  List.filter_eq_self.2 fun _ _ => rfl

theorem unplaced_cons_of_placed {places : List (ThresholdKey × Nat)} {i : Nat} (h : places.lookup v.key = some i) :
    unplaced places (v :: vs) = unplaced places vs := by
  unfold unplaced
  rw [distinctKeys, List.filter_cons_of_neg (by simp [h]), List.filter_filter]
  congr 1
  funext w
  by_cases hw : w.key = v.key <;> simp [hw, h]

theorem unplaced_cons_of_new {places : List (ThresholdKey × Nat)} (h : places.lookup v.key = none) (i : Nat) :
    unplaced places (v :: vs) = v :: unplaced ((v.key, i) :: places) vs := by
  unfold unplaced
  rw [distinctKeys, List.filter_cons_of_pos (by simp [h]), List.filter_filter]
  congr 2
  funext w
  rw [lookup_cons_place]
  by_cases hw : w.key = v.key <;> simp [hw]

/-- **The pass solves the first configuration of each key that has no place yet**, in order. -/
theorem entries_addAll (t : Draft) (vs : List TxVector) :
    (addAll model target t vs).map (·.entries.toList) =
      ((unplaced t.places vs).mapM (solve model target)).map (t.entries.toList ++ ·) := by
  induction vs generalizing t with
  | nil => exact congrArg Except.ok (List.append_nil _).symm
  | cons v vs ih =>
    rw [addAll_cons]
    cases hplace : t.places.lookup v.key with
    | some i =>
      rw [add_of_placed hplace, unplaced_cons_of_placed hplace]
      exact ih t
    | none =>
      rw [add_of_new hplace, unplaced_cons_of_new hplace t.entries.size, List.mapM_cons]
      cases solve model target v with
      | error fault => rfl
      | ok e =>
        -- What is left belongs to a table that has one entry more.
        refine (ih _).trans ?_
        cases (unplaced ((v.key, t.entries.size) :: t.places) vs).mapM (solve model target) with
        | error fault => rfl
        | ok es => simp [Except.map, bind, Except.bind, pure, Except.pure]

/-- In a table whose index is right the place of a key leads to the entry that a search for the key finds. -/
theorem Sound.lookup?_eq (ht : t.Sound) (v : TxVector) :
    t.lookup? v = (t.entries.toList.find? fun e => e.1.key = v.key).map (·.2) := by
  unfold lookup?
  cases hfirst : t.entries.toList.find? fun e => e.1.key = v.key with
  | none =>
    cases hplace : t.places.lookup v.key with
    | none => rfl
    | some i =>
      obtain ⟨e, he, hkey⟩ := (ht v.key i).1 hplace
      have hmem : e ∈ t.entries.toList := Array.mem_toList_iff.2 (Array.mem_of_getElem? he)
      have := List.find?_eq_none.1 hfirst e hmem
      simp [hkey] at this
  | some e =>
    have hkey : e.1.key = v.key := by simpa using List.find?_some hfirst
    obtain ⟨i, hi⟩ := List.mem_iff_getElem?.1 (List.mem_of_find?_eq_some hfirst)
    rw [Array.getElem?_toList] at hi
    rw [(ht v.key i).2 ⟨e, hi, hkey⟩, Option.bind_some, hi]

/-- The pass ends at the first configuration that cannot be added. -/
theorem addAll_eq_error_iff {fault : SetupFault} : addAll model target t vs = .error fault ↔
    ∃ before v after t', vs = before ++ v :: after ∧ addAll model target t before = .ok t' ∧
      add model target t' v = .error fault := by
  constructor
  · intro h
    induction vs generalizing t with
    | nil => cases h
    | cons v vs ih =>
      rw [addAll_cons] at h
      cases hnext : add model target t v with
      | error fault' =>
        rw [hnext] at h
        cases h
        exact ⟨[], v, vs, t, rfl, rfl, hnext⟩
      | ok next =>
        rw [hnext] at h
        obtain ⟨before, w, after, t', rfl, hbefore, hw⟩ := ih h
        exact ⟨v :: before, w, after, t', rfl, by rw [addAll_cons, hnext]; exact hbefore, hw⟩
  · rintro ⟨before, v, after, t', rfl, hbefore, hv⟩
    unfold addAll at hbefore ⊢
    rw [List.foldlM_append, hbefore]
    show (List.foldlM (Draft.add model target) t' (v :: after)) = _
    rw [List.foldlM_cons, hv]
    rfl

theorem entries_addAll_empty (vs : List TxVector) :
    (addAll model target {} vs).map (·.entries.toList) = (distinctKeys vs).mapM (solve model target) := by
  rw [entries_addAll, unplaced_nil]
  cases (distinctKeys vs).mapM (solve model target) <;> rfl

end Draft

/-! ## What comes out -/

namespace Thresholds

variable {d : Device} {model : ErrorModel} {target : Float} {t : Thresholds} {vs : List TxVector} {v : TxVector}

theorem isProbability_iff : isProbability target = true ↔ 0.0 < target ∧ target < 1.0 := by
  simp [isProbability]

/-- **A table is drawn up in one pass.** -/
theorem build_eq_addAll (htarget : isProbability target = true) : build d model target =
    (Draft.addAll model target {} d.vectors).map fun draft => ⟨draft.entries.toList, target⟩ := by
  unfold build
  rw [if_pos htarget, ← Draft.entries_addAll_empty]
  cases Draft.addAll model target {} d.vectors <;> rfl

/-- The first configuration, among the first ones of their keys, for which the model has no threshold. -/
def EarliestUnsolvable (model : ErrorModel) (target : Float) (vs : List TxVector) (v : TxVector) : Prop :=
  ∃ before after, vs = before ++ v :: after ∧ (∀ w ∈ before, w.key ≠ v.key) ∧ Unsolvable model target v ∧
    ∀ w, FirstOfKey before w → ¬ Unsolvable model target w

theorem EarliestUnsolvable.unsolvable (h : EarliestUnsolvable model target vs v) :
    FirstOfKey vs v ∧ Unsolvable model target v := by
  obtain ⟨before, after, rfl, hkeys, hun, -⟩ := h
  refine ⟨?_, hun⟩
  unfold FirstOfKey
  rw [List.find?_append, List.find?_eq_none.2 (by simpa using hkeys), List.find?_cons_of_pos (by simp)]
  rfl

theorem place_eq_none_iff {draft : Draft} (h : Draft.addAll model target {} vs = .ok draft) (k : ThresholdKey) :
    draft.places.lookup k = none ↔ ∀ w ∈ vs, w.key ≠ k := by
  rw [← Option.not_isSome_iff_eq_none, Draft.isSome_place_addAll h k]
  simp

theorem earliestUnsolvable_of_addAll {fault : SetupFault} (h : Draft.addAll model target {} vs = .error fault) :
    ∃ v, fault = .unreachableThreshold v ∧ EarliestUnsolvable model target vs v := by
  obtain ⟨before, v, after, draft, rfl, hbefore, hadd⟩ := Draft.addAll_eq_error_iff.1 h
  obtain ⟨hnone, hsolve⟩ := Draft.add_eq_error_iff.1 hadd
  obtain ⟨rfl, hun⟩ := solve_eq_error_iff.1 hsolve
  refine ⟨v, rfl, before, after, rfl, (place_eq_none_iff hbefore v.key).1 hnone, hun, fun w hw hun' => ?_⟩
  -- All before it were added, so each first one of them was solved.
  have hsolved := @Draft.entries_addAll_empty model target before
  rw [hbefore] at hsolved
  obtain ⟨e, -, he⟩ := Attempt.exists_answer hsolved.symm (mem_distinctKeys.2 hw)
  exact unsolvable_iff.1 hun' e he

/-- **The pass fails exactly at the earliest configuration without a threshold.** -/
theorem addAll_eq_error_iff {fault : SetupFault} : Draft.addAll model target {} vs = .error fault ↔
    ∃ v, fault = .unreachableThreshold v ∧ EarliestUnsolvable model target vs v := by
  refine ⟨earliestUnsolvable_of_addAll, ?_⟩
  rintro ⟨v, rfl, before, after, rfl, hfresh, hun, hsolvable⟩
  cases hbefore : Draft.addAll model target {} before with
  | error fault =>
    -- The pass would have ended before, at a configuration that can be solved.
    obtain ⟨w, -, hw⟩ := earliestUnsolvable_of_addAll hbefore
    exact absurd hw.unsolvable.2 (hsolvable w hw.unsolvable.1)
  | ok draft =>
    refine Draft.addAll_eq_error_iff.2 ⟨before, v, after, draft, rfl, hbefore, Draft.add_eq_error_iff.2 ⟨?_, ?_⟩⟩
    · exact (place_eq_none_iff hbefore v.key).2 hfresh
    · exact solve_eq_error_iff.2 ⟨rfl, hun⟩

/-- What a table holds that was drawn up for a list of configurations. -/
structure Tabulates (model : ErrorModel) (target : Float) (vs : List TxVector) (t : Thresholds) : Prop where
  target_eq : t.target = target
  /-- The configurations in order, without the later repetitions of a key. -/
  vectors : t.entries.map (·.1) = vs.eraseDupsBy fun w v => w.key == v.key
  solved : ∀ e ∈ t.entries, model.leastSnr e.1 target = some e.2
  distinct : (t.entries.map (·.1.key)).Nodup
  /-- A configuration whose key is listed is answered by the entry of the key, whatever its guard interval. -/
  found : ∀ c : TxVector, (∃ w ∈ vs, w.key = c.key) →
    ∃ e ∈ t.entries, e.1.key = c.key ∧ t.lookup? c = some e.2 ∧ t.get c = .ok e.2
  missing : ∀ c : TxVector, (∀ w ∈ vs, w.key ≠ c.key) → t.lookup? c = none ∧ t.get c = .error ⟨c.key⟩
  /-- In the pass the index leads to the entry of each key, so that a look-up through it answers the same. -/
  indexed : ∃ draft, Draft.addAll model target {} vs = .ok draft ∧ draft.entries.toList = t.entries ∧ draft.Sound ∧
    ∀ c, draft.lookup? c = t.lookup? c

theorem entries_of_solved {es : List (TxVector × Float)}
    (h : List.Forall₂ (fun v e => solve model target v = .ok e) vs es) :
    es.map (·.1) = vs ∧ ∀ e ∈ es, model.leastSnr e.1 target = some e.2 := by
  induction h with
  | nil => simp
  | @cons v e vs es hv _ ih =>
    obtain ⟨rfl, hsnr, -⟩ := solve_eq_ok_iff.1 hv
    exact ⟨by rw [List.map_cons, ih.1], List.forall_mem_cons.2 ⟨hsnr, ih.2⟩⟩

theorem get_eq_error {c : TxVector} (h : t.lookup? c = none) : t.get c = .error ⟨c.key⟩ := by
  unfold get
  rw [h]

/-- **A table that was built holds what it has to.** -/
theorem tabulates_of_build (h : build d model target = .ok t) : Tabulates model target d.vectors t := by
  obtain ⟨hprobability, hsolved, htarget⟩ := build_eq_ok_iff.1 h
  obtain ⟨hvectors, hleast⟩ := entries_of_solved (Attempt.mapM_eq_ok_iff.1 hsolved)
  refine ⟨htarget, by rw [hvectors, distinctKeys_eq_eraseDupsBy], hleast, ?_, fun c hc => ?_, fun c hc => ?_, ?_⟩
  · have := nodup_keys_distinctKeys d.vectors
    rwa [← hvectors, List.map_map] at this
  · obtain ⟨w, hw, hkey⟩ := hc
    obtain ⟨snr, hsnr⟩ := Option.isSome_iff_exists.1 (covers_of_build h w hw)
    rw [lookup?_congr hkey] at hsnr
    obtain ⟨e, he, rfl⟩ := Option.map_eq_some_iff.1 hsnr
    exact ⟨e, List.mem_of_find?_eq_some he, by simpa using List.find?_some he, hsnr, get_eq_ok_iff.2 hsnr⟩
  · have hnone : t.lookup? c = none := by
      rw [lookup?_of_build h, List.find?_eq_none.2 (by simpa using hc)]
      rfl
    exact ⟨hnone, get_eq_error hnone⟩
  · rw [build_eq_addAll hprobability] at h
    cases hdraft : Draft.addAll model target {} d.vectors with
    | error fault =>
      rw [hdraft] at h
      cases h
    | ok draft =>
      rw [hdraft] at h
      cases h
      have hsound := Draft.sound_empty.addAll hdraft
      exact ⟨draft, rfl, rfl, hsound, hsound.lookup?_eq⟩

/-- **How a table is built**, for any device, model and target.  The target is looked at first; then the earliest
configuration without a threshold, among the first ones of their keys, is the fault; then there is a table, which holds the
first configuration of each key with its least SNR and answers for every key of the device, and for no other one. -/
theorem build_decided (d : Device) (model : ErrorModel) (target : Float) :
    (build d model target = .error (.invalidTarget target) ↔ ¬ (0.0 < target ∧ target < 1.0)) ∧
    (0.0 < target ∧ target < 1.0 →
      ((∃ v, build d model target = .error (.unreachableThreshold v)) ↔
        ∃ v, FirstOfKey d.vectors v ∧ Unsolvable model target v) ∧
      (∀ v, build d model target = .error (.unreachableThreshold v) ↔ EarliestUnsolvable model target d.vectors v) ∧
      ((∀ v, FirstOfKey d.vectors v → ¬ Unsolvable model target v) →
        ∃ t, build d model target = .ok t ∧ Tabulates model target d.vectors t)) := by
  have hfaults : isProbability target = true → ∀ fault, build d model target = .error fault ↔
      ∃ v, fault = .unreachableThreshold v ∧ EarliestUnsolvable model target d.vectors v := by
    intro hprobability fault
    rw [← addAll_eq_error_iff, build_eq_addAll hprobability]
    cases Draft.addAll model target {} d.vectors <;> simp [Except.map]
  rw [← isProbability_iff]
  refine ⟨⟨fun h hprobability => ?_, fun h => if_neg h⟩, fun hprobability => ⟨⟨?_, ?_⟩, fun v => ?_, fun hall => ?_⟩⟩
  · obtain ⟨v, hv, -⟩ := (hfaults hprobability _).1 h
    cases hv
  · rintro ⟨v, hv⟩
    obtain ⟨w, -, hw⟩ := (hfaults hprobability _).1 hv
    exact ⟨w, hw.unsolvable⟩
  · rintro ⟨v, hfirst, hun⟩
    cases hbuild : build d model target with
    | error fault =>
      obtain ⟨w, rfl, -⟩ := (hfaults hprobability _).1 hbuild
      exact ⟨w, rfl⟩
    | ok t =>
      obtain ⟨e, -, he⟩ := Attempt.exists_answer (build_eq_ok_iff.1 hbuild).2.1 (mem_distinctKeys.2 hfirst)
      exact absurd he (unsolvable_iff.1 hun e)
  · rw [hfaults hprobability]
    simp
  · cases hbuild : build d model target with
    | error fault =>
      obtain ⟨w, -, hw⟩ := (hfaults hprobability _).1 hbuild
      exact absurd hw.unsolvable.2 (hall w hw.unsolvable.1)
    | ok t => exact ⟨t, rfl, tabulates_of_build hbuild⟩

/-- A device that lists one of its modes twice. -/
theorem build_decided_repeatedMode :
    let d := Device.legacy [Catalog.slowestDsss, Catalog.slowestOfdm, Catalog.slowestDsss]
    let model := ((StepCurve.empty.set Catalog.slowestDsss 2.0).set Catalog.slowestOfdm 5.0).model
    (0.0 : Float) < 0.5 ∧ (0.5 : Float) < 1.0 ∧ (∀ v, FirstOfKey d.vectors v → ¬ Unsolvable model 0.5 v) ∧
      ∃ t, build d model 0.5 = .ok t ∧ Tabulates model 0.5 d.vectors t ∧ t.size = 2 := by
  intro d model
  have hvectors : d.vectors = [.legacy Catalog.slowestDsss, .legacy Catalog.slowestOfdm, .legacy Catalog.slowestDsss] := by
    decide
  have hdsss : solve model 0.5 (.legacy Catalog.slowestDsss) = .ok (.legacy Catalog.slowestDsss, 2.0) :=
    solve_eq_ok_iff.2 ⟨rfl, by decide, by decide, by decide⟩
  have hofdm : solve model 0.5 (.legacy Catalog.slowestOfdm) = .ok (.legacy Catalog.slowestOfdm, 5.0) :=
    solve_eq_ok_iff.2 ⟨rfl, by decide, by decide, by decide⟩
  have hall : ∀ v, FirstOfKey d.vectors v → ¬ Unsolvable model 0.5 v := by
    intro v hv hun
    have hmem := List.mem_of_find?_eq_some hv
    rw [hvectors] at hmem
    simp only [List.mem_cons, List.not_mem_nil, or_false] at hmem
    rcases hmem with rfl | rfl | rfl
    · exact unsolvable_iff.1 hun _ hdsss
    · exact unsolvable_iff.1 hun _ hofdm
    · exact unsolvable_iff.1 hun _ hdsss
  obtain ⟨-, -, hbuilt⟩ := (build_decided d model 0.5).2 ⟨by decide, by decide⟩
  obtain ⟨t, ht, htable⟩ := hbuilt hall
  refine ⟨by decide, by decide, hall, t, ht, htable, ?_⟩
  have hlength := congrArg List.length htable.vectors
  rw [List.length_map, hvectors] at hlength
  exact hlength

end Thresholds
end LinkAdaptation

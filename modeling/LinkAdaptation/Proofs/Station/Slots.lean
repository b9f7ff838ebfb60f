import LinkAdaptation.Station.Slots
/-!
# Laws of slots

`Slots.get?` is the only view of a table: each operation is known by what `get?` gives afterwards.  The free cells are
kept `Sound`, so a new value never takes the cell of another one.
-/
namespace LinkAdaptation
namespace Slots

/-- The free cells are there, hold nothing and are listed once. -/
structure Sound (s : Slots α) : Prop where
  lt_size : ∀ i ∈ s.vacant, i < s.cells.size
  get?_vacant : ∀ i ∈ s.vacant, s.get? i = none
  nodup : s.vacant.Nodup

variable {s : Slots α}

theorem lt_size_of_get? {i : Nat} {a : α} (h : s.get? i = some a) : i < s.cells.size := by
  unfold get? at h
  by_cases hi : i < s.cells.size
  · exact hi
  · rw [Array.getElem?_eq_none (by omega)] at h
    cases h

theorem get?_eq_none_of_le {i : Nat} (h : s.cells.size ≤ i) : s.get? i = none := by
  rw [get?, Array.getElem?_eq_none h]
  rfl

theorem get?_setIfInBounds (s : Slots α) {i : Nat} (hi : i < s.cells.size) (cell : Option α) (vacant : List Nat) (j : Nat) :
    get? ⟨s.cells.setIfInBounds i cell, vacant⟩ j = if j = i then cell else s.get? j := by
  unfold get?
  by_cases hj : j = i
  · rw [if_pos hj, hj, Array.getElem?_setIfInBounds_self_of_lt hi]
    rfl
  · rw [if_neg hj, Array.getElem?_setIfInBounds_ne (Ne.symm hj)]

theorem sound_empty : Sound ({} : Slots α) where
  lt_size := by simp
  get?_vacant := by simp
  nodup := List.nodup_nil

/-- **The next cell is free.** -/
theorem get?_nextCell (h : s.Sound) : s.get? s.nextCell = none := by
  unfold nextCell
  cases hv : s.vacant with
  | nil => exact get?_eq_none_of_le (Nat.le_refl _)
  | cons i rest => exact h.get?_vacant i (by simp [hv])

/-- **A new value stands in the next cell**, and all other cells are as before. -/
theorem get?_insert (h : s.Sound) (a : α) (i : Nat) :
    (s.insert a).get? i = if i = s.nextCell then some a else s.get? i := by
  unfold insert nextCell
  cases hv : s.vacant with
  | nil =>
    show (s.cells.push (some a))[i]?.join = if i = s.cells.size then some a else s.cells[i]?.join
    rw [Array.getElem?_push]
    by_cases hi : i = s.cells.size
    · rw [if_pos hi, if_pos hi]
      rfl
    · rw [if_neg hi, if_neg hi]
  | cons j rest => exact get?_setIfInBounds s (h.lt_size j (by simp [hv])) (some a) rest i

theorem Sound.insert (h : s.Sound) (a : α) : (s.insert a).Sound := by
  have hget := get?_insert h a
  unfold Slots.insert nextCell at *
  cases hv : s.vacant with
  | nil => exact ⟨by simp, by simp, List.nodup_nil⟩
  | cons j rest =>
    rw [hv] at hget
    have hnodup := h.nodup
    rw [hv, List.nodup_cons] at hnodup
    refine ⟨fun i hi => ?_, fun i hi => ?_, hnodup.2⟩
    · rw [Array.size_setIfInBounds]
      exact h.lt_size i (by simp [hv, show i ∈ rest from hi])
    · have hne : i ≠ j := fun heq => hnodup.1 (heq ▸ hi)
      rw [hget, List.headD_cons, if_neg hne]
      exact h.get?_vacant i (by simp [hv, show i ∈ rest from hi])

/-- **A change of one cell.** -/
theorem get?_modify (s : Slots α) (i : Nat) (f : α → α) (j : Nat) :
    (s.modify i f).get? j = if j = i then (s.get? i).map f else s.get? j := by
  unfold modify
  cases hi : s.get? i with
  | none =>
    dsimp only
    split
    · rename_i hj
      rw [hj, hi]
      rfl
    · rfl
  | some a => exact get?_setIfInBounds s (lt_size_of_get? hi) (some (f a)) s.vacant j

theorem Sound.modify (h : s.Sound) (i : Nat) (f : α → α) : (s.modify i f).Sound := by
  have hget := get?_modify s i f
  have hvacant : (s.modify i f).vacant = s.vacant := by unfold Slots.modify; split <;> rfl
  have hsize : (s.modify i f).cells.size = s.cells.size := by
    unfold Slots.modify
    split
    · exact Array.size_setIfInBounds
    · rfl
  refine ⟨fun j hj => ?_, fun j hj => ?_, by rw [hvacant]; exact h.nodup⟩
  · rw [hvacant] at hj
    rw [hsize]
    exact h.lt_size j hj
  · rw [hvacant] at hj
    rw [hget]
    split
    · rename_i hij
      rw [← hij, h.get?_vacant j hj]
      rfl
    · exact h.get?_vacant j hj

/-- **A freed cell holds nothing.** -/
theorem get?_erase (s : Slots α) (i j : Nat) : (s.erase i).get? j = if j = i then none else s.get? j := by
  unfold erase
  cases hi : s.get? i with
  | none =>
    dsimp only
    split
    · rename_i hj
      rw [hj, hi]
    · rfl
  | some a => exact get?_setIfInBounds s (lt_size_of_get? hi) none (i :: s.vacant) j

theorem Sound.erase (h : s.Sound) (i : Nat) : (s.erase i).Sound := by
  have hget := get?_erase s i
  unfold Slots.erase at *
  cases hi : s.get? i with
  | none => exact h
  | some a =>
    rw [hi] at hget
    refine ⟨fun j hj => ?_, fun j hj => ?_, List.nodup_cons.2 ⟨fun hmem => ?_, h.nodup⟩⟩
    · rw [Array.size_setIfInBounds]
      rcases List.mem_cons.1 hj with rfl | hj
      · exact lt_size_of_get? hi
      · exact h.lt_size j hj
    · rw [hget]
      split
      · rfl
      · rename_i hne
        exact h.get?_vacant j ((List.mem_cons.1 hj).resolve_left hne)
    · have := h.get?_vacant i hmem
      rw [hi] at this
      cases this

/-! ## Listing -/

theorem mem_toList {i : Nat} {a : α} : (i, a) ∈ s.toList ↔ s.get? i = some a := by
  unfold toList get?
  rw [List.mem_filterMap, Option.join_eq_some_iff]
  constructor
  · rintro ⟨⟨cell, j⟩, hmem, hcell⟩
    obtain ⟨b, rfl, heq⟩ := Option.map_eq_some_iff.1 hcell
    cases heq
    rw [← Array.getElem?_toList]
    exact List.mem_zipIdx_iff_getElem?.1 hmem
  · intro h
    rw [← Array.getElem?_toList] at h
    exact ⟨(some a, i), List.mem_zipIdx_iff_getElem?.2 h, rfl⟩

/-- **The cells are listed in order**, each one once. -/
theorem pairwise_toList (s : Slots α) : s.toList.Pairwise fun x y => x.1 < y.1 := by
  have hplaces : (s.cells.toList.zipIdx.map Prod.snd).Pairwise (· < ·) := by
    rw [List.zipIdx_map_snd]
    exact List.pairwise_lt_range'
  unfold toList
  rw [List.pairwise_filterMap]
  refine (List.pairwise_map.1 hplaces).imp fun {x y} hlt b hb b' hb' => ?_
  obtain ⟨-, -, rfl⟩ := Option.map_eq_some_iff.1 hb
  obtain ⟨-, -, rfl⟩ := Option.map_eq_some_iff.1 hb'
  exact hlt

end Slots
end LinkAdaptation

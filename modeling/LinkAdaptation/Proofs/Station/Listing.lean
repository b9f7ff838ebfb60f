import LinkAdaptation.Proofs.Station.Registry
import Mathlib.Data.List.Perm.Basic
/-!
# Listing the stations

The two lists that a registry gives of itself say no more and no less than its handles do: each station stands in them
once, in the second one by ascending address (`Registry.Sound.ascending`).  As many stations are listed as addresses are
indexed (`Registry.Sound.size_eq`).
-/
namespace LinkAdaptation

/-! ## The order of addresses -/

namespace MacAddress

variable {a b c : MacAddress}

theorem precedes_iff : a.precedes b = true ↔ a.octets.toList < b.octets.toList :=
  decide_eq_true_iff

theorem not_precedes_iff : (!b.precedes a) = true ↔ a.octets.toList ≤ b.octets.toList := by
  rw [Bool.not_eq_true', ← Bool.not_eq_true, precedes_iff, List.not_lt]

/-- **Two addresses of which neither comes first are one.** -/
theorem eq_of_not_precedes (hab : a.precedes b = false) (hba : b.precedes a = false) : a = b := by
  have hle : a.octets.toList ≤ b.octets.toList := not_precedes_iff.1 (by rw [hba]; rfl)
  have hge : b.octets.toList ≤ a.octets.toList := not_precedes_iff.1 (by rw [hab]; rfl)
  obtain ⟨x⟩ := a
  obtain ⟨y⟩ := b
  exact congrArg MacAddress.mk (Vector.toList_inj.1 (List.le_antisymm hle hge))

end MacAddress

namespace Registry

variable {r : Registry}

/-! ## By handle -/

theorem mem_toList {h : Handle} {st : Station} : (h, st) ∈ r.toList ↔ r.get? h = some st := by
  unfold toList get?
  rw [← Slots.mem_toList, List.mem_map]
  constructor
  · rintro ⟨⟨i, st'⟩, hmem, heq⟩
    cases heq
    exact hmem
  · intro hmem
    exact ⟨(h.index, st), hmem, rfl⟩

theorem mem_stations {st : Station} : st ∈ r.toList.map (·.2) ↔ ∃ h, r.get? h = some st := by
  rw [List.mem_map]
  constructor
  · rintro ⟨⟨h, st'⟩, hmem, rfl⟩
    exact ⟨h, mem_toList.1 hmem⟩
  · rintro ⟨h, hst⟩
    exact ⟨(h, st), mem_toList.2 hst, rfl⟩

/-- **No two listed stations share an address.** -/
theorem Sound.nodup_addresses (hr : r.Sound) : (r.toList.map (·.2.address)).Nodup := by
  have hhandles : r.toList.Pairwise fun x y => x.1.index < y.1.index := by
    unfold toList
    exact List.pairwise_map.2 (Slots.pairwise_toList r.slots)
  rw [List.Nodup, List.pairwise_map]
  refine hhandles.imp_of_mem fun {x y} hx hy hlt heq => ?_
  -- one address leads to one handle, and the listing goes up
  have hone : r.handleOf? x.2.address = some x.1 := (hr.handleOf?_iff _ _).2 ⟨_, mem_toList.1 hx, rfl⟩
  have hother : r.handleOf? x.2.address = some y.1 := (hr.handleOf?_iff _ _).2 ⟨_, mem_toList.1 hy, heq.symm⟩
  have hsame : x.1 = y.1 := Option.some.inj (hone.symm.trans hother)
  rw [hsame] at hlt
  exact Nat.lt_irrefl _ hlt

/-! ## By address -/

theorem mem_byAscendingAddress {st : Station} : st ∈ r.byAscendingAddress ↔ ∃ h, r.get? h = some st := by
  rw [byAscendingAddress, List.mem_mergeSort, mem_stations]

theorem pairwise_byAscendingAddress :
    r.byAscendingAddress.Pairwise fun s t => (!t.address.precedes s.address) = true := by
  refine List.pairwise_mergeSort (fun s t u hst htu => ?_) (fun s t => ?_) _
  · rw [MacAddress.not_precedes_iff] at *
    exact List.le_trans hst htu
  · rw [Bool.or_eq_true, MacAddress.not_precedes_iff, MacAddress.not_precedes_iff]
    exact List.le_total _ _

theorem length_byAscendingAddress (r : Registry) : r.byAscendingAddress.length = r.size := by
  rw [byAscendingAddress, List.length_mergeSort, List.length_map, toList, List.length_map]
  rfl

theorem Sound.nodup_byAscendingAddress (hr : r.Sound) : (r.byAscendingAddress.map (·.address)).Nodup := by
  have hperm := (List.mergeSort_perm (r.toList.map (·.2)) fun s t => !t.address.precedes s.address).map (·.address)
  rw [byAscendingAddress, hperm.nodup_iff, List.map_map]
  exact hr.nodup_addresses

/-- **The stations stand by strictly ascending address.** -/
theorem Sound.ascending (hr : r.Sound) :
    r.byAscendingAddress.Pairwise fun s t => s.address.precedes t.address = true := by
  have hdistinct := List.pairwise_map.1 hr.nodup_byAscendingAddress
  refine (pairwise_byAscendingAddress.and hdistinct).imp fun {s t} ⟨hle, hne⟩ => ?_
  cases hst : s.address.precedes t.address with
  | true => rfl
  | false => exact absurd (MacAddress.eq_of_not_precedes hst (by simpa using hle)) hne

/-! ## The index -/

theorem mem_indexed {a : MacAddress} : a ∈ r.byAddress.map (·.1) ↔ ∃ h, r.handleOf? a = some h := by
  rw [← Option.isSome_iff_exists, ← not_iff_not, Bool.not_eq_true, Option.isSome_eq_false_iff, Option.isNone_iff_eq_none,
    handleOf?, List.lookup_eq_none_iff, List.mem_map]
  constructor
  · intro hnone p hp
    rw [bne_iff_ne]
    rintro rfl
    exact hnone ⟨p, hp, rfl⟩
  · rintro hall ⟨p, hp, rfl⟩
    exact bne_iff_ne.1 (hall p hp) rfl

/-- **As many stations as addresses**, where no address is indexed twice. -/
theorem Sound.size_eq (hr : r.Sound) (hindex : (r.byAddress.map (·.1)).Nodup) : r.size = r.byAddress.length := by
  have hperm : (r.toList.map (·.2.address)).Perm (r.byAddress.map (·.1)) := by
    refine (List.perm_ext_iff_of_nodup hr.nodup_addresses hindex).2 fun a => ?_
    rw [mem_indexed, List.mem_map]
    constructor
    · rintro ⟨⟨h, st⟩, hmem, rfl⟩
      exact ⟨h, (hr.handleOf?_iff _ _).2 ⟨st, mem_toList.1 hmem, rfl⟩⟩
    · rintro ⟨h, hh⟩
      obtain ⟨st, hst, rfl⟩ := (hr.handleOf?_iff _ _).1 hh
      exact ⟨(h, st), mem_toList.2 hst, rfl⟩
  have hlength := hperm.length_eq
  rwa [List.length_map, List.length_map, toList, List.length_map] at hlength

end Registry
end LinkAdaptation

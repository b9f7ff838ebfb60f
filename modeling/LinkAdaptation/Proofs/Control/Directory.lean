import LinkAdaptation.Proofs.Control.Passage
import LinkAdaptation.Proofs.Station.Listing
/-!
# The registry as a map

Stations come and go, numbers of cells are given out again, and stale handles stay around; all the same the registry is a
map from addresses to stations (`Registry.reachable_faithful`).  Of the cells it is used only that a new station takes one
that is free: which one, is left open (`Rearranged`).
-/
namespace LinkAdaptation

namespace Registry

variable {r r' : Registry}

/-- The same stations at the same handles under the same index; the free cells may come in any other order. -/
structure Rearranged (r r' : Registry) : Prop where
  get?_eq : ∀ h, r'.get? h = r.get? h
  byAddress_eq : r'.byAddress = r.byAddress
  slots : r'.slots.Sound

/-- **The registries that registering, removing and changing stations leads to**, whichever free cell a new station
takes. -/
inductive Reachable : Registry → Prop
  | empty : Reachable {}
  | edit {r r' : Registry} : Reachable r → Edited r r' → Reachable r'
  | rearrange {r r' : Registry} : Reachable r → Rearranged r r' → Reachable r'

theorem Rearranged.sound (h : Rearranged r r') (hr : r.Sound) : r'.Sound where
  slots := h.slots
  handleOf?_iff a h' := by
    rw [h.get?_eq, handleOf?, h.byAddress_eq]
    exact hr.handleOf?_iff a h'

theorem Reachable.sound (hr : r.Reachable) : r.Sound := by
  induction hr with
  | empty => exact sound_empty
  | edit _ h ih => exact h.sound ih
  | rearrange _ h ih => exact h.sound ih

theorem Edited.nodup_index (h : Edited r r') (hr : r.Sound) (hnodup : (r.byAddress.map (·.1)).Nodup) :
    (r'.byAddress.map (·.1)).Nodup := by
  have hfilter : ∀ a : MacAddress, ((r.byAddress.filter (·.1 ≠ a)).map (·.1)).Nodup := fun a =>
    hnodup.sublist (List.filter_sublist.map _)
  cases h with
  | kept => exact hnodup
  | registered a c =>
    cases ha : r.handleOf? a with
    | some h => rw [register_of_known hr ha]; exact hnodup
    | none =>
      rw [register_of_unknown ha]
      refine List.nodup_cons.2 ⟨fun hmem => ?_, hfilter a⟩
      obtain ⟨e, he, heq⟩ := List.mem_map.1 hmem
      exact absurd heq (by simpa using (List.mem_filter.1 he).2)
  | @deregistered h st r' hr' =>
    obtain ⟨_, -, heq⟩ := Option.map_eq_some_iff.1 hr'
    cases heq
    exact hfilter st.address
  | modified => exact hnodup

/-- **No address is indexed twice.** -/
theorem Reachable.nodup_index (hr : r.Reachable) : (r.byAddress.map (·.1)).Nodup := by
  induction hr with
  | empty => exact List.nodup_nil
  | edit hr h ih => exact h.nodup_index hr.sound ih
  | rearrange _ h ih => rw [h.byAddress_eq]; exact ih

/-- **Any free cell may be the next one to be given out.** -/
theorem exists_rearranged {h : Handle} (hfree : r.get? h = none) :
    ∃ r', Rearranged r r' ∧ r'.slots.nextCell = h.index := by
  let cells := r.slots.cells ++ Array.replicate (h.index + 1) (none : Option Station)
  have hcells : ∀ i, (cells[i]?).join = r.slots.get? i := by
    intro i
    unfold Slots.get? cells
    rw [Array.getElem?_append]
    split
    · rfl
    · rename_i hi
      rw [Array.getElem?_replicate, Array.getElem?_eq_none (Nat.not_lt.1 hi)]
      split <;> rfl
  refine ⟨⟨⟨cells, [h.index]⟩, r.byAddress⟩, ⟨fun h' => hcells h'.index, rfl, ?_, ?_, List.pairwise_singleton _ _⟩, rfl⟩
  · intro i hi
    rw [List.mem_singleton.1 hi, Array.size_append, Array.size_replicate]
    omega
  · intro i hi
    rw [List.mem_singleton.1 hi]
    exact (hcells h.index).trans hfree

theorem modify_of_vacant {h : Handle} (hfree : r.get? h = none) (f : Station → Station) : r.modify h f = r := by
  have hslot : r.slots.get? h.index = none := hfree
  rw [modify, Slots.modify, hslot]

end Registry

/-! ## Actions that nothing answers -/

/-- Whether an action names a handle or an address that no station has. -/
def Action.misses (r : Registry) : Action → Prop
  | .update h _ | .deregister h | .report h _ | .selectData h | .selectRts h => r.get? h = none
  | .reportFrom a _ => r.handleOf? a = none
  | .register _ _ | .subscribe _ | .hangUp _ => False

/-- The answers that say that there was no such station. -/
def Answer.isNothing : Answer → Bool
  | .known wasKnown => !wasKnown
  | .removed st => st.isNone
  | .effect done => done.isNone
  | .vector v => v.isNone
  | .registered _ | .subscribed _ => false

namespace RateControl

variable {s : RateControl} {o : Outcome}

/-- **An action that names no station changes nothing** and is told so. -/
theorem perform_missing {act : Action} (h : act.misses s.stations) :
    ∃ answer, s.perform act = .ok ⟨s, answer, none, []⟩ ∧ answer.isNothing = true := by
  cases act with
  | register a c => cases h
  | update h' c =>
    have hfree : s.stations.get? h' = none := h
    have hunknown : s.stations.contains h' = false := by rw [Registry.contains, hfree]; rfl
    refine ⟨.known false, ?_, rfl⟩
    rw [perform, Registry.modify_of_vacant hfree, hunknown]
    rfl
  | deregister h' =>
    have hfree : s.stations.get? h' = none := h
    have hnone : s.stations.deregister h' = none := by rw [Registry.deregister, hfree]; rfl
    refine ⟨.removed none, ?_, rfl⟩
    rw [perform, hnone]
    rfl
  | report h' f =>
    have hfree : s.stations.get? h' = none := h
    refine ⟨.effect none, ?_, rfl⟩
    rw [perform, report, hfree]
    rfl
  | reportFrom a f =>
    have hunknown : s.stations.handleOf? a = none := h
    refine ⟨.effect none, ?_, rfl⟩
    rw [perform, hunknown]
    rfl
  | selectData h' =>
    have hfree : s.stations.get? h' = none := h
    refine ⟨.vector none, ?_, rfl⟩
    rw [perform, selectData, hfree]
    rfl
  | selectRts h' =>
    have hfree : s.stations.get? h' = none := h
    refine ⟨.vector none, ?_, rfl⟩
    rw [perform, selectRts, hfree]
    rfl
  | subscribe observer => cases h
  | hangUp place => cases h

end RateControl

/-! ## A faithful map -/

namespace Registry

variable {r : Registry}

/-- What makes a registry a faithful map from addresses to stations. -/
structure Faithful (r : Registry) : Prop where
  /-- The index leads from an address to its station, and no station is without it. -/
  handleOf?_iff : ∀ a h, r.handleOf? a = some h ↔ ∃ st, r.get? h = some st ∧ st.address = a
  /-- As many stations as indexed addresses. -/
  size_eq : (r.byAddress.map (·.1)).Nodup ∧ r.size = r.byAddress.length
  /-- A known address keeps its handle, and its station all but its capabilities and the use of its cached choice. -/
  register_known : ∀ {a h st} c, r.handleOf? a = some h → r.get? h = some st →
    ∃ r' st', r.register a c = (h, r') ∧ st' = { st with capabilities := c, used := none } ∧ r'.get? h = some st' ∧
      st'.isCacheValid = false ∧ (∀ h' ≠ h, r'.get? h' = r.get? h') ∧ r'.byAddress = r.byAddress
  /-- A new address gets a free handle and a fresh station. -/
  register_new : ∀ {a} c, r.handleOf? a = none →
    ∃ h r', r.register a c = (h, r') ∧ r.get? h = none ∧ r'.get? h = some (.fresh a c) ∧
      (∀ h' ≠ h, r'.get? h' = r.get? h') ∧ ∀ b, r'.handleOf? b = if b = a then some h else r.handleOf? b
  /-- Which free handle that is depends on the order of the free cells alone. -/
  register_free : ∀ {h}, r.get? h = none →
    ∃ r', Rearranged r r' ∧ ∀ a c, r'.handleOf? a = none → (r'.register a c).1 = h
  /-- Removing takes one station and its entry away. -/
  deregister : ∀ {h st}, r.get? h = some st → ∃ r', r.deregister h = some (st, r') ∧
    (∀ h', r'.get? h' = if h' = h then none else r.get? h') ∧
    ∀ b, r'.handleOf? b = if b = st.address then none else r.handleOf? b
  /-- A handle without a station is not there for any operation. -/
  vacant : ∀ {h}, r.get? h = none → r.contains h = false ∧ r.deregister h = none ∧ ∀ f, r.modify h f = r
  /-- Whoever names a handle or an address without a station is told so and changes nothing. -/
  missing : ∀ selector {act : Action}, act.misses r →
    ∃ answer, RateControl.perform ⟨selector, r⟩ act = .ok ⟨⟨selector, r⟩, answer, none, []⟩ ∧ answer.isNothing = true
  /-- The stations that are there, and no others, are listed by strictly ascending address. -/
  listed : (∀ st, st ∈ r.byAscendingAddress ↔ ∃ h, r.get? h = some st) ∧
    r.byAscendingAddress.Pairwise fun s t => s.address.precedes t.address = true

/-- **The registry is a faithful map from addresses to stations** wherever registering, removing and changing stations has
led to, and all that rate control does leads to such a registry again. -/
theorem reachable_faithful (hr : r.Reachable) :
    r.Faithful ∧ ∀ selector act o, RateControl.perform ⟨selector, r⟩ act = .ok o → o.next.stations.Reachable := by
  have hsound := hr.sound
  refine ⟨?_, fun selector act o ho => hr.edit (RateControl.edited_perform ho)⟩
  refine
    { handleOf?_iff := hsound.handleOf?_iff
      size_eq := ⟨hr.nodup_index, hsound.size_eq hr.nodup_index⟩
      register_known := fun {a h st} c ha hst => ?_
      register_new := fun {a} c ha => ?_
      register_free := fun {h} hfree => ?_
      deregister := fun {h st} hst => ?_
      vacant := fun {h} hfree => ?_
      missing := fun selector {act} h => RateControl.perform_missing (s := ⟨selector, r⟩) h
      listed := ⟨fun st => mem_byAscendingAddress, hsound.ascending⟩ }
  · refine ⟨_, _, register_of_known hsound ha c, rfl, ?_, ?_, fun h' hne => ?_, rfl⟩
    · exact get?_modify_self hst _
    · exact Bool.and_false _
    · rw [get?_modify, if_neg hne]
  · refine ⟨(r.enrol a c).1, (r.enrol a c).2, register_of_unknown ha c, get?_enrol_fst hsound a c, ?_,
      fun h' hne => ?_, handleOf?_enrol r a c⟩
    · rw [get?_enrol hsound, if_pos rfl]
    · rw [get?_enrol hsound, if_neg hne]
  · obtain ⟨r', hr', hnext⟩ := exists_rearranged hfree
    refine ⟨r', hr', fun a c ha => ?_⟩
    rw [register_of_unknown ha, enrol]
    exact Handle.index_inj.1 hnext
  · have hr' := deregister_of_get? hst
    exact ⟨_, hr', get?_deregister hr', handleOf?_deregister hr'⟩
  · exact ⟨by rw [contains, hfree]; rfl, by rw [Registry.deregister, hfree]; rfl, modify_of_vacant hfree⟩

/-- A station that went, and another one that took its cell. -/
theorem reachable_faithful_reusedCell :
    let c := Capabilities.legacy Catalog.dsss
    let two := ((({} : Registry).register (.locallyAdministered 9) c).2.register (.locallyAdministered 3) c).2
    ∃ st one r, two.deregister ⟨0⟩ = some (st, one) ∧ r = (one.register (.locallyAdministered 1) c).2 ∧ r.Reachable ∧
      r.handleOf? (.locallyAdministered 1) = some ⟨0⟩ ∧ r.Faithful ∧
      ∀ selector act o, RateControl.perform ⟨selector, r⟩ act = .ok o → o.next.stations.Reachable := by
  intro c two
  have htwo : two.Reachable := .edit (.edit .empty (.registered _ _)) (.registered _ _)
  have hst : two.get? ⟨0⟩ = some (.fresh (.locallyAdministered 9) c) := rfl
  have hone := deregister_of_get? hst
  have hr := (htwo.edit (.deregistered hone)).edit (.registered (.locallyAdministered 1) c)
  exact ⟨_, _, _, hone, rfl, hr, rfl, reachable_faithful hr⟩

end Registry
end LinkAdaptation

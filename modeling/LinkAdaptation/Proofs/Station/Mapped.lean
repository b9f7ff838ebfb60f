import LinkAdaptation.Proofs.Station.Registry
/-!
# A change of all stations at once

Changing the value of every cell moves no value to another cell and frees none, so the registry works on the changed
stations as it did on the old ones: each operation comes to the same before the change and after it (`Registry.register_map`
and its siblings).
-/
namespace LinkAdaptation

namespace Slots

/-- Every value changed, in its cell. -/
def map (f : α → β) (s : Slots α) : Slots β :=
  ⟨s.cells.map (Option.map f), s.vacant⟩

variable {f : α → β} {s : Slots α}

theorem get?_map (f : α → β) (s : Slots α) (i : Nat) : (s.map f).get? i = (s.get? i).map f := by
  unfold get? map
  rw [Array.getElem?_map]
  cases s.cells[i]? <;> rfl

theorem nextCell_map (f : α → β) (s : Slots α) : (s.map f).nextCell = s.nextCell := by
  unfold nextCell map
  rw [Array.size_map]

theorem insert_map (f : α → β) (s : Slots α) (a : α) : (s.map f).insert (f a) = (s.insert a).map f := by
  unfold insert map
  cases s.vacant with
  | nil => rw [Array.map_push]; rfl
  | cons i rest => rw [Array.map_setIfInBounds]; rfl

theorem modify_map {i : Nat} {g : α → α} {g' : β → β} (hg : ∀ a, s.get? i = some a → f (g a) = g' (f a)) :
    (s.map f).modify i g' = (s.modify i g).map f := by
  unfold modify
  rw [get?_map]
  cases ha : s.get? i with
  | none => rfl
  | some a =>
    rw [Option.map_some]
    dsimp only
    rw [← hg a ha]
    unfold map
    rw [Array.map_setIfInBounds]
    rfl

theorem erase_map (f : α → β) (s : Slots α) (i : Nat) : (s.map f).erase i = (s.erase i).map f := by
  unfold erase
  rw [get?_map]
  cases s.get? i with
  | none => rfl
  | some a =>
    rw [Option.map_some]
    dsimp only
    unfold map
    rw [Array.map_setIfInBounds]
    rfl

/-- **Changes that agree on every value that is there are one change.** -/
theorem map_congr {g : α → β} (h : ∀ i a, s.get? i = some a → f a = g a) : s.map f = s.map g := by
  unfold map
  congr 1
  refine Array.map_congr_left fun cell hcell => ?_
  obtain ⟨i, hi, rfl⟩ := Array.mem_iff_getElem.1 hcell
  refine Option.map_congr fun a ha => h i a ?_
  rw [get?, Array.getElem?_eq_getElem hi]
  exact ha

theorem map_map (g : β → γ) (f : α → β) (s : Slots α) : (s.map f).map g = s.map (g ∘ f) := by
  unfold map
  rw [Array.map_map, Option.map_comp_map]

/-- **A table is known by its cells and by what stands in them.** -/
theorem ext_get? {s s' : Slots α} (hvacant : s.vacant = s'.vacant) (hsize : s.cells.size = s'.cells.size)
    (hget : ∀ i, s.get? i = s'.get? i) : s = s' := by
  obtain ⟨cells, vacant⟩ := s
  obtain ⟨cells', vacant'⟩ := s'
  cases hvacant
  congr 1
  refine Array.ext hsize fun i hi hi' => ?_
  have hcell : (cells[i]?).join = (cells'[i]?).join := hget i
  rw [Array.getElem?_eq_getElem hi, Array.getElem?_eq_getElem hi'] at hcell
  exact hcell

/-- **A change that leaves every value as it is changes nothing.** -/
theorem map_eq_self {f : α → α} (h : ∀ i a, s.get? i = some a → f a = a) : s.map f = s := by
  refine ext_get? rfl Array.size_map fun i => ?_
  rw [get?_map]
  cases ha : s.get? i with
  | none => rfl
  | some a => rw [Option.map_some, h i a ha]

/-- **A change of one cell is a change of all** that leaves the other values as they are. -/
theorem modify_eq_map {i : Nat} {g f : α → α} (hself : ∀ a, s.get? i = some a → g a = f a)
    (hother : ∀ j a, j ≠ i → s.get? j = some a → f a = a) : s.modify i g = s.map f := by
  refine ext_get? ?_ ?_ fun j => ?_
  · unfold modify
    split <;> rfl
  · unfold modify map
    split
    · rw [Array.size_setIfInBounds, Array.size_map]
    · rw [Array.size_map]
  · rw [get?_modify, get?_map]
    by_cases hj : j = i
    · rw [if_pos hj, hj]
      exact Option.map_congr hself
    · rw [if_neg hj]
      cases ha : s.get? j with
      | none => rfl
      | some a => rw [Option.map_some, hother j a hj ha]

end Slots

namespace Registry

/-- Every station changed, in its place. -/
def map (f : Station → Station) (r : Registry) : Registry :=
  { r with slots := r.slots.map f }

variable {r : Registry} {f : Station → Station}

theorem get?_map (f : Station → Station) (r : Registry) (h : Handle) : (r.map f).get? h = (r.get? h).map f :=
  Slots.get?_map f r.slots h.index

theorem handleOf?_map (f : Station → Station) (r : Registry) (a : MacAddress) : (r.map f).handleOf? a = r.handleOf? a :=
  rfl

theorem contains_map (f : Station → Station) (r : Registry) (h : Handle) : (r.map f).contains h = r.contains h := by
  rw [contains, get?_map, Option.isSome_map, contains]

theorem modify_map {h : Handle} {g g' : Station → Station} (hg : ∀ st, r.get? h = some st → f (g st) = g' (f st)) :
    (r.map f).modify h g' = (r.modify h g).map f := by
  unfold modify map
  dsimp only
  rw [Slots.modify_map hg]

theorem enrol_map {a : MacAddress} {c : Capabilities} (hfresh : f (.fresh a c) = .fresh a c) :
    (r.map f).enrol a c = ((r.enrol a c).1, (r.enrol a c).2.map f) := by
  unfold enrol map
  dsimp only
  rw [Slots.nextCell_map, ← Slots.insert_map, hfresh]

/-- **Registering comes to the same before a change of all stations and after it**, when the change does not matter to the
station that comes. -/
theorem register_map (hr : r.Sound) {a : MacAddress} {c : Capabilities}
    (hknown : ∀ st, f (st.readvertise c) = (f st).readvertise c)
    (hfresh : r.handleOf? a = none → f (.fresh a c) = .fresh a c) :
    (r.map f).register a c = ((r.register a c).1, (r.register a c).2.map f) := by
  cases ha : r.handleOf? a with
  | none => rw [register_of_unknown ha, register_of_unknown (r := r.map f) ha, enrol_map (hfresh ha)]
  | some h =>
    obtain ⟨st, hst, -⟩ := (hr.handleOf?_iff a h).1 ha
    have hcontains : (r.map f).contains h = true := by rw [contains_map, contains, hst]; rfl
    rw [register_of_known hr ha, register, handleOf?_map, ha]
    dsimp only
    rw [if_pos hcontains, modify_map fun st _ => hknown st]

theorem deregister_map (haddress : ∀ st, (f st).address = st.address) (h : Handle) :
    (r.map f).deregister h = (r.deregister h).map fun removed => (f removed.1, removed.2.map f) := by
  unfold deregister
  rw [get?_map, Option.map_map, Option.map_map]
  refine Option.map_congr fun st _ => ?_
  rw [Function.comp_apply, Function.comp_apply, haddress]
  unfold map
  dsimp only
  rw [Slots.erase_map]

theorem map_congr {g : Station → Station} (h : ∀ h' st, r.get? h' = some st → f st = g st) : r.map f = r.map g := by
  unfold map
  rw [Slots.map_congr fun i st => h ⟨i⟩ st]

theorem map_map (g f : Station → Station) (r : Registry) : (r.map f).map g = r.map (g ∘ f) := by
  unfold map
  dsimp only
  rw [Slots.map_map]

theorem map_eq_self (h : ∀ h' st, r.get? h' = some st → f st = st) : r.map f = r := by
  unfold map
  rw [Slots.map_eq_self fun i st => h ⟨i⟩ st]

/-- **A change of one station is a change of all** that leaves the others as they are. -/
theorem modify_eq_map {h : Handle} {g : Station → Station} (hself : ∀ st, r.get? h = some st → g st = f st)
    (hother : ∀ h' st, h' ≠ h → r.get? h' = some st → f st = st) : r.modify h g = r.map f := by
  unfold modify map
  rw [Slots.modify_eq_map hself fun i st hi => hother ⟨i⟩ st fun heq => hi (congrArg Handle.index heq)]

end Registry
end LinkAdaptation

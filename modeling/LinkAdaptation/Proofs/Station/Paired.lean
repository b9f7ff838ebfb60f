import LinkAdaptation.Proofs.Station.Registry
/-!
# Two registries side by side

Two tables with the same free cells and corresponding values in the others stay so under the same operations: values only
ever go where the free cells say.  So two registries that know the same addresses and hold corresponding stations answer
alike (`Registry.Paired.register` and its siblings), whatever the correspondence is.
-/
namespace LinkAdaptation

theorem rel_cases {R : α → β → Prop} {x : Option α} {y : Option β} (h : Option.Rel R x y) :
    x = none ∧ y = none ∨ ∃ a b, x = some a ∧ y = some b ∧ R a b := by
  cases h with
  | none => exact Or.inl ⟨rfl, rfl⟩
  | some hab => exact Or.inr ⟨_, _, rfl, rfl, hab⟩

theorem rel_self {R : α → α → Prop} (hR : ∀ a, R a a) (x : Option α) : Option.Rel R x x := by
  cases x with
  | none => exact .none
  | some a => exact .some (hR a)

namespace Slots

/-- The same free cells, and corresponding values in all cells. -/
structure Paired (R : α → β → Prop) (s : Slots α) (s' : Slots β) : Prop where
  vacant : s'.vacant = s.vacant
  size : s'.cells.size = s.cells.size
  values : ∀ i, Option.Rel R (s.get? i) (s'.get? i)

namespace Paired

variable {R : α → β → Prop} {s : Slots α} {s' : Slots β}

theorem nextCell (h : s.Paired R s') : s'.nextCell = s.nextCell := by
  rw [Slots.nextCell, Slots.nextCell, h.vacant, h.size]

theorem setIfInBounds (h : s.Paired R s') (i : Nat) {cell : Option α} {cell' : Option β} (hcell : Option.Rel R cell cell')
    (vacant : List Nat) :
    Paired R ⟨s.cells.setIfInBounds i cell, vacant⟩ ⟨s'.cells.setIfInBounds i cell', vacant⟩ where
  vacant := rfl
  size := by rw [Array.size_setIfInBounds, Array.size_setIfInBounds, h.size]
  values j := by
    unfold get?
    rw [Array.getElem?_setIfInBounds, Array.getElem?_setIfInBounds, h.size]
    split
    · split
      · exact hcell
      · exact .none
    · exact h.values j

/-- **Corresponding values go into the same cell.** -/
theorem insert (h : s.Paired R s') {a : α} {b : β} (hab : R a b) : (s.insert a).Paired R (s'.insert b) := by
  unfold Slots.insert
  rw [h.vacant]
  cases s.vacant with
  | nil =>
    refine ⟨rfl, by rw [Array.size_push, Array.size_push, h.size], fun j => ?_⟩
    unfold get?
    rw [Array.getElem?_push, Array.getElem?_push, h.size]
    split
    · exact .some hab
    · exact h.values j
  | cons i rest => exact h.setIfInBounds i (.some hab) rest

theorem modify (h : s.Paired R s') {i : Nat} {f : α → α} {f' : β → β}
    (hf : ∀ a b, s.get? i = some a → s'.get? i = some b → R a b → R (f a) (f' b)) :
    (s.modify i f).Paired R (s'.modify i f') := by
  unfold Slots.modify
  rcases rel_cases (h.values i) with ⟨ha, hb⟩ | ⟨a, b, ha, hb, hab⟩
  · rw [ha, hb]
    exact h
  · rw [ha, hb]
    dsimp only
    rw [h.vacant]
    exact h.setIfInBounds i (.some (hf a b ha hb hab)) s.vacant

theorem erase (h : s.Paired R s') (i : Nat) : (s.erase i).Paired R (s'.erase i) := by
  unfold Slots.erase
  rcases rel_cases (h.values i) with ⟨ha, hb⟩ | ⟨a, b, ha, hb, -⟩
  · rw [ha, hb]
    exact h
  · rw [ha, hb]
    dsimp only
    rw [h.vacant]
    exact h.setIfInBounds i .none (i :: s.vacant)

end Paired
end Slots

namespace Registry

/-- The same addresses with the same handles, and corresponding stations. -/
structure Paired (R : Station → Station → Prop) (r r' : Registry) : Prop where
  byAddress : r'.byAddress = r.byAddress
  slots : r.slots.Paired R r'.slots

namespace Paired

variable {R : Station → Station → Prop} {r r' : Registry} {h : Handle} {a : MacAddress} {c c' : Capabilities}

theorem empty (R : Station → Station → Prop) : Paired R {} {} where
  byAddress := rfl
  slots := ⟨rfl, rfl, fun _ => .none⟩

theorem station (hr : r.Paired R r') (h : Handle) : Option.Rel R (r.get? h) (r'.get? h) :=
  hr.slots.values h.index

theorem handleOf? (hr : r.Paired R r') (a : MacAddress) : r'.handleOf? a = r.handleOf? a := by
  rw [Registry.handleOf?, hr.byAddress, Registry.handleOf?]

theorem contains (hr : r.Paired R r') (h : Handle) : r'.contains h = r.contains h := by
  unfold Registry.contains
  rcases rel_cases (hr.station h) with ⟨hst, hst'⟩ | ⟨st, st', hst, hst', -⟩
  · rw [hst, hst']
  · rw [hst, hst']
    rfl

theorem modify (hr : r.Paired R r') {f f' : Station → Station}
    (hf : ∀ st st', r.get? h = some st → r'.get? h = some st' → R st st' → R (f st) (f' st')) :
    (r.modify h f).Paired R (r'.modify h f') :=
  ⟨hr.byAddress, hr.slots.modify hf⟩

theorem enrol (hr : r.Paired R r') (hfresh : R (.fresh a c) (.fresh a c')) :
    (r'.enrol a c').1 = (r.enrol a c).1 ∧ (r.enrol a c).2.Paired R (r'.enrol a c').2 := by
  unfold Registry.enrol
  dsimp only
  rw [hr.slots.nextCell, hr.byAddress]
  exact ⟨rfl, rfl, hr.slots.insert hfresh⟩

/-- **An address gets the same handle in both.** -/
theorem register (hr : r.Paired R r') (hfresh : R (.fresh a c) (.fresh a c'))
    (hknown : ∀ st st', R st st' → R (st.readvertise c) (st'.readvertise c')) :
    (r'.register a c').1 = (r.register a c).1 ∧ (r.register a c).2.Paired R (r'.register a c').2 := by
  unfold Registry.register
  rw [hr.handleOf? a]
  cases r.handleOf? a with
  | none => exact hr.enrol hfresh
  | some h =>
    dsimp only
    rw [hr.contains h]
    split
    · exact ⟨rfl, hr.modify fun st st' _ _ => hknown st st'⟩
    · exact hr.enrol hfresh

/-- **Corresponding stations are removed**, and corresponding ones are left. -/
theorem deregister (hr : r.Paired R r') (haddress : ∀ st st', R st st' → st'.address = st.address) (h : Handle) :
    Option.Rel (fun x x' => R x.1 x'.1 ∧ x.2.Paired R x'.2) (r.deregister h) (r'.deregister h) := by
  unfold Registry.deregister
  rcases rel_cases (hr.station h) with ⟨hst, hst'⟩ | ⟨st, st', hst, hst', hR⟩
  · rw [hst, hst']
    exact .none
  · rw [hst, hst', Option.map_some, Option.map_some, haddress st st' hR, hr.byAddress]
    exact .some ⟨hR, rfl, hr.slots.erase h.index⟩

end Paired
end Registry
end LinkAdaptation

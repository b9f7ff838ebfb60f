import LinkAdaptation.Proofs.Station.Slots
import LinkAdaptation.Station.Registry
/-!
# Laws of the registry

A registry is known by the station at each handle.  In a `Sound` one the index of addresses says the same as the stations
themselves, so an address has one handle at most; every operation keeps that and changes one station at most.
-/
namespace LinkAdaptation

@[simp] theorem Handle.index_inj {h h' : Handle} : h.index = h'.index ↔ h = h' := by
  cases h
  cases h'
  simp

namespace Registry

/-- The index of addresses and the stations say the same. -/
structure Sound (r : Registry) : Prop where
  slots : r.slots.Sound
  handleOf?_iff : ∀ a h, r.handleOf? a = some h ↔ ∃ st, r.get? h = some st ∧ st.address = a

theorem sound_empty : Sound {} where
  slots := Slots.sound_empty
  handleOf?_iff a h := by
    constructor
    · intro hh
      cases hh
    · rintro ⟨st, hst, -⟩
      cases hst

variable {r : Registry}

theorem lookup_filter_ne (a b : MacAddress) (l : List (MacAddress × Handle)) :
    (l.filter (·.1 ≠ a)).lookup b = if b = a then none else l.lookup b := by
  induction l with
  | nil => simp
  | cons e l ih =>
    obtain ⟨c, h⟩ := e
    by_cases hca : c = a
    · rw [List.filter_cons_of_neg (by simp [hca]), ih]
      by_cases hb : b = a
      · rw [if_pos hb, if_pos hb]
      · rw [if_neg hb, if_neg hb, List.lookup_cons, show (b == c) = false by simpa [hca] using hb]
    · rw [List.filter_cons_of_pos (by simp [hca]), List.lookup_cons, List.lookup_cons, ih]
      by_cases hbc : b = c
      · subst hbc
        simp [hca]
      · rw [show (b == c) = false by simpa using hbc]

/-! ## What each operation does -/

theorem get?_modify (r : Registry) (h : Handle) (f : Station → Station) (h' : Handle) :
    (r.modify h f).get? h' = if h' = h then (r.get? h).map f else r.get? h' := by
  unfold get? modify
  rw [Slots.get?_modify]
  simp only [Handle.index_inj]

theorem get?_modify_self {h : Handle} {st : Station} (hst : r.get? h = some st) (f : Station → Station) :
    (r.modify h f).get? h = some (f st) := by
  rw [get?_modify, if_pos rfl, hst]
  rfl

theorem handleOf?_modify (r : Registry) (h : Handle) (f : Station → Station) (a : MacAddress) :
    (r.modify h f).handleOf? a = r.handleOf? a :=
  rfl

theorem Sound.modify (hr : r.Sound) {h : Handle} {f : Station → Station}
    (hf : ∀ st, r.get? h = some st → (f st).address = st.address) : (r.modify h f).Sound where
  slots := hr.slots.modify h.index f
  handleOf?_iff a h' := by
    rw [handleOf?_modify, hr.handleOf?_iff, get?_modify]
    by_cases hh : h' = h
    · subst hh
      rw [if_pos rfl]
      constructor
      · rintro ⟨st, hst, ha⟩
        exact ⟨f st, by rw [hst]; rfl, (hf st hst).trans ha⟩
      · rintro ⟨st, hst, ha⟩
        obtain ⟨st', hst', rfl⟩ := Option.map_eq_some_iff.1 hst
        exact ⟨st', hst', (hf st' hst').symm.trans ha⟩
    · rw [if_neg hh]

theorem get?_enrol (hr : r.Sound) (a : MacAddress) (c : Capabilities) (h : Handle) :
    (r.enrol a c).2.get? h = if h = (r.enrol a c).1 then some (.fresh a c) else r.get? h := by
  unfold enrol get?
  dsimp only
  rw [Slots.get?_insert hr.slots]
  simp only [← Handle.index_inj]

/-- **A new station never takes the handle of another one.** -/
theorem get?_enrol_fst (hr : r.Sound) (a : MacAddress) (c : Capabilities) : r.get? (r.enrol a c).1 = none :=
  Slots.get?_nextCell hr.slots

theorem handleOf?_enrol (r : Registry) (a : MacAddress) (c : Capabilities) (b : MacAddress) :
    (r.enrol a c).2.handleOf? b = if b = a then some (r.enrol a c).1 else r.handleOf? b := by
  unfold enrol handleOf?
  dsimp only
  rw [List.lookup_cons, lookup_filter_ne]
  by_cases hb : b = a
  · simp [hb]
  · rw [show (b == a) = false by simpa using hb, if_neg hb, if_neg hb]

theorem Sound.enrol (hr : r.Sound) {a : MacAddress} (ha : r.handleOf? a = none) (c : Capabilities) :
    (r.enrol a c).2.Sound where
  slots := hr.slots.insert _
  handleOf?_iff b h := by
    have hfree := get?_enrol_fst hr a c
    rw [handleOf?_enrol, get?_enrol hr]
    by_cases hb : b = a
    · subst hb
      rw [if_pos rfl]
      by_cases hh : h = (r.enrol b c).1
      · rw [if_pos hh, hh]
        exact ⟨fun _ => ⟨_, rfl, rfl⟩, fun _ => rfl⟩
      · rw [if_neg hh, ← hr.handleOf?_iff, ha]
        constructor
        · intro heq
          exact absurd (Option.some.inj heq).symm hh
        · intro heq
          cases heq
    · rw [if_neg hb, hr.handleOf?_iff]
      by_cases hh : h = (r.enrol a c).1
      · subst hh
        rw [if_pos rfl, hfree]
        constructor
        · rintro ⟨st, hst, -⟩
          cases hst
        · rintro ⟨st, hst, hb'⟩
          cases hst
          exact absurd hb'.symm hb
      · rw [if_neg hh]

/-- **A known address keeps its handle**; its station takes the new capabilities. -/
theorem register_of_known (hr : r.Sound) {a : MacAddress} {h : Handle} (ha : r.handleOf? a = some h) (c : Capabilities) :
    r.register a c = (h, r.modify h (·.readvertise c)) := by
  obtain ⟨st, hst, -⟩ := (hr.handleOf?_iff a h).1 ha
  have hcontains : r.contains h = true := by rw [contains, hst]; rfl
  rw [register, ha]
  dsimp only
  rw [if_pos hcontains]

theorem register_of_unknown {a : MacAddress} (ha : r.handleOf? a = none) (c : Capabilities) :
    r.register a c = r.enrol a c := by
  rw [register, ha]

theorem Sound.register (hr : r.Sound) (a : MacAddress) (c : Capabilities) : (r.register a c).2.Sound := by
  cases ha : r.handleOf? a with
  | none => rw [register_of_unknown ha]; exact hr.enrol ha c
  | some h => rw [register_of_known hr ha]; exact hr.modify fun _ _ => rfl

theorem Sound.handleOf?_register (hr : r.Sound) (a : MacAddress) (c : Capabilities) :
    (r.register a c).2.handleOf? a = some (r.register a c).1 := by
  cases ha : r.handleOf? a with
  | none => rw [register_of_unknown ha, handleOf?_enrol, if_pos rfl]
  | some h => rw [register_of_known hr ha, handleOf?_modify, ha]

theorem deregister_of_get? {h : Handle} {st : Station} (hst : r.get? h = some st) :
    r.deregister h = some (st, ⟨r.slots.erase h.index, r.byAddress.filter (·.1 ≠ st.address)⟩) := by
  rw [deregister, hst]
  rfl

theorem get?_deregister {h : Handle} {st : Station} {r' : Registry} (hr' : r.deregister h = some (st, r')) (h' : Handle) :
    r'.get? h' = if h' = h then none else r.get? h' := by
  obtain ⟨_, -, heq⟩ := Option.map_eq_some_iff.1 hr'
  cases heq
  unfold get?
  rw [Slots.get?_erase]
  simp only [Handle.index_inj]

theorem handleOf?_deregister {h : Handle} {st : Station} {r' : Registry} (hr' : r.deregister h = some (st, r'))
    (a : MacAddress) : r'.handleOf? a = if a = st.address then none else r.handleOf? a := by
  obtain ⟨_, -, heq⟩ := Option.map_eq_some_iff.1 hr'
  cases heq
  exact lookup_filter_ne _ _ _

theorem Sound.deregister (hr : r.Sound) {h : Handle} {st : Station} {r' : Registry}
    (hr' : r.deregister h = some (st, r')) : r'.Sound := by
  have hget := get?_deregister hr'
  have hindex := handleOf?_deregister hr'
  obtain ⟨st', hst, heq⟩ := Option.map_eq_some_iff.1 hr'
  cases heq
  refine ⟨hr.slots.erase h.index, fun a h' => ?_⟩
  rw [hindex, hget]
  -- the index loses the one address that the freed handle had
  have hown : r.handleOf? st.address = some h := (hr.handleOf?_iff _ _).2 ⟨st, hst, rfl⟩
  by_cases ha : a = st.address
  · rw [if_pos ha]
    constructor
    · intro hnone
      cases hnone
    · rintro ⟨other, hother, haddress⟩
      split at hother
      · cases hother
      · rename_i hne
        have := (hr.handleOf?_iff a h').2 ⟨other, hother, haddress⟩
        rw [ha, hown] at this
        exact absurd (Option.some.inj this).symm hne
  · rw [if_neg ha, hr.handleOf?_iff]
    by_cases hh : h' = h
    · rw [if_pos hh, hh, hst]
      constructor
      · rintro ⟨other, hother, haddress⟩
        cases hother
        exact absurd haddress.symm ha
      · rintro ⟨other, hother, -⟩
        cases hother
    · rw [if_neg hh]

/-! ## By address -/

/-- The station that has an address. -/
def ofAddress? (r : Registry) (a : MacAddress) : Option Station :=
  (r.handleOf? a).bind r.get?

theorem ofAddress?_of_handleOf? {a : MacAddress} {h : Handle} (ha : r.handleOf? a = some h) :
    r.ofAddress? a = r.get? h := by
  rw [ofAddress?, ha, Option.bind_some]

theorem ofAddress?_of_unknown {a : MacAddress} (ha : r.handleOf? a = none) : r.ofAddress? a = none := by
  rw [ofAddress?, ha, Option.bind_none]

/-- **A station has the address it is found by**, and is found by it. -/
theorem Sound.ofAddress?_eq_some_iff (hr : r.Sound) {a : MacAddress} {st : Station} :
    r.ofAddress? a = some st ↔ ∃ h, r.get? h = some st ∧ st.address = a := by
  constructor
  · intro hst
    obtain ⟨h, ha, hget⟩ := Option.bind_eq_some_iff.1 hst
    obtain ⟨st', hst', haddress⟩ := (hr.handleOf?_iff a h).1 ha
    cases hget.symm.trans hst'
    exact ⟨h, hget, haddress⟩
  · rintro ⟨h, hget, haddress⟩
    rw [ofAddress?_of_handleOf? ((hr.handleOf?_iff a h).2 ⟨st, hget, haddress⟩), hget]

theorem Sound.isSome_ofAddress? (hr : r.Sound) (a : MacAddress) :
    (r.ofAddress? a).isSome = (r.handleOf? a).isSome := by
  cases ha : r.handleOf? a with
  | none => rw [ofAddress?_of_unknown ha]; rfl
  | some h =>
    obtain ⟨st, hst, -⟩ := (hr.handleOf?_iff a h).1 ha
    rw [ofAddress?_of_handleOf? ha, hst]
    rfl

/-! ## Edits -/

/-- What becomes of a registry.  A change of a station may touch anything but its address. -/
inductive Edited (r : Registry) : Registry → Prop
  | kept : Edited r r
  | registered (a : MacAddress) (c : Capabilities) : Edited r (r.register a c).2
  | deregistered {h : Handle} {st : Station} {r' : Registry} : r.deregister h = some (st, r') → Edited r r'
  | modified {h : Handle} {f : Station → Station} :
      (∀ st, r.get? h = some st → (f st).address = st.address) → Edited r (r.modify h f)

/-- **Every edit keeps a registry sound.** -/
theorem Edited.sound {r' : Registry} (h : Edited r r') (hr : r.Sound) : r'.Sound := by
  cases h with
  | kept => exact hr
  | registered a c => exact hr.register a c
  | deregistered hr' => exact hr.deregister hr'
  | modified hf => exact hr.modify hf

end Registry
end LinkAdaptation

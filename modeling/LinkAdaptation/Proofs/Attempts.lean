import Mathlib.Data.List.Forall2
/-!
# Attempts in order

Laws of attempts that may fail, made one after another.  Attempts at all elements of a list succeed exactly when each one
does (`mapM_eq_ok_iff`); a search that meets no failure ends at the first answer (`findSomeM?_eq`).  The failure of attempts
in order is the first one that there is (`failure?_bind`, `failure?_mapM`).
-/
namespace LinkAdaptation
namespace Attempt

theorem bind_eq_ok {x : Except ε α} {f : α → Except ε β} {b : β} :
    (x >>= f) = .ok b ↔ ∃ a, x = .ok a ∧ f a = .ok b := by
  constructor
  · intro h
    cases x with
    | error e => cases h
    | ok a => exact ⟨a, rfl, h⟩
  · rintro ⟨a, rfl, h⟩
    exact h

/-- **Attempts at a list succeed exactly when the one at each element does.** -/
theorem mapM_eq_ok_iff {f : α → Except ε β} {as : List α} {bs : List β} :
    as.mapM f = .ok bs ↔ List.Forall₂ (fun a b => f a = .ok b) as bs := by
  induction as generalizing bs with
  | nil =>
    constructor
    · intro h
      cases h
      exact .nil
    · intro h
      cases h
      rfl
  | cons a as ih =>
    rw [List.mapM_cons, bind_eq_ok]
    constructor
    · rintro ⟨b, hb, h⟩
      obtain ⟨rest, hrest, heq⟩ := bind_eq_ok.1 h
      cases heq
      exact .cons hb (ih.1 hrest)
    · intro h
      cases h with
      | cons hb hrest => exact ⟨_, hb, bind_eq_ok.2 ⟨_, ih.2 hrest, rfl⟩⟩

/-- The same of attempts that say nothing of why they failed. -/
theorem mapM_eq_some_iff {f : α → Option β} {as : List α} {bs : List β} :
    as.mapM f = some bs ↔ List.Forall₂ (fun a b => f a = some b) as bs := by
  induction as generalizing bs with
  | nil =>
    constructor
    · intro h
      cases h
      exact .nil
    · intro h
      cases h
      rfl
  | cons a as ih =>
    rw [List.mapM_cons, Option.bind_eq_bind, Option.bind_eq_some_iff]
    constructor
    · rintro ⟨b, hb, h⟩
      obtain ⟨rest, hrest, heq⟩ := Option.bind_eq_some_iff.1 h
      cases heq
      exact .cons hb (ih.1 hrest)
    · intro h
      cases h with
      | cons hb hrest => exact ⟨_, hb, Option.bind_eq_some_iff.2 ⟨_, ih.2 hrest, rfl⟩⟩

theorem exists_answer {f : α → Except ε β} {as : List α} {bs : List β} (h : as.mapM f = .ok bs) {a : α} (ha : a ∈ as) :
    ∃ b ∈ bs, f a = .ok b := by
  have hall := mapM_eq_ok_iff.1 h
  clear h
  induction hall with
  | nil => cases ha
  | cons hb _ ih =>
    rcases List.mem_cons.1 ha with rfl | ha
    · exact ⟨_, List.mem_cons_self, hb⟩
    · obtain ⟨b, hmem, hb⟩ := ih ha
      exact ⟨b, List.mem_cons_of_mem _ hmem, hb⟩

theorem exists_mapM {f : α → Except ε β} {as : List α} (h : ∀ a ∈ as, ∃ b, f a = .ok b) : ∃ bs, as.mapM f = .ok bs := by
  simp only [mapM_eq_ok_iff]
  induction as with
  | nil => exact ⟨[], .nil⟩
  | cons a as ih =>
    obtain ⟨b, hb⟩ := h a List.mem_cons_self
    obtain ⟨bs, hbs⟩ := ih fun c hc => h c (List.mem_cons_of_mem a hc)
    exact ⟨b :: bs, .cons hb hbs⟩

theorem mapM_eq_map {f : α → Except ε β} {g : α → β} {as : List α} (h : ∀ a ∈ as, f a = .ok (g a)) :
    as.mapM f = .ok (as.map g) := by
  rw [mapM_eq_ok_iff, List.forall₂_map_right_iff, List.forall₂_same]
  exact h

/-- **The first answer of attempts that all succeed.** -/
theorem findSomeM?_eq {f : α → Except ε (Option β)} {g : α → Option β} {as : List α}
    (h : ∀ a ∈ as, f a = .ok (g a)) : as.findSomeM? f = .ok (as.findSome? g) := by
  induction as with
  | nil => rfl
  | cons a as ih =>
    have hrest := ih fun b hb => h b (List.mem_cons_of_mem a hb)
    simp only [List.findSomeM?, h a List.mem_cons_self, List.findSome?]
    cases g a with
    | none => exact hrest
    | some b => rfl

/-! ## The first failure -/

/-- What an attempt failed with. -/
def failure? : Except ε α → Option ε
  | .error e => some e
  | .ok _ => none

@[simp] theorem failure?_ok (a : α) : failure? (.ok a : Except ε α) = none := rfl

@[simp] theorem failure?_error (e : ε) : failure? (.error e : Except ε α) = some e := rfl

theorem failure?_eq_some_iff {x : Except ε α} {e : ε} : failure? x = some e ↔ x = .error e := by
  cases x <;> simp

theorem failure?_eq_none_iff {x : Except ε α} : failure? x = none ↔ ∃ a, x = .ok a := by
  cases x <;> simp

/-- **Of two attempts in order the first failure counts**, if how the second fails does not depend on what the first gave. -/
theorem failure?_bind {x : Except ε α} {f : α → Except ε β} {g : Option ε} (h : ∀ a, x = .ok a → failure? (f a) = g) :
    failure? (x >>= f) = (failure? x).or g := by
  cases x with
  | error e => rfl
  | ok a => exact h a rfl

/-- **Attempts at a list fail as the first one that fails does.** -/
theorem failure?_mapM (f : α → Except ε β) : ∀ as : List α,
    failure? (as.mapM f) = (as.filterMap fun a => failure? (f a)).head?
  | [] => rfl
  | a :: as => by
    rw [List.mapM_cons, failure?_bind (g := failure? (as.mapM f)), failure?_mapM f as, List.filterMap_cons]
    · cases failure? (f a) <;> rfl
    · intro b _
      cases as.mapM f <;> rfl

/-- The fault of a condition that is not met. -/
def unmet (p : Prop) [Decidable p] (e : ε) : Option ε :=
  if p then none else some e

section Unmet

variable {p q : Prop} [Decidable p] [Decidable q] {e : ε}

@[simp] theorem unmet_eq_none_iff : unmet p e = none ↔ p := by
  simp [unmet]

theorem unmet_of_not (h : ¬ p) : unmet p e = some e :=
  if_neg h

theorem unmet_eq_some_iff {e' : ε} : unmet p e = some e' ↔ ¬ p ∧ e = e' := by
  simp [unmet]

theorem unmet_or {x : Option ε} : (unmet p e).or x = if p then x else some e := by
  unfold unmet
  split <;> rfl

theorem unmet_congr (h : p ↔ q) : unmet p e = unmet q e := by
  simp only [unmet, h]

end Unmet

end Attempt
end LinkAdaptation

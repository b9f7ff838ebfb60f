import Mathlib
/-!
# The order of binary64 numbers

Every binary64 number is a whole multiple of the least positive one, so the comparisons of IEEE 754 can be read on the
integers: a number has a place on a line whose unit is that least number, and the infinities stand at the first places
that no finite number reaches.  Not-a-number has no place.  `lt_iff`, `le_iff` and `beq_iff` say that comparing numbers is
comparing places; the laws of the order follow from them, with no word on signs, mantissas or exponents.
-/
namespace LinkAdaptation
namespace Binary64

open Float.Model Float.Model.UnpackedFloat

/-- The first place behind all finite numbers. -/
def endOfLine : Int := (2 ^ (53 + 2045) : Nat)

/-- The place of a number on the line, in units of `2 ^ (-1074)`. -/
def placeOf : UnpackedFloat → Option Int
  | .notANumber => none
  | .infinity s => some (s.apply endOfLine)
  | .zero _ => some 0
  | .finite s m e _ => some (s.apply (m * 2 ^ (e + 1074).toNat : Nat))

/-- **The place of a number**; not-a-number has none. -/
def place? (x : Float) : Option Int :=
  placeOf x.toModel.unpack

/-! ## Mantissas and exponents

A finite number is read off its bits in one way only: its mantissa has 53 bits unless its exponent is the least one. -/

/-- A mantissa and an exponent as they are read off the bits of a number, however large the exponent. -/
structure Canonical (m : Nat) (e : Int) : Prop where
  mantissa_lt : m < 2 ^ 53
  le_exponent : -1074 ≤ e
  full : 2 ^ 52 ≤ m ∨ e = -1074

/-- What the bits of a number can say. -/
def Readable : UnpackedFloat → Prop
  | .finite _ m e _ => Canonical m e ∧ e ≤ 971
  | _ => True

theorem toNat_one_append (v : BitVec 52) : (1#1 ++ v).toNat = 2 ^ 52 + v.toNat := by
  rw [BitVec.toNat_append, ← Nat.shiftLeft_add_eq_or_of_lt v.isLt, Nat.shiftLeft_eq]
  simp

theorem readable_unpack (b : BitVec Format.binary64.numBits) : Readable (UnpackedFloat.unpack Format.binary64 b) := by
  have hm : (unpackMantissa b).toNat < 2 ^ 52 := (unpackMantissa b).isLt
  have he : (unpackExponent b).toNat < 2 ^ 11 := (unpackExponent b).isLt
  have hbias : ((Format.binary64.exponentBias : Int) + (Format.binary64.mantissaBitsWithoutImplicit : Nat)) = 1075 := rfl
  unfold UnpackedFloat.unpack
  simp only [hbias]
  split
  · split <;> trivial
  rename_i hones
  split
  · rename_i hzero
    split
    · trivial
    · rw [hzero]
      exact ⟨⟨by omega, by decide, Or.inr rfl⟩, by decide⟩
  · rename_i hzero
    have h0 : (unpackExponent b).toNat ≠ 0 := fun h => hzero (BitVec.eq_of_toNat_eq h)
    have h1 : (unpackExponent b).toNat ≠ 2047 := fun h => hones (BitVec.eq_of_toNat_eq h)
    have happ := toNat_one_append (unpackMantissa b)
    exact ⟨⟨by rw [happ]; omega, by omega, Or.inl (by rw [happ]; omega)⟩, by omega⟩

theorem Canonical.lt_of_exponent_lt {m m' : Nat} {e e' : Int} (h : Canonical m e) (h' : Canonical m' e')
    (hlt : e < e') : m * 2 ^ (e + 1074).toNat < m' * 2 ^ (e' + 1074).toNat := by
  have hfull : 2 ^ 52 ≤ m' := h'.full.resolve_right (by have := h.le_exponent; omega)
  have hstep : (e' + 1074).toNat = (e + 1074).toNat + (e' - e).toNat := by have := h.le_exponent; omega
  have htwo : 2 ^ 1 ≤ 2 ^ (e' - e).toNat := Nat.pow_le_pow_right (by decide) (by omega)
  calc m * 2 ^ (e + 1074).toNat
      < 2 ^ 53 * 2 ^ (e + 1074).toNat := Nat.mul_lt_mul_of_pos_right h.mantissa_lt (Nat.two_pow_pos _)
    _ = 2 ^ 52 * (2 ^ (e + 1074).toNat * 2 ^ 1) := by rw [pow_succ]; ring
    _ ≤ m' * (2 ^ (e + 1074).toNat * 2 ^ (e' - e).toNat) := Nat.mul_le_mul hfull (Nat.mul_le_mul_left _ htwo)
    _ = m' * 2 ^ (e' + 1074).toNat := by rw [hstep, pow_add]

theorem Canonical.compare_eq {m m' : Nat} {e e' : Int} (h : Canonical m e) (h' : Canonical m' e') :
    (compare e e').then (compare m m') = compare (m * 2 ^ (e + 1074).toNat) (m' * 2 ^ (e' + 1074).toNat) := by
  -- the larger exponent decides: a full mantissa above it outweighs any mantissa below
  rcases lt_trichotomy e e' with hlt | rfl | hlt
  · rw [compare_lt_iff_lt.2 hlt, compare_lt_iff_lt.2 (h.lt_of_exponent_lt h' hlt)]
    rfl
  · have hpos : 0 < 2 ^ (e + 1074).toNat := Nat.two_pow_pos _
    rw [compare_eq_iff_eq.2 rfl, Ordering.eq_then]
    rcases lt_trichotomy m m' with hm | rfl | hm
    · rw [compare_lt_iff_lt.2 hm, compare_lt_iff_lt.2 (Nat.mul_lt_mul_of_pos_right hm hpos)]
    · rw [compare_eq_iff_eq.2 rfl, compare_eq_iff_eq.2 rfl]
    · rw [compare_gt_iff_gt.2 hm, compare_gt_iff_gt.2 (Nat.mul_lt_mul_of_pos_right hm hpos)]
  · rw [compare_gt_iff_gt.2 hlt, compare_gt_iff_gt.2 (h'.lt_of_exponent_lt h hlt)]
    rfl

theorem Canonical.lt_two_pow {m : Nat} {e : Int} {k : Nat} (h : Canonical m e) (hk : (e + 1074).toNat ≤ k) :
    m * 2 ^ (e + 1074).toNat < 2 ^ (53 + k) := by
  rw [pow_add]
  exact Nat.mul_lt_mul_of_lt_of_le h.mantissa_lt (Nat.pow_le_pow_right (by decide) hk) (Nat.two_pow_pos _)

theorem Canonical.lt_endOfLine {m : Nat} {e : Int} (h : Canonical m e) (he : e ≤ 971) :
    ((m * 2 ^ (e + 1074).toNat : Nat) : Int) < endOfLine := by
  have hk : (e + 1074).toNat ≤ 2045 := by omega
  have := h.lt_two_pow hk
  unfold endOfLine
  omega

theorem endOfLine_pos : 0 < endOfLine := by
  have := Nat.two_pow_pos (53 + 2045)
  unfold endOfLine
  omega

/-! ## Comparing is comparing places -/

theorem place_pos {m : Nat} (e : Int) (hm : 0 < m) : 0 < ((m * 2 ^ (e + 1074).toNat : Nat) : Int) :=
  Int.ofNat_lt.2 (Nat.mul_pos hm (Nat.two_pow_pos _))

theorem some_lt {p q : Int} (h : p < q) : some Ordering.lt = some (compare p q) :=
  congrArg some (compare_lt_iff_lt.2 h).symm

theorem some_gt {p q : Int} (h : q < p) : some Ordering.gt = some (compare p q) :=
  congrArg some (compare_gt_iff_gt.2 h).symm

theorem compare_natCast (a b : Nat) : compare (a : Int) (b : Int) = compare a b := by
  rcases lt_trichotomy a b with h | rfl | h
  · rw [compare_lt_iff_lt.2 h, compare_lt_iff_lt.2 (Int.ofNat_lt.2 h)]
  · rw [compare_eq_iff_eq.2 rfl, compare_eq_iff_eq.2 rfl]
  · rw [compare_gt_iff_gt.2 h, compare_gt_iff_gt.2 (Int.ofNat_lt.2 h)]

theorem compare_neg_natCast (a b : Nat) : compare (-(a : Int)) (-(b : Int)) = (compare a b).swap := by
  rcases lt_trichotomy a b with h | rfl | h
  · rw [compare_lt_iff_lt.2 h, compare_gt_iff_gt.2 (by omega : -(b : Int) < -(a : Int))]
    rfl
  · rw [compare_eq_iff_eq.2 rfl, compare_eq_iff_eq.2 rfl]
    rfl
  · rw [compare_gt_iff_gt.2 h, compare_lt_iff_lt.2 (by omega : -(a : Int) < -(b : Int))]
    rfl

theorem compare_infinity (s : Sign) {v : UnpackedFloat} (hv : Readable v) {q : Int} (hq : placeOf v = some q) :
    (UnpackedFloat.infinity s).compare v = some (compare (s.apply endOfLine) q) := by
  have hend := endOfLine_pos
  cases v with
  | notANumber => cases hq
  | infinity t =>
    cases hq
    cases s <;> cases t
    · exact congrArg some (compare_eq_iff_eq.2 rfl).symm
    · exact some_lt (by simp only [Sign.apply]; omega)
    · exact some_gt (by simp only [Sign.apply]; omega)
    · exact congrArg some (compare_eq_iff_eq.2 rfl).symm
  | zero t =>
    cases hq
    cases s
    · exact some_lt (by simp only [Sign.apply]; omega)
    · exact some_gt (by simp only [Sign.apply]; omega)
  | finite t n f hn =>
    cases hq
    have hlt := hv.1.lt_endOfLine hv.2
    have hpos := place_pos f hn
    cases s <;> cases t
    · exact some_lt (by simp only [Sign.apply]; omega)
    · exact some_lt (by simp only [Sign.apply]; omega)
    · exact some_gt (by simp only [Sign.apply]; omega)
    · exact some_gt (by simp only [Sign.apply]; omega)

theorem compare_zero (s : Sign) {v : UnpackedFloat} {q : Int} (hq : placeOf v = some q) :
    (UnpackedFloat.zero s).compare v = some (compare 0 q) := by
  have hend := endOfLine_pos
  cases v with
  | notANumber => cases hq
  | infinity t =>
    cases hq
    cases t
    · exact some_gt (by simp only [Sign.apply]; omega)
    · exact some_lt (by simp only [Sign.apply]; omega)
  | zero t =>
    cases hq
    exact congrArg some (compare_eq_iff_eq.2 rfl).symm
  | finite t n f hn =>
    cases hq
    have hpos := place_pos f hn
    cases t
    · exact some_gt (by simp only [Sign.apply]; omega)
    · exact some_lt (by simp only [Sign.apply]; omega)

theorem compare_finite (s : Sign) {m : Nat} {e : Int} (hm : 0 < m) (hc : Canonical m e) (he : e ≤ 971)
    {v : UnpackedFloat} (hv : Readable v) {q : Int} (hq : placeOf v = some q) :
    (UnpackedFloat.finite s m e hm).compare v = some (compare (s.apply (m * 2 ^ (e + 1074).toNat : Nat)) q) := by
  have hpos := place_pos e hm
  have hlt := hc.lt_endOfLine he
  cases v with
  | notANumber => cases hq
  | infinity t =>
    cases hq
    cases s <;> cases t
    · exact some_gt (by simp only [Sign.apply]; omega)
    · exact some_lt (by simp only [Sign.apply]; omega)
    · exact some_gt (by simp only [Sign.apply]; omega)
    · exact some_lt (by simp only [Sign.apply]; omega)
  | zero t =>
    cases hq
    cases s
    · exact some_lt (by simp only [Sign.apply]; omega)
    · exact some_gt (by simp only [Sign.apply]; omega)
  | finite t n f hn =>
    cases hq
    have hpos' := place_pos f hn
    have hmag := hc.compare_eq hv.1
    cases s <;> cases t
    · rw [Sign.apply, Sign.apply, compare_neg_natCast, ← hmag]
      rfl
    · exact some_lt (by simp only [Sign.apply]; omega)
    · exact some_gt (by simp only [Sign.apply]; omega)
    · rw [Sign.apply, Sign.apply, compare_natCast, ← hmag]
      rfl

/-- **The comparison of two numbers is that of their places.** -/
theorem compare_eq_of_placeOf {u v : UnpackedFloat} (hu : Readable u) (hv : Readable v) {p q : Int}
    (hp : placeOf u = some p) (hq : placeOf v = some q) : u.compare v = some (compare p q) := by
  cases u with
  | notANumber => cases hp
  | infinity s =>
    cases hp
    exact compare_infinity s hv hq
  | zero s =>
    cases hp
    exact compare_zero s hq
  | finite s m e hm =>
    cases hp
    exact compare_finite s hm hu.1 hu.2 hv hq

theorem compare_eq_none {u v : UnpackedFloat} (h : placeOf u = none ∨ placeOf v = none) : u.compare v = none := by
  rcases h with h | h
  · cases u <;> first | rfl | cases h
  · cases v <;> cases u <;> first | rfl | cases h

theorem readable (x : Float) : Readable x.toModel.unpack :=
  readable_unpack _

theorem lt_iff_compare (x y : Float) : x < y ↔ x.toModel.unpack.compare y.toModel.unpack = some .lt := by
  show decide (x.toModel < y.toModel) = true ↔ _
  rw [decide_eq_true_iff]
  exact beq_iff_eq

theorem le_iff_compare (x y : Float) :
    x ≤ y ↔ (x.toModel.unpack.compare y.toModel.unpack).any (·.isLE) = true := by
  show decide (x.toModel ≤ y.toModel) = true ↔ _
  rw [decide_eq_true_iff]
  rfl

theorem beq_iff_compare (x y : Float) : (x == y) = true ↔ x.toModel.unpack.compare y.toModel.unpack = some .eq := by
  show (x.toModel.unpack.compare y.toModel.unpack == some .eq) = true ↔ _
  exact beq_iff_eq

/-- **A number is below another one exactly when its place is.** -/
theorem lt_iff {x y : Float} : x < y ↔ ∃ p ∈ place? x, ∃ q ∈ place? y, p < q := by
  rw [lt_iff_compare]
  cases hx : place? x with
  | none => simp [compare_eq_none (Or.inl hx)]
  | some p =>
    cases hy : place? y with
    | none => simp [compare_eq_none (Or.inr hy)]
    | some q =>
      rw [compare_eq_of_placeOf (readable x) (readable y) hx hy]
      simp [compare_lt_iff_lt]

theorem le_iff {x y : Float} : x ≤ y ↔ ∃ p ∈ place? x, ∃ q ∈ place? y, p ≤ q := by
  rw [le_iff_compare]
  cases hx : place? x with
  | none => simp [compare_eq_none (Or.inl hx)]
  | some p =>
    cases hy : place? y with
    | none => simp [compare_eq_none (Or.inr hy)]
    | some q =>
      rw [compare_eq_of_placeOf (readable x) (readable y) hx hy]
      simp [Ordering.isLE_iff_ne_gt, compare_gt_iff_gt]

/-- **Two numbers are equal as IEEE 754 has it exactly when they share their place**: the two zeros do, and
not-a-number has none. -/
theorem beq_iff {x y : Float} : (x == y) = true ↔ ∃ p ∈ place? x, p ∈ place? y := by
  rw [beq_iff_compare]
  cases hx : place? x with
  | none => simp [compare_eq_none (Or.inl hx)]
  | some p =>
    cases hy : place? y with
    | none => simp [compare_eq_none (Or.inr hy)]
    | some q =>
      rw [compare_eq_of_placeOf (readable x) (readable y) hx hy]
      simp only [Option.some.injEq, compare_eq_iff_eq, Option.mem_def, exists_eq_left']
      exact eq_comm

/-! ## Laws of the order -/

theorem le_of_lt {x y : Float} (h : x < y) : x ≤ y := by
  obtain ⟨p, hp, q, hq, hpq⟩ := lt_iff.1 h
  exact le_iff.2 ⟨p, hp, q, hq, Int.le_of_lt hpq⟩

theorem le_trans {x y z : Float} (h : x ≤ y) (h' : y ≤ z) : x ≤ z := by
  obtain ⟨p, hp, q, hq, hpq⟩ := le_iff.1 h
  obtain ⟨q', hq', r, hr, hqr⟩ := le_iff.1 h'
  cases Option.some.inj (hq.symm.trans hq')
  exact le_iff.2 ⟨p, hp, r, hr, Int.le_trans hpq hqr⟩

instance transLe : @Trans Float Float Float LE.le LE.le LE.le :=
  ⟨le_trans⟩

theorem lt_of_le_of_lt {x y z : Float} (h : x ≤ y) (h' : y < z) : x < z := by
  obtain ⟨p, hp, q, hq, hpq⟩ := le_iff.1 h
  obtain ⟨q', hq', r, hr, hqr⟩ := lt_iff.1 h'
  cases Option.some.inj (hq.symm.trans hq')
  exact lt_iff.2 ⟨p, hp, r, hr, Int.lt_of_le_of_lt hpq hqr⟩

protected theorem lt_of_lt_of_le {x y z : Float} (h : x < y) (h' : y ≤ z) : x < z := by
  obtain ⟨p, hp, q, hq, hpq⟩ := lt_iff.1 h
  obtain ⟨q', hq', r, hr, hqr⟩ := le_iff.1 h'
  cases Option.some.inj (hq.symm.trans hq')
  exact lt_iff.2 ⟨p, hp, r, hr, Int.lt_of_lt_of_le hpq hqr⟩

theorem beq_of_le_of_le {x y : Float} (h : x ≤ y) (h' : y ≤ x) : (x == y) = true := by
  obtain ⟨p, hp, q, hq, hpq⟩ := le_iff.1 h
  obtain ⟨q', hq', p', hp', hqp⟩ := le_iff.1 h'
  cases Option.some.inj (hp.symm.trans hp')
  cases Option.some.inj (hq.symm.trans hq')
  cases Int.le_antisymm hpq hqp
  exact beq_iff.2 ⟨p, hp, hq⟩

theorem not_lt_of_le {x y : Float} (h : x ≤ y) : ¬ y < x := by
  intro hlt
  obtain ⟨p, hp, q, hq, hpq⟩ := le_iff.1 h
  obtain ⟨q', hq', p', hp', hqp⟩ := lt_iff.1 hlt
  cases Option.some.inj (hp.symm.trans hp')
  cases Option.some.inj (hq.symm.trans hq')
  omega

theorem exists_place {x : Float} (h : x.isNaN = false) : ∃ p, place? x = some p := by
  have hnan : x.toModel.unpack.isNaN = false := h
  unfold place?
  generalize x.toModel.unpack = u at hnan
  cases u with
  | notANumber => cases hnan
  | infinity s => exact ⟨_, rfl⟩
  | zero s => exact ⟨_, rfl⟩
  | finite s m e hm => exact ⟨_, rfl⟩

theorem isNaN_of_place {x : Float} {p : Int} (h : place? x = some p) : x.isNaN = false := by
  show x.toModel.unpack.isNaN = false
  unfold place? at h
  generalize x.toModel.unpack = u at h
  cases u with
  | notANumber => cases h
  | infinity s => rfl
  | zero s => rfl
  | finite s m e hm => rfl

/-- **Two numbers can be compared.** -/
theorem lt_or_le {x y : Float} (hx : x.isNaN = false) (hy : y.isNaN = false) : x < y ∨ y ≤ x := by
  obtain ⟨p, hp⟩ := exists_place hx
  obtain ⟨q, hq⟩ := exists_place hy
  rcases Int.lt_or_le p q with h | h
  · exact Or.inl (lt_iff.2 ⟨p, hp, q, hq, h⟩)
  · exact Or.inr (le_iff.2 ⟨q, hq, p, hp, h⟩)

protected theorem le_refl {x : Float} (hx : x.isNaN = false) : x ≤ x := by
  obtain ⟨p, hp⟩ := exists_place hx
  exact le_iff.2 ⟨p, hp, p, hp, Int.le_refl p⟩

theorem isNaN_of_lt {x y : Float} (h : x < y) : x.isNaN = false ∧ y.isNaN = false := by
  obtain ⟨p, hp, q, hq, -⟩ := lt_iff.1 h
  exact ⟨isNaN_of_place hp, isNaN_of_place hq⟩

theorem isNaN_of_le {x y : Float} (h : x ≤ y) : x.isNaN = false ∧ y.isNaN = false := by
  obtain ⟨p, hp, q, hq, -⟩ := le_iff.1 h
  exact ⟨isNaN_of_place hp, isNaN_of_place hq⟩

theorem lt_congr_right {x y z : Float} (h : (y == z) = true) : x < y ↔ x < z := by
  obtain ⟨p, hy, hz⟩ := beq_iff.1 h
  rw [lt_iff, lt_iff, Option.mem_def.1 hy, Option.mem_def.1 hz]

end Binary64
end LinkAdaptation

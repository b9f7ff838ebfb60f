import LinkAdaptation.Decimal.Basic
import LinkAdaptation.Proofs.Binary64.Order
/-!
# Subtraction of binary64 numbers

On the line of places a difference is taken exactly, rounded to 53 bits with a half going to the even neighbour, and held
at the ends of the line (`place_sub`).  Each of the three keeps the order, so a number takes away more from what is
subtracted less: `sub_le_sub_left`, the one law that error probabilities `1 - success` need.
-/
namespace LinkAdaptation
namespace Binary64

open Float.Model Float.Model.UnpackedFloat

/-! ## Rounding quotients -/

theorem roundDiv_bounds (n d : Nat) :
    n / d ≤ Decimal.roundDiv .toEven n d ∧ Decimal.roundDiv .toEven n d ≤ n / d + 1 := by
  unfold Decimal.roundDiv Decimal.Tie.settle
  dsimp only
  split
  · omega
  split <;> omega

theorem roundDiv_mul_right (n d : Nat) {c : Nat} (hc : 0 < c) :
    Decimal.roundDiv .toEven (n * c) (d * c) = Decimal.roundDiv .toEven n d := by
  have h1 : 2 * (n % d * c) < d * c ↔ 2 * (n % d) < d := by rw [← mul_assoc]; exact Nat.mul_lt_mul_right hc
  have h2 : d * c < 2 * (n % d * c) ↔ d < 2 * (n % d) := by rw [← mul_assoc]; exact Nat.mul_lt_mul_right hc
  unfold Decimal.roundDiv
  simp only [Nat.mul_div_mul_right n d hc, Nat.mul_mod_mul_right, h1, h2]

theorem roundDiv_mul_self (n : Nat) {d : Nat} (hd : 0 < d) : Decimal.roundDiv .toEven (n * d) d = n := by
  unfold Decimal.roundDiv
  simp [Nat.mul_div_cancel n hd, hd]

theorem roundDiv_mono {n n' : Nat} (d : Nat) (h : n ≤ n') :
    Decimal.roundDiv .toEven n d ≤ Decimal.roundDiv .toEven n' d := by
  have hq : n / d ≤ n' / d := Nat.div_le_div_right h
  rcases Nat.lt_or_eq_of_le hq with hlt | heq
  · have := (roundDiv_bounds n d).2
    have := (roundDiv_bounds n' d).1
    omega
  · have hr : n % d ≤ n' % d := by
      have h1 := Nat.div_add_mod n d
      have h2 := Nat.div_add_mod n' d
      rw [← heq] at h2
      omega
    unfold Decimal.roundDiv Decimal.Tie.settle
    dsimp only
    rw [← heq]
    split <;> split <;> (try split) <;> (try split) <;> omega

/-! ## Rounding to 53 bits -/

/-- The bits of a natural number that 53 bits do not hold. -/
def surplus (n : Nat) : Nat :=
  n.log2 - 52

/-- A natural number rounded to 53 bits, a half to the even neighbour. -/
def rounded (n : Nat) : Nat :=
  Decimal.roundDiv .toEven n (2 ^ surplus n) * 2 ^ surplus n

theorem surplus_mono {n n' : Nat} (hn : 0 < n) (h : n ≤ n') : surplus n ≤ surplus n' := by
  have : n.log2 ≤ n'.log2 := (Nat.le_log2 (by omega)).2 (Nat.le_trans (Nat.log2_self_le (by omega)) h)
  unfold surplus
  omega

theorem log2_mul_two_pow {n : Nat} (hn : 0 < n) (k : Nat) : (n * 2 ^ k).log2 = n.log2 + k := by
  rw [Nat.log2_eq_iff (Nat.mul_pos hn (Nat.two_pow_pos k)).ne']
  have h1 := Nat.log2_self_le hn.ne'
  have h2 := @Nat.lt_log2_self n
  constructor
  · rw [pow_add]; exact Nat.mul_le_mul_right _ h1
  · rw [show n.log2 + k + 1 = (n.log2 + 1) + k by omega, pow_add]
    exact Nat.mul_lt_mul_of_pos_right h2 (Nat.two_pow_pos k)

theorem div_surplus_lt (n : Nat) : n / 2 ^ surplus n < 2 ^ 53 := by
  rw [Nat.div_lt_iff_lt_mul (Nat.two_pow_pos _), ← pow_add]
  exact lt_of_lt_of_le Nat.lt_log2_self (Nat.pow_le_pow_right (by decide) (by unfold surplus; omega))

theorem le_div_surplus {n : Nat} (h : 2 ^ 52 ≤ n) : 2 ^ 52 ≤ n / 2 ^ surplus n := by
  have hn : n ≠ 0 := by omega
  have hlog : 52 ≤ n.log2 := (Nat.le_log2 hn).2 h
  rw [Nat.le_div_iff_mul_le (Nat.two_pow_pos _), ← pow_add, surplus, Nat.add_sub_cancel' hlog]
  exact Nat.log2_self_le hn

theorem surplus_of_lt {n : Nat} (h : n < 2 ^ 53) : surplus n = 0 := by
  rcases Nat.eq_zero_or_pos n with rfl | hn
  · rfl
  · have := (Nat.log2_lt hn.ne').2 h
    unfold surplus
    omega

/-- **Rounding keeps the order**: two numbers of one size are rounded alike, and between two sizes lies a power of two,
which is not rounded. -/
theorem rounded_mono {n n' : Nat} (h : n ≤ n') : rounded n ≤ rounded n' := by
  rcases Nat.eq_zero_or_pos n with rfl | hn
  · have : rounded 0 = 0 := by decide
    omega
  -- the power of two between the sizes: `n` is rounded up to it at most, `n'` down to it at most
  rcases Nat.lt_or_eq_of_le (surplus_mono hn h) with hlt | heq
  · have hup : rounded n ≤ 2 ^ (53 + surplus n) := by
      have h1 := (roundDiv_bounds n (2 ^ surplus n)).2
      have h2 := div_surplus_lt n
      rw [rounded, pow_add]
      exact Nat.mul_le_mul_right _ (by omega)
    have hdown : 2 ^ (52 + surplus n') ≤ rounded n' := by
      have h1 := (roundDiv_bounds n' (2 ^ surplus n')).1
      have h2 := le_div_surplus (n := n') (by
        by_contra hsmall
        have := surplus_of_lt (n := n') (by omega)
        omega)
      rw [rounded, pow_add]
      exact Nat.mul_le_mul_right _ (by omega)
    exact Nat.le_trans hup (Nat.le_trans (Nat.pow_le_pow_right (by decide) (by omega)) hdown)
  · unfold rounded
    rw [← heq]
    exact Nat.mul_le_mul_right _ (roundDiv_mono _ h)

theorem rounded_mul_two_pow {m : Nat} (hm : m < 2 ^ 53) (k : Nat) : rounded (m * 2 ^ k) = m * 2 ^ k := by
  rcases Nat.eq_zero_or_pos m with rfl | hpos
  · rw [zero_mul]; decide
  have hlog : m.log2 < 53 := (Nat.log2_lt hpos.ne').2 hm
  have hs : surplus (m * 2 ^ k) ≤ k := by rw [surplus, log2_mul_two_pow hpos]; omega
  obtain ⟨j, hj⟩ := Nat.exists_eq_add_of_le' hs
  unfold rounded
  generalize surplus (m * 2 ^ k) = t at hj
  rw [hj, pow_add, ← mul_assoc, roundDiv_mul_self _ (Nat.two_pow_pos t)]

theorem rounded_mul_pow (n k : Nat) : rounded (n * 2 ^ k) = rounded n * 2 ^ k := by
  rcases Nat.lt_or_ge n (2 ^ 53) with hlt | hge
  · have h0 := rounded_mul_two_pow hlt 0
    rw [pow_zero, mul_one] at h0
    rw [rounded_mul_two_pow hlt, h0]
  · have hn : 0 < n := by omega
    have hlog : 53 ≤ n.log2 := (Nat.le_log2 hn.ne').2 hge
    have hs : surplus (n * 2 ^ k) = surplus n + k := by
      unfold surplus
      rw [log2_mul_two_pow hn]
      omega
    unfold rounded
    rw [hs, pow_add, roundDiv_mul_right _ _ (Nat.two_pow_pos k), mul_assoc]

/-! ## Rounding of mantissas

The arithmetic on mantissas shifts a mantissa to the right bit by bit and keeps two bits of what it drops: the highest
one, and whether any other one was set. -/

/-- The two bits that are kept say how twice the dropped part compares with the power of two it was divided by. -/
structure Remembers (n k : Nat) (em : ExtendedMantissa) : Prop where
  mantissa_eq : em.mantissa = n / 2 ^ k
  roundBit_iff : em.roundBit = true ↔ 2 ^ k ≤ 2 * (n % 2 ^ k)
  stickyBit_iff : em.stickyBit = true ↔ 2 * (n % 2 ^ k) ≠ if em.roundBit then 2 ^ k else 0

theorem remembers_start (n : Nat) : Remembers n 0 (.ofMantissaAndAccuracy n .exact) := by
  refine ⟨?_, ?_, ?_⟩
  · simp [ExtendedMantissa.ofMantissaAndAccuracy]
  · simp [ExtendedMantissa.ofMantissaAndAccuracy, Nat.mod_one]
  · simp [ExtendedMantissa.ofMantissaAndAccuracy, Nat.mod_one]

theorem Remembers.shiftRightOne {n k : Nat} {em : ExtendedMantissa} (h : Remembers n k em) :
    Remembers n (k + 1) em.shiftRightOne := by
  have hpos := Nat.two_pow_pos k
  have hr : n % 2 ^ k < 2 ^ k := Nat.mod_lt _ hpos
  have hmod : n % 2 ^ (k + 1) = n % 2 ^ k + 2 ^ k * (n / 2 ^ k % 2) := by rw [pow_succ, Nat.mod_mul]
  have hbit : n / 2 ^ k % 2 = 0 ∨ n / 2 ^ k % 2 = 1 := by omega
  have hdropped : (em.roundBit || em.stickyBit) = true ↔ n % 2 ^ k ≠ 0 := by
    rw [Bool.or_eq_true, h.stickyBit_iff]
    have := h.roundBit_iff
    cases hb : em.roundBit
    · simp [hb] at this ⊢
    · simp [hb] at this ⊢
      omega
  refine ⟨?_, ?_, ?_⟩
  · show em.mantissa / 2 = _
    rw [h.mantissa_eq, pow_succ, Nat.div_div_eq_div_mul]
  · show (em.mantissa % 2 != 0) = true ↔ _
    rw [h.mantissa_eq, hmod, pow_succ]
    rcases hbit with hb | hb
    · rw [hb]; simp; omega
    · rw [hb]; simp; omega
  · show (em.roundBit || em.stickyBit) = true ↔ 2 * (n % 2 ^ (k + 1)) ≠ if (em.mantissa % 2 != 0) = true then _ else _
    rw [hdropped, h.mantissa_eq, hmod, pow_succ]
    rcases hbit with hb | hb
    · rw [hb]; simp
    · rw [hb]; simp; omega

theorem remembers_shiftRight (n k : Nat) : Remembers n k (ExtendedMantissa.ofMantissaAndAccuracy n .exact >>> k) := by
  induction k with
  | zero => exact remembers_start n
  | succ k ih => exact ih.shiftRightOne

/-- **Shifting and then rounding is rounding a quotient.** -/
theorem Remembers.roundedMantissa_eq {n k : Nat} {em : ExtendedMantissa} (h : Remembers n k em) :
    em.roundedMantissa = Decimal.roundDiv .toEven n (2 ^ k) := by
  obtain ⟨m, r, s⟩ := em
  obtain ⟨rfl, hr, hs⟩ := h
  simp only [ExtendedMantissa.roundedMantissa, Decimal.roundDiv, Decimal.Tie.settle]
  cases r <;> cases s <;> simp at hr hs <;> simp only [ExtendedMantissa.accuracy, Accuracy.roundToNearestEven]
  · rw [if_pos (by omega)]
  · rw [if_pos (by omega)]
  · rw [if_neg (by omega), if_neg (by omega)]
  · rw [if_neg (by omega), if_pos (by omega)]

theorem shiftToTargetExponent_eq (n : Nat) {e : Int} (he : -1074 ≤ e) :
    shiftToTargetExponent Format.binary64 n e .exact =
      (ExtendedMantissa.ofMantissaAndAccuracy n .exact >>> surplus n, e + surplus n) := by
  have ht : (Format.binary64.targetExponent (totalExponent n e) - e).toNat = surplus n := by
    show (max ((n.log2 : Int) + 1 + e - 53) (-1074) - e).toNat = n.log2 - 52
    omega
  simp only [shiftToTargetExponent, shiftToExponent, ht]

/-- What 53 bits of a number say, once it is rounded: a carry may make them `2 ^ 53`. -/
theorem roundDiv_surplus_bounds {n : Nat} (hn : 0 < n) :
    0 < Decimal.roundDiv .toEven n (2 ^ surplus n) ∧ Decimal.roundDiv .toEven n (2 ^ surplus n) ≤ 2 ^ 53 ∧
      (2 ^ 52 ≤ n → 2 ^ 52 ≤ Decimal.roundDiv .toEven n (2 ^ surplus n)) := by
  obtain ⟨h1, h2⟩ := roundDiv_bounds n (2 ^ surplus n)
  have h3 := div_surplus_lt n
  refine ⟨?_, by omega, fun h => Nat.le_trans (le_div_surplus h) h1⟩
  by_cases hlarge : 2 ^ 52 ≤ n
  · have := le_div_surplus hlarge
    omega
  · rw [surplus_of_lt (by omega), pow_zero, Nat.div_one] at h1
    rw [surplus_of_lt (by omega), pow_zero]
    omega

theorem div_surplus_mul {r : Nat} (hr : r ≤ 2 ^ 53) : r / 2 ^ surplus r * 2 ^ surplus r = r := by
  rcases Nat.lt_or_eq_of_le hr with hlt | rfl
  · rw [surplus_of_lt hlt, pow_zero, Nat.div_one, Nat.mul_one]
  · decide

/-- **Rounding a mantissa that is long enough**: the result can be read, or its exponent is too large. -/
theorem roundWithAccuracy_eq (s : Sign) {n : Nat} {e : Int} (hn : 0 < n) (he : -1074 ≤ e)
    (hfull : 2 ^ 52 ≤ n ∨ e = -1074) :
    ∃ m f h, roundWithAccuracy Format.binary64 s n e .exact = .finite s m f h ∧ Canonical m f ∧
      m * 2 ^ (f + 1074).toNat = rounded n * 2 ^ (e + 1074).toNat := by
  obtain ⟨hpos, hle, hlarge⟩ := roundDiv_surplus_bounds hn
  have hshift : ∀ k j : Nat, (e + k + j + 1074).toNat = j + (k + (e + 1074).toNat) := by omega
  have hr : (ExtendedMantissa.ofMantissaAndAccuracy n .exact >>> surplus n).roundedMantissa =
      Decimal.roundDiv .toEven n (2 ^ surplus n) := (remembers_shiftRight n _).roundedMantissa_eq
  unfold roundWithAccuracy
  rw [shiftToTargetExponent_eq n he]
  dsimp only
  rw [hr, rounded]
  generalize Decimal.roundDiv .toEven n (2 ^ surplus n) = r at *
  -- the second shift takes back the bit that a carry to `2 ^ 53` has added; it drops nothing else
  have hm := (remembers_shiftRight r (surplus r)).mantissa_eq
  have hexact := div_surplus_mul hle
  have hM : 0 < r / 2 ^ surplus r := Nat.pos_of_mul_pos_right (hexact.symm ▸ hpos)
  rw [shiftToTargetExponent_eq r (by omega)]
  dsimp only
  rw [dif_neg (by rw [hm]; exact hM.ne')]
  refine ⟨_, _, _, rfl, ⟨?_, by omega, ?_⟩, ?_⟩
  · rw [hm]
    exact div_surplus_lt r
  · rw [hm]
    by_cases hbig : 2 ^ 52 ≤ r
    · exact Or.inl (le_div_surplus hbig)
    · have hsmall : ¬ 2 ^ 52 ≤ n := fun h => hbig (hlarge h)
      have hleast := hfull.resolve_left hsmall
      rw [surplus_of_lt (by omega), surplus_of_lt (by omega)]
      exact Or.inr (by omega)
  · rw [hm, hshift, pow_add, ← mul_assoc, hexact, pow_add, mul_assoc]

theorem decreaseExponent_eq (n : Nat) (e t : Int) :
    decreaseExponent n e t = (n * 2 ^ (e - t).toNat, e - (e - t).toNat) := by
  simp only [decreaseExponent, Nat.shiftLeft_eq]

/-- **Rounding on the line of places**: the place is rounded to 53 bits. -/
theorem round_eq (s : Sign) {n : Nat} {e : Int} (hn : 0 < n) (he : -1074 ≤ e) :
    ∃ m f h, UnpackedFloat.round Format.binary64 s n e = .finite s m f h ∧ Canonical m f ∧
      m * 2 ^ (f + 1074).toNat = rounded (n * 2 ^ (e + 1074).toNat) := by
  -- a short mantissa is lengthened first, down to the least exponent if need be
  obtain ⟨t, ht⟩ : ∃ t, t = Format.binary64.targetExponent (totalExponent n e) := ⟨_, rfl⟩
  have htarget : t = max ((n.log2 : Int) + 1 + e - 53) (-1074) := ht
  have hfull : 2 ^ 52 ≤ n * 2 ^ (e - t).toNat ∨ e - (e - t).toNat = -1074 := by
    by_cases hleast : e - (e - t).toNat = -1074
    · exact Or.inr hleast
    · have hlog : 52 ≤ (n * 2 ^ (e - t).toNat).log2 := by rw [log2_mul_two_pow hn]; omega
      exact Or.inl ((Nat.le_log2 (Nat.mul_pos hn (Nat.two_pow_pos _)).ne').1 hlog)
  obtain ⟨m, f, h, hround, hcanonical, hplace⟩ :=
    roundWithAccuracy_eq s (Nat.mul_pos hn (Nat.two_pow_pos (e - t).toNat)) (by omega) hfull
  refine ⟨m, f, h, ?_, hcanonical, ?_⟩
  · unfold UnpackedFloat.round
    simp only [← ht, decreaseExponent_eq]
    exact hround
  · have hexp : (e - t).toNat + (e - (e - t).toNat + 1074).toNat = (e + 1074).toNat := by omega
    rw [hplace, ← rounded_mul_pow, mul_assoc, ← pow_add, hexp]

/-! ## Packing -/

/-- A place held within the line. -/
def held (p : Int) : Int :=
  max (-endOfLine) (min p endOfLine)

theorem held_mono {p q : Int} (h : p ≤ q) : held p ≤ held q := by
  unfold held
  omega

theorem held_zero : held 0 = 0 := by
  have := endOfLine_pos
  unfold held
  omega

theorem unpackSign_packComponents (s : Sign) (e : BitVec 11) (m : BitVec 52) :
    Sign.ofBitVec (unpackSign (packComponents Format.binary64 s e m)) = s := by
  have : unpackSign (packComponents Format.binary64 s e m) = s.toBitVec := by
    ext i hi
    have hi : i = 0 := by omega
    subst hi
    have hall : (s.toBitVec ++ e ++ m).getLsbD 63 = (s.toBitVec ++ e).getLsbD 11 := BitVec.getLsbD_append
    have hhigh : (s.toBitVec ++ e).getLsbD 11 = s.toBitVec.getLsbD 0 := BitVec.getLsbD_append
    simp only [unpackSign, packComponents, BitVec.extractLsb, BitVec.getElem_cast, BitVec.getElem_extractLsb']
    exact hall.trans hhigh
  rw [this]
  cases s <;> rfl

theorem unpack_pack_normal (s : Sign) {m : Nat} {e : Int} (h : 0 < m) (hc : Canonical m e) (he : e ≤ 971)
    (hm : 2 ^ 52 ≤ m) :
    UnpackedFloat.unpack Format.binary64 (UnpackedFloat.pack Format.binary64 (.finite s m e h)) = .finite s m e h := by
  have hlog : m.log2 = 52 := (Nat.log2_eq_iff h.ne').2 ⟨hm, hc.mantissa_lt⟩
  have hlow := hc.le_exponent
  have hlt := hc.mantissa_lt
  have hpack : UnpackedFloat.pack Format.binary64 (.finite s m e h) =
      packComponents Format.binary64 s (BitVec.ofNat 11 (e + 1023 + 52).toNat) (BitVec.ofNat 52 m) := by
    show (if 2 ^ 11 ≤ (e + 1023 + 52).toNat + 1 then _ else if m.log2 + 1 = 53 then _ else _) = _
    rw [if_neg (by omega), if_pos (by omega)]
    rfl
  have hfield : (BitVec.ofNat 11 (e + 1023 + 52).toNat).toNat = (e + 1023 + 52).toNat := by
    rw [BitVec.toNat_ofNat, Nat.mod_eq_of_lt (by omega)]
  have hmantissa : (1#1 ++ BitVec.ofNat 52 m).toNat = m := by
    rw [toNat_one_append, BitVec.toNat_ofNat]
    omega
  have hexponent : ((BitVec.ofNat 11 (e + 1023 + 52).toNat).toNat : Int) - (1023 + 52) = e := by
    rw [hfield]
    omega
  rw [hpack]
  unfold UnpackedFloat.unpack
  simp only [unpackMantissa_packComponents, unpackExponent_packComponents, unpackSign_packComponents]
  rw [if_neg (fun hones => ?_), if_neg (fun hzero => ?_)]
  · rw [UnpackedFloat.finite.injEq]
    exact ⟨rfl, hmantissa, hexponent⟩
  · have := congrArg BitVec.toNat hzero
    rw [hfield] at this
    simp at this
    omega
  · have := congrArg BitVec.toNat hones
    rw [hfield] at this
    simp at this
    omega

theorem unpack_pack_least (s : Sign) {m : Nat} (h : 0 < m) (hm : m < 2 ^ 52) :
    UnpackedFloat.unpack Format.binary64 (UnpackedFloat.pack Format.binary64 (.finite s m (-1074) h)) =
      .finite s m (-1074) h := by
  have hlog : m.log2 < 52 := (Nat.log2_lt h.ne').2 hm
  have hpack : UnpackedFloat.pack Format.binary64 (.finite s m (-1074) h) =
      packComponents Format.binary64 s 0#11 (BitVec.ofNat 52 m) := by
    show (if 2 ^ 11 ≤ (-1074 + 1023 + 52 : Int).toNat + 1 then packedInfinity Format.binary64 s
      else if m.log2 + 1 = 53 then _ else _) = _
    rw [if_neg (by decide), if_neg (by omega)]
  have hmantissa : (BitVec.ofNat 52 m).toNat = m := by
    rw [BitVec.toNat_ofNat, Nat.mod_eq_of_lt hm]
  have hnonzero : BitVec.ofNat 52 m ≠ 0#52 := fun hzero => by
    have := congrArg BitVec.toNat hzero
    rw [hmantissa] at this
    simp at this
    omega
  rw [hpack]
  unfold UnpackedFloat.unpack
  simp only [unpackMantissa_packComponents, unpackExponent_packComponents, unpackSign_packComponents]
  rw [if_neg (by decide : ¬ (0#11 : BitVec 11) = -1#11), if_pos trivial, dif_neg hnonzero, UnpackedFloat.finite.injEq]
  exact ⟨rfl, hmantissa, by decide⟩

theorem unpack_pack_overflow (s : Sign) {m : Nat} {e : Int} (h : 0 < m) (he : 972 ≤ e) :
    UnpackedFloat.unpack Format.binary64 (UnpackedFloat.pack Format.binary64 (.finite s m e h)) = .infinity s := by
  have hpack : UnpackedFloat.pack Format.binary64 (.finite s m e h) = packedInfinity Format.binary64 s := by
    show (if 2 ^ 11 ≤ (e + 1023 + 52).toNat + 1 then _ else _) = _
    rw [if_pos (by omega)]
  rw [hpack]
  cases s <;> rfl

theorem two_pow_le_mul_two_pow {m j k : Nat} (hm : 2 ^ 52 ≤ m) (hj : k + 1 ≤ j) : 2 ^ (53 + k) ≤ m * 2 ^ j :=
  calc 2 ^ (53 + k) = 2 ^ 52 * 2 ^ (k + 1) := by rw [← pow_add]; congr 1; omega
    _ ≤ m * 2 ^ j := Nat.mul_le_mul hm (Nat.pow_le_pow_right (by decide) hj)

theorem held_of_lt {p : Int} (s : Sign) (hp : 0 < p) (h : p < endOfLine) : held (s.apply p) = s.apply p := by
  cases s <;> simp only [Sign.apply, held] <;> omega

theorem held_of_le {p : Int} (s : Sign) (h : endOfLine ≤ p) : held (s.apply p) = s.apply endOfLine := by
  have := endOfLine_pos
  cases s <;> simp only [Sign.apply, held] <;> omega

/-- **Packing holds a place within the line**: what is too large becomes infinite. -/
theorem placeOf_unpack_pack (s : Sign) {m : Nat} {e : Int} (h : 0 < m) (hc : Canonical m e) :
    placeOf (UnpackedFloat.unpack Format.binary64 (UnpackedFloat.pack Format.binary64 (.finite s m e h))) =
      some (held (s.apply (m * 2 ^ (e + 1074).toNat : Nat))) := by
  -- a canonical mantissa is packed as it is, with the hidden bit or at the least exponent
  by_cases he : e ≤ 971
  · have hread : UnpackedFloat.unpack Format.binary64 (UnpackedFloat.pack Format.binary64 (.finite s m e h)) =
        .finite s m e h := by
      by_cases hm : 2 ^ 52 ≤ m
      · exact unpack_pack_normal s h hc he hm
      · cases hc.full.resolve_left hm
        exact unpack_pack_least s h (by omega)
    rw [hread, placeOf, held_of_lt s (place_pos e h) (hc.lt_endOfLine he)]
  · have hfull : 2 ^ 52 ≤ m := hc.full.resolve_right (by omega)
    have hend : endOfLine ≤ (m * 2 ^ (e + 1074).toNat : Nat) :=
      Int.ofNat_le.2 (two_pow_le_mul_two_pow hfull (by omega))
    rw [unpack_pack_overflow s h (by omega), placeOf, held_of_le s hend]

/-! ## Differences -/

/-- A place rounded to 53 bits, on either side of zero. -/
def roundedPlace (p : Int) : Int :=
  p.sign * rounded p.natAbs

theorem roundedPlace_natCast (n : Nat) : roundedPlace n = rounded n := by
  rcases Nat.eq_zero_or_pos n with rfl | hn
  · decide
  · rw [roundedPlace, Int.natAbs_natCast, Int.sign_eq_one_of_pos (Int.ofNat_lt.2 hn), one_mul]

theorem roundedPlace_neg (p : Int) : roundedPlace (-p) = -roundedPlace p := by
  rw [roundedPlace, roundedPlace, Int.natAbs_neg, Int.sign_neg, neg_mul]

theorem roundedPlace_apply (s : Sign) (n : Nat) : roundedPlace (s.apply n) = s.apply (rounded n : Nat) := by
  cases s
  · exact (roundedPlace_neg n).trans (congrArg _ (roundedPlace_natCast n))
  · exact roundedPlace_natCast n

theorem roundedPlace_mono {p q : Int} (h : p ≤ q) : roundedPlace p ≤ roundedPlace q := by
  have hnat : ∀ {a b : Nat}, a ≤ b → (rounded a : Int) ≤ rounded b := fun h => Int.ofNat_le.2 (rounded_mono h)
  rcases Int.eq_nat_or_neg p with ⟨a, rfl | rfl⟩ <;> rcases Int.eq_nat_or_neg q with ⟨b, rfl | rfl⟩
  · rw [roundedPlace_natCast, roundedPlace_natCast]
    exact hnat (by omega)
  · obtain ⟨rfl, rfl⟩ : a = 0 ∧ b = 0 := by omega
    exact Int.le_refl _
  · rw [roundedPlace_neg, roundedPlace_natCast, roundedPlace_natCast]
    omega
  · rw [roundedPlace_neg, roundedPlace_neg, roundedPlace_natCast, roundedPlace_natCast]
    exact Int.neg_le_neg (hnat (by omega))

/-- A result as it is read off the bits it is kept in. -/
def repacked (u : UnpackedFloat) : UnpackedFloat :=
  UnpackedFloat.unpack Format.binary64 (UnpackedFloat.pack Format.binary64 u)

theorem repacked_zero (s : Sign) : repacked (.zero s) = .zero s := by
  cases s <;> rfl

theorem repacked_infinity (s : Sign) : repacked (.infinity s) = .infinity s := by
  cases s <;> rfl

theorem placeOf_repacked_finite (s : Sign) {m : Nat} {e : Int} (h : 0 < m) (hc : Canonical m e) :
    placeOf (repacked (.finite s m e h)) = some (held (roundedPlace (s.apply (m * 2 ^ (e + 1074).toNat : Nat)))) := by
  rw [repacked, placeOf_unpack_pack s h hc, roundedPlace_apply, rounded_mul_two_pow hc.mantissa_lt]

/-- The place of an exact result, given as a whole multiple of a power of two. -/
theorem placeOf_repacked_normalize (k : Int) {e : Int} (he : -1074 ≤ e) :
    placeOf (repacked (UnpackedFloat.normalize Format.binary64 k e .positive)) =
      some (held (roundedPlace (k * (2 ^ (e + 1074).toNat : Nat)))) := by
  have hround : ∀ (s : Sign) {n : Nat}, 0 < n →
      placeOf (repacked (UnpackedFloat.round Format.binary64 s n e)) =
        some (held (roundedPlace (s.apply (n * 2 ^ (e + 1074).toNat : Nat)))) := by
    intro s n hn
    obtain ⟨m, f, h, heq, hcanonical, hplace⟩ := round_eq s hn he
    rw [heq, repacked, placeOf_unpack_pack s h hcanonical, hplace, roundedPlace_apply]
  unfold UnpackedFloat.normalize
  rcases lt_trichotomy k 0 with hk | rfl | hk
  · obtain ⟨n, rfl⟩ : ∃ n : Nat, k = -n := ⟨k.natAbs, by omega⟩
    rw [compare_lt_iff_lt.2 hk]
    have hneg : (-(n : Int)) * (2 ^ (e + 1074).toNat : Nat) = -((n * 2 ^ (e + 1074).toNat : Nat) : Int) := by
      rw [neg_mul, Int.natCast_mul]
    rw [hneg]
    have := hround .negative (n := (- -(n : Int)).toNat) (by omega)
    rw [neg_neg, Int.toNat_natCast] at this ⊢
    exact this
  · rw [compare_eq_iff_eq.2 rfl, zero_mul]
    exact (congrArg placeOf (repacked_zero .positive)).trans (congrArg some held_zero.symm)
  · obtain ⟨n, rfl⟩ : ∃ n : Nat, k = n := ⟨k.natAbs, by omega⟩
    rw [compare_gt_iff_gt.2 hk, ← Int.natCast_mul]
    exact hround .positive (by omega)

theorem apply_shiftLeft (s : Sign) (m : Nat) {e t : Int} (ht : -1074 ≤ t) (hte : t ≤ e) :
    s.apply (m <<< (e - t).toNat : Nat) * (2 ^ (t + 1074).toNat : Nat) =
      s.apply (m * 2 ^ (e + 1074).toNat : Nat) := by
  have hexp : (e - t).toNat + (t + 1074).toNat = (e + 1074).toNat := by omega
  have hmag : m * 2 ^ (e - t).toNat * 2 ^ (t + 1074).toNat = m * 2 ^ (e + 1074).toNat := by
    rw [mul_assoc, ← pow_add, hexp]
  rw [Nat.shiftLeft_eq, ← hmag, Int.natCast_mul (m * 2 ^ (e - t).toNat)]
  cases s
  · exact neg_mul _ _
  · rfl

theorem placeOf_sub_finite {u v : UnpackedFloat} (hu : Readable u) (hv : Readable v) (hfu : u.isFinite = true)
    (hfv : v.isFinite = true) {k p : Int} (hk : placeOf u = some k) (hp : placeOf v = some p) :
    placeOf (repacked (UnpackedFloat.sub Format.binary64 u v)) = some (held (roundedPlace (k - p))) := by
  cases u with
  | notANumber => cases hfu
  | infinity s => cases hfu
  | zero s =>
    cases hk
    cases v with
    | notANumber => cases hfv
    | infinity t => cases hfv
    | zero t =>
      cases hp
      obtain ⟨z, hz⟩ : ∃ z, UnpackedFloat.sub Format.binary64 (.zero s) (.zero t) = .zero z := by
        cases s <;> cases t <;> exact ⟨_, rfl⟩
      rw [hz, repacked_zero]
      exact congrArg some held_zero.symm
    | finite t n f hn =>
      cases hp
      have := placeOf_repacked_finite (-t) hn hv.1
      rw [zero_sub]
      cases t
      · rwa [Sign.apply, neg_neg]
      · exact this
  | finite s m e hm =>
    cases hk
    cases v with
    | notANumber => cases hfv
    | infinity t => cases hfv
    | zero t =>
      cases hp
      rw [sub_zero]
      exact placeOf_repacked_finite s hm hu.1
    | finite t n f hn =>
      cases hp
      have he := hu.1.le_exponent
      have hf := hv.1.le_exponent
      -- at the smaller of the two exponents the difference is exact, and it is rounded only once
      refine (placeOf_repacked_normalize _ (by omega)).trans ?_
      rw [sub_mul, apply_shiftLeft s m (by omega : -1074 ≤ min e f) (by omega),
        apply_shiftLeft t n (by omega : -1074 ≤ min e f) (by omega)]

theorem sub_infinity {u : UnpackedFloat} (hu : u.isFinite = true) (s : Sign) :
    UnpackedFloat.sub Format.binary64 u (.infinity s) = .infinity (-s) := by
  cases u with
  | notANumber => cases hu
  | infinity t => cases hu
  | zero t => rfl
  | finite t m e h => rfl

/-- Where a number stands once the one at place `p` is taken away from the finite one at place `k`. -/
def placeLeft (k p : Int) : Int :=
  if p = endOfLine then -endOfLine else if p = -endOfLine then endOfLine else held (roundedPlace (k - p))

theorem Canonical.within {m : Nat} {e : Int} (h : Canonical m e) (he : e ≤ 971) (s : Sign) :
    -endOfLine < s.apply (m * 2 ^ (e + 1074).toNat : Nat) ∧ s.apply (m * 2 ^ (e + 1074).toNat : Nat) < endOfLine := by
  have hlt := h.lt_endOfLine he
  cases s <;> simp only [Sign.apply] <;> omega

theorem placeOf_sub {u v : UnpackedFloat} (hu : Readable u) (hv : Readable v) (hfu : u.isFinite = true) {k p : Int}
    (hk : placeOf u = some k) (hp : placeOf v = some p) :
    placeOf (repacked (UnpackedFloat.sub Format.binary64 u v)) = some (placeLeft k p) := by
  have hend := endOfLine_pos
  unfold placeLeft
  cases v with
  | notANumber => cases hp
  | infinity s =>
    cases hp
    rw [sub_infinity hfu, repacked_infinity]
    cases s
    · rw [Sign.apply, if_neg (by omega), if_pos rfl]
      rfl
    · rw [Sign.apply, if_pos rfl]
      rfl
  | zero s =>
    rw [placeOf_sub_finite hu hv hfu rfl hk hp]
    cases hp
    rw [if_neg (by omega), if_neg (by omega)]
  | finite s m e h =>
    rw [placeOf_sub_finite hu hv hfu rfl hk hp]
    cases hp
    obtain ⟨hlow, hhigh⟩ := hv.1.within hv.2 s
    rw [if_neg (ne_of_lt hhigh), if_neg (ne_of_gt hlow)]

theorem place_bounds {x : Float} {p : Int} (h : place? x = some p) : -endOfLine ≤ p ∧ p ≤ endOfLine := by
  have hend := endOfLine_pos
  have hread := readable x
  unfold place? at h
  generalize x.toModel.unpack = u at h hread
  cases u with
  | notANumber => cases h
  | infinity s =>
    cases h
    cases s <;> simp only [Sign.apply] <;> omega
  | zero s =>
    cases h
    omega
  | finite s m e hm =>
    cases h
    obtain ⟨hlow, hhigh⟩ := hread.1.within hread.2 s
    exact ⟨Int.le_of_lt hlow, Int.le_of_lt hhigh⟩

/-- **The place of a difference.** -/
theorem place_sub {c x : Float} (hc : c.isFinite = true) {k p : Int} (hk : place? c = some k) (hp : place? x = some p) :
    place? (c - x) = some (placeLeft k p) :=
  placeOf_sub (readable c) (readable x) hc hk hp

theorem isNaN_of_isFinite {c : Float} (hc : c.isFinite = true) : c.isNaN = false := by
  have hfinite : c.toModel.unpack.isFinite = true := hc
  show c.toModel.unpack.isNaN = false
  generalize c.toModel.unpack = u at hfinite
  cases u with
  | notANumber => cases hfinite
  | infinity s => cases hfinite
  | zero s => rfl
  | finite s m e h => rfl

theorem isNaN_sub {c x : Float} (hc : c.isFinite = true) (hx : x.isNaN = false) : (c - x).isNaN = false := by
  obtain ⟨k, hk⟩ := exists_place (isNaN_of_isFinite hc)
  obtain ⟨p, hp⟩ := exists_place hx
  exact isNaN_of_place (place_sub hc hk hp)

theorem placeLeft_antitone (k : Int) {p q : Int} (hp : -endOfLine ≤ p) (hq : q ≤ endOfLine) (h : p ≤ q) :
    placeLeft k q ≤ placeLeft k p := by
  have hend := endOfLine_pos
  have hheld : ∀ r, -endOfLine ≤ held r ∧ held r ≤ endOfLine := fun r => by unfold held; omega
  have hmono := held_mono (roundedPlace_mono (show k - q ≤ k - p by omega))
  have := hheld (roundedPlace (k - p))
  have := hheld (roundedPlace (k - q))
  unfold placeLeft
  split <;> split <;> (try split) <;> (try split) <;> omega

/-- **What is subtracted less leaves more.** -/
theorem sub_le_sub_left {c x y : Float} (hc : c.isFinite = true) (h : x ≤ y) : c - y ≤ c - x := by
  obtain ⟨p, hp, q, hq, hpq⟩ := le_iff.1 h
  obtain ⟨k, hk⟩ := exists_place (isNaN_of_isFinite hc)
  exact le_iff.2 ⟨_, place_sub hc hk hq, _, place_sub hc hk hp,
    placeLeft_antitone k (place_bounds hp).1 (place_bounds hq).2 hpq⟩

end Binary64
end LinkAdaptation

import Mathlib
import LinkAdaptation.Phy.Catalog
import LinkAdaptation.Snr.Awgn
/-!
# The error curves of white Gaussian noise fall

Read over an ordered field, every error curve is one and the same tail, taken in part and at a multiple of the SNR
(`exists_share`).  The tail falls from a half because the polynomial that approximates it rises everywhere: the slope of
each of its secants is a sum of squares.  So every mode has a bit error rate that falls from a coin flip and is never
clamped, and a frame arrives the more likely the higher the SNR and the shorter the frame (`bitErrorRate_falls`).
-/
namespace LinkAdaptation

/-- What is used of the elementary functions. -/
structure Elementary.Laws (α : Type) [Field α] [LinearOrder α] [Elementary α] : Prop where
  ofNat_eq : ∀ n : Nat, (ofNat n : α) = n
  exp_pos : ∀ x : α, 0 < exp x
  exp_mono : ∀ {x y : α}, x ≤ y → exp x ≤ exp y
  exp_zero : exp (0 : α) = 1
  sqrt_nonneg : ∀ {x : α}, 0 ≤ x → 0 ≤ sqrt x
  sqrt_mono : ∀ {x y : α}, 0 ≤ x → x ≤ y → sqrt x ≤ sqrt y
  sqrt_mul_self : ∀ {x : α}, 0 ≤ x → sqrt x * sqrt x = x
  /-- The constellations of the catalogs are powers of two. -/
  log2_constellation : ∀ m ∈ Catalog.all, ∀ k : Nat, m.constellation = 2 ^ k → log2 (ofNat m.constellation : α) = k
  gain_pos : ∀ r : CodeRate, 0 < pow (10.0 : α) (Awgn.codingGainDb r / 10.0)
  pow_ofNat : ∀ (x : α) (n : Nat), pow x (ofNat n) = x ^ n

namespace Awgn

variable {α : Type} [Field α] [LinearOrder α]

/-! ## Falling curves -/

/-- A curve that falls from a top and stays above 0, at arguments that are not negative. -/
structure FallsFrom (top : α) (f : α → α) : Prop where
  antitone : ∀ {x y}, 0 ≤ x → x ≤ y → f y ≤ f x
  nonneg : ∀ {x}, 0 ≤ x → 0 ≤ f x
  le_top : ∀ {x}, 0 ≤ x → f x ≤ top

namespace FallsFrom

variable {f g : α → α} {top : α}

theorem comp (hf : FallsFrom top f) (hnonneg : ∀ {x}, 0 ≤ x → 0 ≤ g x)
    (hmono : ∀ {x y}, 0 ≤ x → x ≤ y → g x ≤ g y) : FallsFrom top fun x => f (g x) where
  antitone hx hxy := hf.antitone (hnonneg hx) (hmono hx hxy)
  nonneg hx := hf.nonneg (hnonneg hx)
  le_top hx := hf.le_top (hnonneg hx)

variable [IsStrictOrderedRing α]

theorem mul_left (hf : FallsFrom top f) {c : α} (hc : 0 ≤ c) : FallsFrom (c * top) fun x => c * f x where
  antitone hx hxy := mul_le_mul_of_nonneg_left (hf.antitone hx hxy) hc
  nonneg hx := mul_nonneg hc (hf.nonneg hx)
  le_top hx := mul_le_mul_of_nonneg_left (hf.le_top hx) hc

theorem mul {top' : α} (hf : FallsFrom top f) (hg : FallsFrom top' g) : FallsFrom (top * top') fun x => f x * g x where
  antitone hx hxy := mul_le_mul (hf.antitone hx hxy) (hg.antitone hx hxy) (hg.nonneg (hx.trans hxy)) (hf.nonneg hx)
  nonneg hx := mul_nonneg (hf.nonneg hx) (hg.nonneg hx)
  le_top hx := mul_le_mul (hf.le_top hx) (hg.le_top hx) (hg.nonneg hx) ((hf.nonneg hx).trans (hf.le_top hx))

end FallsFrom

variable [IsStrictOrderedRing α]

/-! ## The polynomial -/

/-- The polynomial of the tail, as `erfcTail` has it. -/
def series (t : α) : α :=
  t * (0.254829592 + t * (-0.284496736 + t * (1.421413741 + t * (-1.453152027 + t * 1.061405429))))

/-- The slope of the line through the points of the polynomial at `x` and `y`. -/
def secant (x y : α) : α :=
  0.254829592 - 0.284496736 * (x + y) + 1.421413741 * (x ^ 2 + x * y + y ^ 2)
    - 1.453152027 * ((x + y) * (x ^ 2 + y ^ 2)) + 1.061405429 * (x ^ 4 + x ^ 3 * y + x ^ 2 * y ^ 2 + x * y ^ 3 + y ^ 4)

theorem series_sub (x y : α) : series y - series x = (y - x) * secant x y := by
  unfold series secant
  ring

/-- **No secant falls**: with the squares shared out, the three lower terms and the three higher terms are not negative by
themselves. -/
theorem secant_nonneg (x y : α) : 0 ≤ secant x y := by
  have hlower : 0 ≤ 0.254829592 - 0.284496736 * (x + y) + 0.5 * (x ^ 2 + x * y + y ^ 2) := by
    nlinarith [sq_nonneg (x - y), sq_nonneg (x + y - 0.379)]
  have hhigher : 0 ≤ 0.921413741 * (x ^ 2 + x * y + y ^ 2) - 1.453152027 * ((x + y) * (x ^ 2 + y ^ 2))
      + 1.061405429 * (x ^ 4 + x ^ 3 * y + x ^ 2 * y ^ 2 + x * y ^ 3 + y ^ 4) := by
    nlinarith [sq_nonneg (x ^ 2 + x * y + y ^ 2 - 0.82 * (x + y)), sq_nonneg (x ^ 2 - y ^ 2 - 0.6 * (x - y)),
      sq_nonneg (x - y), sq_nonneg (x + y), sq_nonneg (x ^ 2 - y ^ 2), sq_nonneg ((x - y) * (x + y - 0.6)),
      sq_nonneg ((x - y) ^ 2)]
  have hsum : secant x y = (0.254829592 - 0.284496736 * (x + y) + 0.5 * (x ^ 2 + x * y + y ^ 2)) +
      (0.921413741 * (x ^ 2 + x * y + y ^ 2) - 1.453152027 * ((x + y) * (x ^ 2 + y ^ 2))
        + 1.061405429 * (x ^ 4 + x ^ 3 * y + x ^ 2 * y ^ 2 + x * y ^ 3 + y ^ 4)) := by
    unfold secant
    ring
  rw [hsum]
  exact add_nonneg hlower hhigher

theorem series_mono {x y : α} (h : x ≤ y) : series x ≤ series y := by
  have hrise := mul_nonneg (sub_nonneg.2 h) (secant_nonneg x y)
  rw [← series_sub] at hrise
  exact sub_nonneg.1 hrise

theorem series_nonneg {t : α} (h : 0 ≤ t) : 0 ≤ series t :=
  calc (0 : α) = series 0 := by simp [series]
    _ ≤ series t := series_mono h

theorem series_le_one {t : α} (h : t ≤ 1) : series t ≤ 1 :=
  calc series t ≤ series 1 := series_mono h
    _ ≤ 1 := by norm_num [series]

/-! ## The tail -/

theorem fallsFrom_series : FallsFrom (1 : α) fun x => series (1.0 / (1.0 + 0.3275911 * x)) where
  antitone {x y} hx hxy := by
    refine series_mono (div_le_div_of_nonneg_left (by norm_num) ?_ ?_)
    · have := mul_nonneg (by norm_num : (0 : α) ≤ 0.3275911) hx
      norm_num at this ⊢
      linarith
    · exact add_le_add_right (mul_le_mul_of_nonneg_left hxy (by norm_num)) _
  nonneg {x} hx := series_nonneg (by positivity)
  le_top {x} hx := by
    have hproduct := mul_nonneg (by norm_num : (0 : α) ≤ 0.3275911) hx
    refine series_le_one ((div_le_one ?_).2 ?_)
    · norm_num at hproduct ⊢
      linarith
    · norm_num at hproduct ⊢
      linarith

theorem held_eq {x : α} (h : 0 ≤ x) (h' : x ≤ 1 / 2) : held x = x := by
  unfold held
  norm_num at h' ⊢
  rw [if_neg (not_lt.2 h), if_neg (not_lt.2 h')]

variable [Elementary α]

open Elementary (Laws exp sqrt log2 pow)

theorem fallsFrom_exp (h : Laws α) : FallsFrom (1 : α) fun x => exp (-x * x) where
  antitone {x y} hx hxy := by
    refine h.exp_mono ?_
    have := mul_le_mul hxy hxy hx (hx.trans hxy)
    linarith
  nonneg _ := (h.exp_pos _).le
  le_top {x} hx := by
    rw [← h.exp_zero]
    refine h.exp_mono ?_
    have := mul_nonneg hx hx
    linarith

theorem fallsFrom_erfc (h : Laws α) : FallsFrom (1 : α) erfc := by
  have htail := fallsFrom_series.mul (fallsFrom_exp h)
  rw [one_mul] at htail
  have heq : ∀ {x : α}, 0 ≤ x → erfc x = series (1.0 / (1.0 + 0.3275911 * x)) * exp (-x * x) := by
    intro x hx
    unfold erfc
    rw [if_neg (by norm_num; exact hx)]
    rfl
  exact
    { antitone := fun hx hxy => by rw [heq hx, heq (hx.trans hxy)]; exact htail.antitone hx hxy
      nonneg := fun hx => by rw [heq hx]; exact htail.nonneg hx
      le_top := fun hx => by rw [heq hx]; exact htail.le_top hx }

theorem fallsFrom_normalTail (h : Laws α) : FallsFrom (1 / 2 : α) normalTail := by
  have hroot : (0 : α) < sqrtTwo := by
    unfold sqrtTwo
    norm_num
  have hhalf := ((fallsFrom_erfc h).comp (g := fun x => x / sqrtTwo) (fun hx => div_nonneg hx hroot.le)
    fun _ hxy => div_le_div_of_nonneg_right hxy hroot.le).mul_left (c := 0.5) (by norm_num)
  norm_num at hhalf
  unfold normalTail
  norm_num
  exact hhalf

/-! ## The curves of the modes -/

theorem fallsFrom_share (h : Laws α) {c k : α} (hc : 0 ≤ c) (hc' : c ≤ 1) (hk : 0 ≤ k) :
    FallsFrom (1 / 2 : α) fun snr => c * normalTail (sqrt (k * snr)) := by
  have hshare := ((fallsFrom_normalTail h).comp (g := fun snr => sqrt (k * snr))
    (fun hx => h.sqrt_nonneg (mul_nonneg hk hx))
    fun hx hxy => h.sqrt_mono (mul_nonneg hk hx) (mul_le_mul_of_nonneg_left hxy hk)).mul_left hc
  refine { antitone := hshare.antitone, nonneg := hshare.nonneg, le_top := fun hx => (hshare.le_top hx).trans ?_ }
  linarith

/-- **The share of the tail that a constellation takes**: no more than all of it, as a symbol holds four bits or more. -/
theorem share_bounds (h : Laws α) {m : Mode} (hm : m ∈ Catalog.all) {n : Nat} (hn : 4 ≤ n)
    (hconstellation : m.constellation = 2 ^ n) :
    let size : α := Elementary.ofNat m.constellation
    0 ≤ 4.0 / log2 size * (1.0 - 1.0 / sqrt size) ∧ 4.0 / log2 size * (1.0 - 1.0 / sqrt size) ≤ 1 := by
  intro size
  have hlog : log2 size = (n : α) := h.log2_constellation m hm n hconstellation
  have hbits : (4 : α) ≤ n := by exact_mod_cast hn
  have hsize : (1 : α) ≤ size := by
    rw [show size = _ from h.ofNat_eq _, hconstellation]
    exact_mod_cast Nat.one_le_two_pow
  have hnonneg : 0 ≤ sqrt size := h.sqrt_nonneg (zero_le_one.trans hsize)
  have hroot : 1 ≤ sqrt size := by
    by_contra hlt
    have hsquare := h.sqrt_mul_self (zero_le_one.trans hsize)
    have := mul_lt_one_of_nonneg_of_lt_one_left hnonneg (not_le.1 hlt) (not_le.1 hlt).le
    linarith
  have hinverse : 0 ≤ 1 / sqrt size ∧ 1 / sqrt size ≤ 1 :=
    ⟨div_nonneg zero_le_one hnonneg, (div_le_one (by linarith)).2 hroot⟩
  have hquarter : 0 ≤ 4 / (n : α) ∧ 4 / (n : α) ≤ 1 := ⟨by positivity, (div_le_one (by linarith)).2 hbits⟩
  rw [hlog, show (4.0 : α) = 4 by norm_num, show (1.0 : α) = 1 by norm_num]
  constructor
  · exact mul_nonneg hquarter.1 (by linarith)
  · exact mul_le_one₀ hquarter.2 (by linarith) (by linarith)

theorem constellation_cases {m : Mode} (hm : m ∈ Catalog.all) :
    m.constellation ≤ 2 ∨ m.constellation = 4 ∨ ∃ n, 4 ≤ n ∧ m.constellation = 2 ^ n := by
  have hall : ∀ m ∈ Catalog.all, m.constellation ∈ [2, 4, 2 ^ 4, 2 ^ 6, 2 ^ 8, 2 ^ 10] := by decide +kernel
  have hmem := hall m hm
  simp only [List.mem_cons, List.not_mem_nil, or_false] at hmem
  rcases hmem with h | h | h | h | h | h
  · exact .inl h.le
  · exact .inr (.inl h)
  · exact .inr (.inr ⟨4, by decide, h⟩)
  · exact .inr (.inr ⟨6, by decide, h⟩)
  · exact .inr (.inr ⟨8, by decide, h⟩)
  · exact .inr (.inr ⟨10, by decide, h⟩)

theorem exists_constellation_share (h : Laws α) {m : Mode} (hm : m ∈ Catalog.all) {gain : α} (hgain : 0 ≤ gain) :
    ∃ c k : α, 0 ≤ c ∧ c ≤ 1 ∧ 0 ≤ k ∧
      ∀ snr, constellationErrorRate m.constellation (snr * gain) = c * normalTail (sqrt (k * snr)) := by
  unfold constellationErrorRate
  rcases constellation_cases hm with hsize | hsize | ⟨n, hn, hsize⟩
  · refine ⟨1, 2.0 * gain, zero_le_one, le_rfl, mul_nonneg (by norm_num) hgain, fun snr => ?_⟩
    rw [if_pos hsize, one_mul, mul_assoc, mul_comm snr gain]
  · refine ⟨1, gain, zero_le_one, le_rfl, hgain, fun snr => ?_⟩
    rw [hsize, if_neg (by decide), if_pos rfl, one_mul, mul_comm]
  · have hlarge : 2 ^ 4 ≤ m.constellation := hsize ▸ Nat.pow_le_pow_right (by decide) hn
    obtain ⟨hc, hc'⟩ := share_bounds h hm hn hsize
    have hneighbours : (0 : α) ≤ Elementary.ofNat m.constellation - 1.0 := by
      have : (16 : α) ≤ m.constellation := by exact_mod_cast hlarge
      rw [h.ofNat_eq]
      norm_num
      linarith
    refine ⟨_, 3.0 * gain / (Elementary.ofNat m.constellation - 1.0), hc, hc', ?_, fun snr => ?_⟩
    · exact div_nonneg (mul_nonneg (by norm_num) hgain) hneighbours
    · rw [if_neg (by omega), if_neg (by omega)]
      dsimp only
      rw [mul_comm snr gain, ← mul_assoc, mul_div_right_comm]

/-- **Every error curve is a share of the tail**, at a multiple of the SNR. -/
theorem exists_share (h : Laws α) {m : Mode} (hm : m ∈ Catalog.all) :
    ∃ c k : α, 0 ≤ c ∧ c ≤ 1 ∧ 0 ≤ k ∧ ∀ snr, rawErrorRate m snr = c * normalTail (sqrt (k * snr)) := by
  have hspread : ∃ c k : α, 0 ≤ c ∧ c ≤ 1 ∧ 0 ≤ k ∧ ∀ snr : α,
      normalTail (sqrt (2.0 * (snr * chipRate / Elementary.ofNat (max (m.dataRate 22 longGuardNs 1) 1)))) =
        c * normalTail (sqrt (k * snr)) := by
    refine ⟨1, 2.0 * (chipRate / Elementary.ofNat (max (m.dataRate 22 longGuardNs 1) 1)), zero_le_one, le_rfl, ?_,
      fun snr => ?_⟩
    · rw [h.ofNat_eq]
      unfold chipRate
      positivity
    · rw [one_mul, mul_assoc, mul_comm (chipRate / _) snr, mul_div_assoc]
  unfold rawErrorRate
  cases m.modulation with
  | dsss => exact hspread
  | hrDsss => exact hspread
  | _ => exact exists_constellation_share h hm (h.gain_pos _).le

theorem fallsFrom_rawErrorRate (h : Laws α) {m : Mode} (hm : m ∈ Catalog.all) :
    FallsFrom (1 / 2 : α) (rawErrorRate m) := by
  obtain ⟨c, k, hc, hc', hk, heq⟩ := exists_share h hm
  rw [funext heq]
  exact fallsFrom_share h hc hc' hk

/-! ## The bit error rate -/

/-- **The bounds are never reached for**: at a positive SNR the error rate keeps within them by itself. -/
theorem bitErrorRate_of_pos (h : Laws α) {m : Mode} (hm : m ∈ Catalog.all) {snr : α} (hsnr : 0 < snr) :
    bitErrorRate m snr = rawErrorRate m snr := by
  have hfalls := fallsFrom_rawErrorRate h hm
  have hpos : (0.0 : α) < snr := by
    norm_num
    exact hsnr
  rw [bitErrorRate, if_pos hpos, held_eq (hfalls.nonneg hsnr.le) (hfalls.le_top hsnr.le)]

theorem bitErrorRate_of_nonpos (m : Mode) {snr : α} (hsnr : snr ≤ 0) : bitErrorRate m snr = 1 / 2 := by
  have hpos : ¬ (0.0 : α) < snr := by
    norm_num
    exact hsnr
  rw [bitErrorRate, if_neg hpos]
  norm_num

theorem bitErrorRate_mem (h : Laws α) {m : Mode} (hm : m ∈ Catalog.all) (snr : α) :
    0 ≤ bitErrorRate m snr ∧ bitErrorRate m snr ≤ 1 / 2 := by
  rcases lt_or_ge 0 snr with hsnr | hsnr
  · have hfalls := fallsFrom_rawErrorRate h hm
    rw [bitErrorRate_of_pos h hm hsnr]
    exact ⟨hfalls.nonneg hsnr.le, hfalls.le_top hsnr.le⟩
  · rw [bitErrorRate_of_nonpos m hsnr]
    norm_num

theorem bitErrorRate_antitone (h : Laws α) {m : Mode} (hm : m ∈ Catalog.all) : Antitone (bitErrorRate m : α → α) := by
  intro x y hxy
  rcases lt_or_ge 0 x with hx | hx
  · rw [bitErrorRate_of_pos h hm hx, bitErrorRate_of_pos h hm (hx.trans_le hxy)]
    exact (fallsFrom_rawErrorRate h hm).antitone hx.le hxy
  · rw [bitErrorRate_of_nonpos m hx]
    exact (bitErrorRate_mem h hm y).2

/-! ## The chance of a frame -/

theorem chunkSuccess_eq (h : Laws α) (v : TxVector) (snr : α) (bits : Nat) :
    chunkSuccess v snr bits = (1 - bitErrorRate v.mode snr) ^ bits := by
  rw [chunkSuccess, h.pow_ofNat]
  norm_num

/-- **The error curves of the catalogs fall.**  Over an ordered field, the bit error rate of each mode lies between no error
and a coin flip, is a coin flip without signal, is nowhere held to its bounds with one, and never rises with the SNR; the
chance of a frame is one, never falls with the SNR and never rises with the number of bits.  So the error of one bit, on
which thresholds are searched for, falls. -/
theorem bitErrorRate_falls (h : Laws α) {v : TxVector} (hv : v.mode ∈ Catalog.all) :
    (∀ snr : α, 0 ≤ bitErrorRate v.mode snr ∧ bitErrorRate v.mode snr ≤ 1 / 2) ∧
    (∀ snr : α, snr ≤ 0 → bitErrorRate v.mode snr = 1 / 2) ∧
    (∀ snr : α, 0 < snr → bitErrorRate v.mode snr = rawErrorRate v.mode snr) ∧
    Antitone (bitErrorRate v.mode : α → α) ∧
    (∀ (snr : α) bits, 0 ≤ chunkSuccess v snr bits ∧ chunkSuccess v snr bits ≤ 1) ∧
    (∀ bits, Monotone fun snr : α => chunkSuccess v snr bits) ∧
    (∀ snr : α, Antitone (chunkSuccess v snr)) ∧
    Antitone fun snr : α => 1 - chunkSuccess v snr 1 := by
  have hmem := fun snr : α => bitErrorRate_mem h hv snr
  have hfalls := bitErrorRate_antitone h hv
  have hintact : ∀ snr : α, 0 ≤ 1 - bitErrorRate v.mode snr ∧ 1 - bitErrorRate v.mode snr ≤ 1 := by
    intro snr
    have := hmem snr
    constructor <;> linarith
  have hrises : ∀ bits, Monotone fun snr : α => chunkSuccess v snr bits := by
    intro bits x y hxy
    simp only [chunkSuccess_eq h]
    exact pow_le_pow_left₀ (hintact x).1 (sub_le_sub_left (hfalls hxy) 1) bits
  refine ⟨hmem, fun _ => bitErrorRate_of_nonpos v.mode, fun _ => bitErrorRate_of_pos h hv, hfalls, fun snr bits => ?_,
    hrises, fun snr m n hmn => ?_, fun x y hxy => sub_le_sub_left (hrises 1 hxy) 1⟩
  · rw [chunkSuccess_eq h]
    exact ⟨pow_nonneg (hintact snr).1 _, pow_le_one₀ (hintact snr).1 (hintact snr).2⟩
  · rw [chunkSuccess_eq h, chunkSuccess_eq h]
    exact pow_le_pow_of_le_one (hintact snr).1 (hintact snr).2 hmn

/-! ## Real numbers -/

noncomputable instance : Elementary ℝ where
  ofNat n := n
  exp := Real.exp
  sqrt := Real.sqrt
  log2 := Real.logb 2
  pow := Real.rpow

theorem laws_real : Laws ℝ where
  ofNat_eq _ := rfl
  exp_pos := Real.exp_pos
  exp_mono := Real.exp_le_exp.2
  exp_zero := Real.exp_zero
  sqrt_nonneg _ := Real.sqrt_nonneg _
  sqrt_mono _ := Real.sqrt_le_sqrt
  sqrt_mul_self := Real.mul_self_sqrt
  log2_constellation m _ k hk := by
    show Real.logb 2 (m.constellation : ℝ) = k
    rw [hk, Nat.cast_pow, Nat.cast_ofNat, Real.logb_pow]
    norm_num
  gain_pos r := Real.rpow_pos_of_pos (by norm_num) _
  pow_ofNat := Real.rpow_natCast

/-- The fastest scheme, over the real numbers. -/
theorem bitErrorRate_falls_real :
    let v : TxVector := ⟨.mcs .he 11, 2, 800, 80⟩
    Laws ℝ ∧ v.mode ∈ Catalog.all ∧
    (∀ snr : ℝ, 0 ≤ bitErrorRate v.mode snr ∧ bitErrorRate v.mode snr ≤ 1 / 2) ∧
    (∀ snr : ℝ, snr ≤ 0 → bitErrorRate v.mode snr = 1 / 2) ∧
    (∀ snr : ℝ, 0 < snr → bitErrorRate v.mode snr = rawErrorRate v.mode snr) ∧
    Antitone (bitErrorRate v.mode : ℝ → ℝ) ∧
    (∀ (snr : ℝ) bits, 0 ≤ chunkSuccess v snr bits ∧ chunkSuccess v snr bits ≤ 1) ∧
    (∀ bits, Monotone fun snr : ℝ => chunkSuccess v snr bits) ∧
    (∀ snr : ℝ, Antitone (chunkSuccess v snr)) ∧
    Antitone fun snr : ℝ => 1 - chunkSuccess v snr 1 := by
  intro v
  have hv : v.mode ∈ Catalog.all := by decide +kernel
  exact ⟨laws_real, hv, bitErrorRate_falls laws_real hv⟩

end Awgn
end LinkAdaptation

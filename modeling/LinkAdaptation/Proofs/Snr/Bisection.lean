import LinkAdaptation.Proofs.Snr.Search
/-!
# The bisection

A search halves the axis 45 times, whatever the curve.  The ends of its brackets lie on a grid of `2 ^ 45` equal steps, so
the last bracket is one step wide: on a curve that is defined on the scale the answer is a point of the grid that meets the
target, and its predecessor misses it (`leastSnr_bisects`).  Two searches stay in the order of what they accept: a stricter
target or a worse curve never leads to a lower answer (`leastSnr_mono`).
-/
namespace LinkAdaptation
namespace Search

open Binary64 (lt_or_le not_lt_of_le isNaN_of_le le_trans)

variable {error error' : Rat → Float} {target target' : Float}

/-! ## The grid -/

/-- The points from -10 on, at equal steps of which `2 ^ 45` lead to 10. -/
def gridPoint (k : Nat) : Rat :=
  -10 + k * (20 / 2 ^ 45)

theorem gridPoint_succ_sub (k : Nat) : gridPoint (k + 1) - 20 / 2 ^ 45 = gridPoint k := by
  unfold gridPoint
  push_cast
  ring

theorem gridPoint_zero : gridPoint 0 = -10 := by
  norm_num [gridPoint]

theorem gridPoint_last : gridPoint (2 ^ 45) = 10 := by
  norm_num [gridPoint]

theorem gridPoint_le_iff {i j : Nat} : gridPoint i ≤ gridPoint j ↔ i ≤ j := by
  unfold gridPoint
  rw [add_le_add_iff_left, mul_le_mul_iff_left₀ (by norm_num), Nat.cast_le]

/-- The multiples of `5 / 2 ^ 43` from -10 to 10.  The factor has 47 bits at most, so 53 bits hold each of them exactly. -/
def IsExact (h : Rat) : Prop :=
  ∃ n : Int, h = n * (5 / 2 ^ 43) ∧ |n| ≤ 2 ^ 44

theorem isExact_gridPoint {k : Nat} (hk : k ≤ 2 ^ 45) : IsExact (gridPoint k) := by
  refine ⟨k - 2 ^ 44, ?_, ?_⟩
  · unfold gridPoint
    push_cast
    ring
  · rw [abs_le]
    omega

namespace Bracket

/-- The bracket of `2 ^ m` steps of the grid from a point on. -/
def span (k m : Nat) : Bracket :=
  ⟨gridPoint k, gridPoint (k + 2 ^ m)⟩

theorem whole_eq_span : whole = span 0 45 := by
  unfold whole span gridPoint
  norm_num

theorem width_span (k m : Nat) : (span k m).width = 2 ^ m * (20 / 2 ^ 45) := by
  unfold width span gridPoint
  push_cast
  ring

theorem middle_span (k m : Nat) : (span k (m + 1)).middle = gridPoint (k + 2 ^ m) := by
  rw [middle, width_span]
  unfold span gridPoint
  push_cast
  ring

theorem span_zero (k : Nat) : span k 0 = ⟨gridPoint k, gridPoint (k + 1)⟩ :=
  rfl

/-- **Only a bracket of one step is narrow**: two steps are wider than `10 ^ (-12)`. -/
theorem isNarrow_span (k m : Nat) : (span k m).isNarrow = true ↔ m = 0 := by
  unfold isNarrow
  rw [decide_eq_true_eq, width_span]
  constructor
  · intro h
    by_contra hm
    have htwo : (2 : Rat) ^ 1 ≤ 2 ^ m := pow_le_pow_right₀ (by norm_num) (by omega)
    have hwide : (2 : Rat) ^ 1 * (20 / 2 ^ 45) ≤ 2 ^ m * (20 / 2 ^ 45) := mul_le_mul_of_nonneg_right htwo (by norm_num)
    norm_num at hwide h
    linarith
  · rintro rfl
    norm_num

theorem halve_span (k m : Nat) : (span k (m + 1)).halve error target =
    if target < error (gridPoint (k + 2 ^ m)) then span (k + 2 ^ m) m else span k m := by
  have hhigh : gridPoint (k + 2 ^ (m + 1)) = gridPoint (k + 2 ^ m + 2 ^ m) := by
    congr 1
    omega
  unfold halve
  rw [middle_span]
  split
  · exact congrArg (Bracket.mk _) hhigh
  · rfl

/-- **Halvings lead from a bracket of the grid to a bracket of the grid** within it. -/
theorem iterate_halve_span (n m k : Nat) :
    ∃ j, (halve error target)^[n] (span k (n + m)) = span j m ∧ j + 2 ^ m ≤ k + 2 ^ (n + m) := by
  induction n generalizing k with
  | zero =>
    rw [Nat.zero_add]
    exact ⟨k, rfl, Nat.le_refl _⟩
  | succ n ih =>
    have hpos := Nat.two_pow_pos (n + m)
    rw [Function.iterate_succ_apply, Nat.add_right_comm, halve_span]
    split
    · obtain ⟨j, hj, hle⟩ := ih (k + 2 ^ (n + m))
      exact ⟨j, hj, by omega⟩
    · obtain ⟨j, hj, hle⟩ := ih k
      exact ⟨j, hj, by omega⟩

/-! ## The halvings of a search -/

/-- A search that is done after `n` halvings, however many more it may make: only then the bracket is narrow. -/
structure DoneAfter (error : Rat → Float) (target : Float) (n : Nat) (b : Bracket) : Prop where
  wide : ∀ i < n, ((halve error target)^[i] whole).isNarrow = false
  halved : (halve error target)^[n] whole = b
  narrow : b.isNarrow = true
  refined : ∀ steps, n ≤ steps → whole.refine error target steps = b
  /-- The ends of all brackets on the way are numbers that binary64 holds. -/
  exact_ends : ∀ i ≤ n, IsExact ((halve error target)^[i] whole).low ∧ IsExact ((halve error target)^[i] whole).high

theorem refine_eq_iterate {n : Nat} {b : Bracket} (hwide : ∀ i < n, ((halve error target)^[i] b).isNarrow = false)
    (hnarrow : ((halve error target)^[n] b).isNarrow = true) {steps : Nat} (hsteps : n ≤ steps) :
    b.refine error target steps = (halve error target)^[n] b := by
  induction n generalizing b steps with
  | zero =>
    cases steps with
    | zero => rfl
    | succ steps => exact if_pos hnarrow
  | succ n ih =>
    obtain ⟨rest, rfl⟩ : ∃ rest, steps = rest + 1 := ⟨steps - 1, by omega⟩
    have hfirst : ¬ b.isNarrow = true := by
      have := hwide 0 (by omega)
      simpa using this
    rw [refine, if_neg hfirst, Function.iterate_succ_apply]
    exact ih (fun i hi => hwide (i + 1) (by omega)) hnarrow (by omega)

/-- **Every search is done after 45 halvings**, in a bracket of one step of the grid. -/
theorem exists_doneAfter (error : Rat → Float) (target : Float) :
    ∃ k, k < 2 ^ 45 ∧ DoneAfter error target 45 (span k 0) := by
  -- After `i` halvings the bracket is `2 ^ (45 - i)` steps wide.
  have hspan : ∀ i ≤ 45, ∃ j, (halve error target)^[i] whole = span j (45 - i) ∧ j + 2 ^ (45 - i) ≤ 2 ^ 45 := by
    intro i hi
    obtain ⟨j, hj, hle⟩ := @iterate_halve_span error target i (45 - i) 0
    rw [Nat.add_sub_cancel' hi, ← whole_eq_span] at hj
    rw [Nat.add_sub_cancel' hi, Nat.zero_add] at hle
    exact ⟨j, hj, hle⟩
  obtain ⟨k, hk, hlt⟩ := hspan 45 (by omega)
  have hwide : ∀ i < 45, ((halve error target)^[i] whole).isNarrow = false := by
    intro i hi
    obtain ⟨j, hj, -⟩ := hspan i (by omega)
    rw [hj, Bool.eq_false_iff, ne_eq, isNarrow_span]
    omega
  have hnarrow : (span k 0).isNarrow = true := (isNarrow_span k 0).2 rfl
  refine ⟨k, by omega, hwide, hk, hnarrow, fun steps hsteps => ?_, fun i hi => ?_⟩
  · rw [refine_eq_iterate hwide (by rw [hk]; exact hnarrow) hsteps, hk]
  · obtain ⟨j, hj, hle⟩ := hspan i hi
    rw [hj]
    exact ⟨isExact_gridPoint (Nat.le_of_add_right_le hle), isExact_gridPoint hle⟩

/-- The error crosses the target in the bracket: above it at the lower end, not above it at the upper one. -/
structure Straddles (error : Rat → Float) (target : Float) (b : Bracket) : Prop where
  low : target < error b.low
  high : ¬ target < error b.high

theorem Straddles.halve {b : Bracket} (hb : b.Straddles error target) : (b.halve error target).Straddles error target := by
  refine ⟨?_, halve_not_above hb.high⟩
  unfold Bracket.halve
  split
  · assumption
  · exact hb.low

theorem Straddles.iterate_halve {b : Bracket} (hb : b.Straddles error target) (n : Nat) :
    ((Bracket.halve error target)^[n] b).Straddles error target := by
  induction n generalizing b with
  | zero => exact hb
  | succ n ih => exact ih hb.halve

end Bracket

/-! ## The answer on a defined curve -/

variable {scale : Scale} {curve : Float → Float}

/-- A curve that is a number at every SNR of the scale that a search can come to. -/
def DefinedOn (scale : Scale) (curve : Float → Float) : Prop :=
  ∀ k ≤ 2 ^ 45, (curve (scale (gridPoint k))).isNaN = false

/-- A scale that keeps the order of the points of the grid. -/
def Ascending (scale : Scale) : Prop :=
  ∀ i j, i ≤ j → j ≤ 2 ^ 45 → scale (gridPoint i) ≤ scale (gridPoint j)

def Falling (curve : Float → Float) : Prop :=
  ∀ x y, x ≤ y → curve y ≤ curve x

/-- **A search ends where the error crosses the target**: at the upper one of two neighbours of the grid. -/
theorem exists_crossing (hhigh : curve (scale 10) ≤ target) (hlow : target < curve (scale (-10))) :
    ∃ k < 2 ^ 45, leastSnr scale curve target = some (scale (gridPoint (k + 1))) ∧
      ¬ target < curve (scale (gridPoint (k + 1))) ∧ target < curve (scale (gridPoint k)) := by
  obtain ⟨k, hk, hdone⟩ := Bracket.exists_doneAfter (fun p => curve (scale p)) target
  have hwhole : Bracket.whole.Straddles (fun p => curve (scale p)) target := ⟨hlow, not_lt_of_le hhigh⟩
  have hends := hwhole.iterate_halve 45
  rw [hdone.halved] at hends
  refine ⟨k, hk, ?_, hends.high, hends.low⟩
  rw [leastSnr_eq_refined hhigh fun hle => not_lt_of_le hle hlow, hdone.refined maxSteps (by decide)]
  rfl

/-- **The bisection bracket**: on a defined curve a search fails exactly if the upper end of the axis misses the target,
answers the lower end if that meets it as well, and otherwise a point of the grid that meets the target while the point
before it misses it.  It gets there by 45 halvings of the 200 it may make; on a falling curve no SNR up to the point before
meets the target. -/
theorem leastSnr_bisects (hcurve : DefinedOn scale curve) (htarget : target.isNaN = false) :
    (leastSnr scale curve target = none ↔ target < curve (scale 10)) ∧
    (curve (scale 10) ≤ target → curve (scale (-10)) ≤ target → leastSnr scale curve target = some (scale (-10))) ∧
    (curve (scale 10) ≤ target → ¬ curve (scale (-10)) ≤ target →
      ∃ (k : Nat) (h : Rat), k ≤ 2 ^ 45 ∧ h = -10 + k * (20 / 2 ^ 45) ∧ leastSnr scale curve target = some (scale h) ∧
        curve (scale h) ≤ target ∧ target < curve (scale (h - 20 / 2 ^ 45)) ∧
        Bracket.DoneAfter (fun p => curve (scale p)) target 45 ⟨h - 20 / 2 ^ 45, h⟩ ∧
        (Falling curve → ∀ snr, snr ≤ scale (h - 20 / 2 ^ 45) → ¬ curve snr ≤ target)) := by
  have hcompare : ∀ k ≤ 2 ^ 45, target < curve (scale (gridPoint k)) ∨ curve (scale (gridPoint k)) ≤ target :=
    fun k hk => lt_or_le htarget (hcurve k hk)
  have hfirst := hcompare 0 (Nat.zero_le _)
  rw [gridPoint_zero] at hfirst
  have hlast := hcompare (2 ^ 45) (Nat.le_refl _)
  rw [gridPoint_last] at hlast
  refine ⟨?_, leastSnr_eq_low, fun hhigh hlow => ?_⟩
  · rw [leastSnr_eq_none_iff]
    exact ⟨hlast.resolve_right, fun hlt hle => not_lt_of_le hle hlt⟩
  · obtain ⟨k, hk, hdone⟩ := Bracket.exists_doneAfter (fun p => curve (scale p)) target
    have hwhole : Bracket.whole.Straddles (fun p => curve (scale p)) target :=
      ⟨hfirst.resolve_right hlow, not_lt_of_le hhigh⟩
    have hends := hwhole.iterate_halve 45
    rw [hdone.halved] at hends
    have hanswer := leastSnr_eq_refined hhigh hlow
    rw [hdone.refined maxSteps (by decide)] at hanswer
    rw [Bracket.span_zero] at hanswer hdone hends
    refine ⟨k + 1, gridPoint (k + 1), hk, rfl, hanswer, (hcompare (k + 1) hk).resolve_left hends.high, ?_⟩
    rw [gridPoint_succ_sub]
    refine ⟨hends.low, hdone, fun hfalling snr hsnr hmeets => ?_⟩
    exact not_lt_of_le (le_trans (hfalling _ _ hsnr) hmeets) hends.low

/-- All that is below 2 fails and all else succeeds; of the whole decades, 10 is the first one that does. -/
theorem leastSnr_bisects_step :
    let curve : Float → Float := fun snr => if snr < 2.0 then 1.0 else 0.0
    DefinedOn wholeDecades curve ∧ curve (wholeDecades 10) ≤ 0.5 ∧ ¬ curve (wholeDecades (-10)) ≤ 0.5 ∧ Falling curve ∧
      ∃ (k : Nat) (h : Rat), k ≤ 2 ^ 45 ∧ h = -10 + k * (20 / 2 ^ 45) ∧ wholeDecades h = 10.0 ∧
        leastSnr wholeDecades curve 0.5 = some (wholeDecades h) ∧
        curve (wholeDecades h) ≤ 0.5 ∧ 0.5 < curve (wholeDecades (h - 20 / 2 ^ 45)) ∧
        Bracket.DoneAfter (fun p => curve (wholeDecades p)) 0.5 45 ⟨h - 20 / 2 ^ 45, h⟩ ∧
        ∀ snr, snr ≤ wholeDecades (h - 20 / 2 ^ 45) → ¬ curve snr ≤ 0.5 := by
  intro curve
  have hdefined : DefinedOn wholeDecades curve := by
    intro k hk
    dsimp only [curve]
    split <;> decide
  have hfalling : Falling curve := by
    intro x y hle
    dsimp only [curve]
    by_cases hx : x < 2.0
    · rw [if_pos hx]
      split <;> decide
    · rw [if_neg hx, if_neg fun hy => hx (Binary64.lt_of_le_of_lt hle hy)]
      decide
  have hhigh : curve (wholeDecades 10) ≤ 0.5 := by decide +kernel
  have hlow : ¬ curve (wholeDecades (-10)) ≤ 0.5 := by decide +kernel
  have hten : leastSnr wholeDecades curve 0.5 = some 10.0 := by decide +kernel
  obtain ⟨k, h, hk, hh, hanswer, hmeets, hmisses, hdone, hbelow⟩ :=
    (leastSnr_bisects hdefined (by decide)).2.2 hhigh hlow
  exact ⟨hdefined, hhigh, hlow, hfalling, k, h, hk, hh, Option.some.inj (hanswer.symm.trans hten), hanswer, hmeets, hmisses,
    hdone, hbelow hfalling⟩

/-! ## Two searches -/

namespace Bracket

theorem low_le_middle {b : Bracket} (hb : b.low ≤ b.high) : b.low ≤ b.middle := by
  unfold middle width
  linarith

theorem middle_le_high {b : Bracket} (hb : b.low ≤ b.high) : b.middle ≤ b.high := by
  unfold middle width
  linarith

theorem halve_of_lt {b : Bracket} (h : target < error b.middle) : b.halve error target = ⟨b.middle, b.high⟩ :=
  if_pos h

theorem halve_of_not_lt {b : Bracket} (h : ¬ target < error b.middle) : b.halve error target = ⟨b.low, b.middle⟩ :=
  if_neg h

/-- A search stays within its bracket. -/
theorem refine_high_within (steps : Nat) {b : Bracket} (hb : b.low ≤ b.high) :
    b.low ≤ (b.refine error target steps).high ∧ (b.refine error target steps).high ≤ b.high := by
  induction steps generalizing b with
  | zero => exact ⟨hb, le_refl _⟩
  | succ steps ih =>
    have hlow := low_le_middle hb
    have hhigh := middle_le_high hb
    unfold refine
    split
    · exact ⟨hb, le_refl _⟩
    · by_cases hmiddle : target < error b.middle
      · rw [halve_of_lt hmiddle]
        obtain ⟨h1, h2⟩ := ih (b := ⟨b.middle, b.high⟩) hhigh
        exact ⟨hlow.trans h1, h2⟩
      · rw [halve_of_not_lt hmiddle]
        obtain ⟨h1, h2⟩ := ih (b := ⟨b.low, b.middle⟩) hlow
        exact ⟨h1, h2.trans hhigh⟩

theorem low_le_high_span (k m : Nat) : (span k m).low ≤ (span k m).high :=
  gridPoint_le_iff.2 (Nat.le_add_right _ _)

/-- **The more a search accepts, the lower it ends**: while two searches turn the same way they share their bracket, and
where they part the one that accepts goes on below the middle and the other one above it. -/
theorem refine_high_mono (haccept : ∀ k ≤ 2 ^ 45, ¬ target' < error' (gridPoint k) → ¬ target < error (gridPoint k))
    (steps : Nat) {k m : Nat} (hk : k + 2 ^ m ≤ 2 ^ 45) :
    ((span k m).refine error target steps).high ≤ ((span k m).refine error' target' steps).high := by
  induction steps generalizing k m with
  | zero => exact le_refl _
  | succ steps ih =>
    unfold refine
    cases m with
    | zero =>
      rw [if_pos ((isNarrow_span k 0).2 rfl), if_pos ((isNarrow_span k 0).2 rfl)]
    | succ m =>
      have hwide : ¬ (span k (m + 1)).isNarrow = true := fun h => Nat.succ_ne_zero m ((isNarrow_span k (m + 1)).1 h)
      have hpos := Nat.two_pow_pos m
      have hlower : k + 2 ^ m ≤ 2 ^ 45 := by omega
      have hupper : k + 2 ^ m + 2 ^ m ≤ 2 ^ 45 := by omega
      rw [if_neg hwide, if_neg hwide, halve_span, halve_span]
      by_cases hmiddle' : target' < error' (gridPoint (k + 2 ^ m))
      · rw [if_pos hmiddle']
        by_cases hmiddle : target < error (gridPoint (k + 2 ^ m))
        · rw [if_pos hmiddle]
          exact ih hupper
        · -- Here they part, and neither crosses the middle again.
          rw [if_neg hmiddle]
          exact (refine_high_within steps (low_le_high_span k m)).2.trans
            (refine_high_within steps (low_le_high_span (k + 2 ^ m) m)).1
      · rw [if_neg hmiddle', if_neg (haccept _ hlower hmiddle')]
        exact ih hlower

/-- A search ends on the grid. -/
theorem exists_refine_high (error : Rat → Float) (target : Float) :
    ∃ k ≤ 2 ^ 45, (whole.refine error target maxSteps).high = gridPoint k := by
  obtain ⟨k, hk, hdone⟩ := exists_doneAfter error target
  exact ⟨k + 1, hk, by rw [hdone.refined maxSteps (by decide)]; rfl⟩

end Bracket

/-- The order of answers: no answer comes last. -/
def NoLater : Option Float → Option Float → Prop
  | _, none => True
  | none, some _ => False
  | some x, some y => x ≤ y

variable {f g : Float → Float}

/-- A search that accepts wherever another one does answers no later. -/
theorem leastSnr_noLater (hscale : Ascending scale) (hg : DefinedOn scale g)
    (hmeets : ∀ k ≤ 2 ^ 45, g (scale (gridPoint k)) ≤ target' → f (scale (gridPoint k)) ≤ target) :
    NoLater (leastSnr scale f target) (leastSnr scale g target') := by
  have hfirst := hmeets 0 (Nat.zero_le _)
  have hlast := hmeets (2 ^ 45) (Nat.le_refl _)
  rw [gridPoint_zero] at hfirst
  rw [gridPoint_last] at hlast
  by_cases hhigh' : g (scale 10) ≤ target'
  · have hhigh := hlast hhigh'
    by_cases hlow' : g (scale (-10)) ≤ target'
    · rw [leastSnr_eq_low hhigh (hfirst hlow'), leastSnr_eq_low hhigh' hlow', ← gridPoint_zero]
      exact hscale 0 0 (Nat.le_refl _) (Nat.zero_le _)
    · obtain ⟨k', hk', hend'⟩ := Bracket.exists_refine_high (fun p => g (scale p)) target'
      rw [leastSnr_eq_refined hhigh' hlow', hend']
      by_cases hlow : f (scale (-10)) ≤ target
      · rw [leastSnr_eq_low hhigh hlow, ← gridPoint_zero]
        exact hscale 0 k' (Nat.zero_le _) hk'
      · obtain ⟨k, -, hend⟩ := Bracket.exists_refine_high (fun p => f (scale p)) target
        rw [leastSnr_eq_refined hhigh hlow, hend]
        have haccept : ∀ j ≤ 2 ^ 45, ¬ target' < g (scale (gridPoint j)) → ¬ target < f (scale (gridPoint j)) :=
          fun j hj hnot => not_lt_of_le (hmeets j hj ((lt_or_le (isNaN_of_le hhigh').2 (hg j hj)).resolve_left hnot))
        have hends := @Bracket.refine_high_mono (fun p => f (scale p)) (fun p => g (scale p)) target target' haccept maxSteps
          0 45 (Nat.le_of_eq (Nat.zero_add _))
        rw [← Bracket.whole_eq_span, hend, hend'] at hends
        exact hscale k k' (gridPoint_le_iff.1 hends) hk'
  · rw [leastSnr_eq_none_iff.2 hhigh']
    exact trivial

/-- **A stricter target or a worse curve never lowers the answer**, on a scale that keeps the order of its points: the answer
for `f` is no later than the one for `g` as soon as `f` meets its target wherever `g` meets its own.  In particular a looser
target on the same curve answers no later, and so does a curve with smaller errors for the same target.  The curve that
accepts less has to be defined; neither needs to fall, and nothing is asked of either but on the grid. -/
theorem leastSnr_mono (hscale : Ascending scale) (hg : DefinedOn scale g) :
    ((∀ k ≤ 2 ^ 45, g (scale (gridPoint k)) ≤ target' → f (scale (gridPoint k)) ≤ target) →
      NoLater (leastSnr scale f target) (leastSnr scale g target')) ∧
    (target' ≤ target → NoLater (leastSnr scale g target) (leastSnr scale g target')) ∧
    ((∀ k ≤ 2 ^ 45, f (scale (gridPoint k)) ≤ g (scale (gridPoint k))) →
      NoLater (leastSnr scale f target) (leastSnr scale g target)) := by
  refine ⟨leastSnr_noLater hscale hg, fun htarget => ?_, fun hcurve => ?_⟩
  · exact leastSnr_noLater hscale hg fun k _ hle => le_trans hle htarget
  · exact leastSnr_noLater hscale hg fun k hk hle => le_trans (hcurve k hk) hle

theorem ascending_wholeDecades : Ascending wholeDecades := by
  have hpowers : ∀ m n : Fin 21, m ≤ n →
      (if m.val < 10 then 1.0 / Float.ofNat (10 ^ (10 - m.val)) else Float.ofNat (10 ^ (m.val - 10)) : Float) ≤
        if n.val < 10 then 1.0 / Float.ofNat (10 ^ (10 - n.val)) else Float.ofNat (10 ^ (n.val - 10)) := by
    decide +kernel
  intro i j hle _
  have hfloor : (gridPoint i).floor ≤ (gridPoint j).floor := Rat.floor_monotone (gridPoint_le_iff.2 hle)
  have hsteps : min ((gridPoint i).floor + 10).toNat 20 ≤ min ((gridPoint j).floor + 10).toNat 20 := by omega
  exact hpowers ⟨_, Nat.lt_succ_of_le (Nat.min_le_right _ 20)⟩ ⟨_, Nat.lt_succ_of_le (Nat.min_le_right _ 20)⟩ hsteps

/-- Two steps, the earlier one to half the error, and a target and half of it. -/
theorem leastSnr_mono_earlierStep :
    let f : Float → Float := fun snr => if snr < 20.0 then 1.0 else 0.125
    let g : Float → Float := fun snr => if snr < 2000.0 then 1.0 else 0.25
    Ascending wholeDecades ∧ DefinedOn wholeDecades g ∧
      (∀ k ≤ 2 ^ 45, f (wholeDecades (gridPoint k)) ≤ g (wholeDecades (gridPoint k))) ∧
      leastSnr wholeDecades f 0.5 = some 100.0 ∧ leastSnr wholeDecades g 0.25 = some 10000.0 ∧
      NoLater (leastSnr wholeDecades f 0.5) (leastSnr wholeDecades g 0.25) ∧
      NoLater (leastSnr wholeDecades g 0.5) (leastSnr wholeDecades g 0.25) ∧
      NoLater (leastSnr wholeDecades f 0.5) (leastSnr wholeDecades g 0.5) := by
  intro f g
  have hg : DefinedOn wholeDecades g := by
    intro k hk
    dsimp only [g]
    split <;> decide
  have hcurve : ∀ snr, f snr ≤ g snr := by
    intro snr
    dsimp only [f, g]
    by_cases hsnr : snr < 20.0
    · rw [if_pos hsnr, if_pos (Binary64.lt_of_lt_of_le hsnr (by decide))]
      decide
    · rw [if_neg hsnr]
      split <;> decide
  have hf : leastSnr wholeDecades f 0.5 = some 100.0 := by decide +kernel
  have hstrict : leastSnr wholeDecades g 0.25 = some 10000.0 := by decide +kernel
  obtain ⟨hboth, htarget, hworse⟩ := @leastSnr_mono 0.5 0.25 wholeDecades f g ascending_wholeDecades hg
  exact ⟨ascending_wholeDecades, hg, fun k _ => hcurve _, hf, hstrict,
    hboth fun k _ hle => le_trans (hcurve _) (le_trans hle (by decide)), htarget (by decide), hworse fun k _ => hcurve _⟩

end Search
end LinkAdaptation

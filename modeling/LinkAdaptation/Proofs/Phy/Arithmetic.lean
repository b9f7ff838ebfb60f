import LinkAdaptation.Proofs.Phy.Rates
import Mathlib.Algebra.Order.Floor.Semifield
import Mathlib.Data.Rat.Floor
import Mathlib.Tactic.Ring
/-!
# The arithmetic of data rates

The nominal rate of a mode of the catalogs can be computed in machine words, and rounding it down hides nothing: a wider
channel, a further stream and a higher MCS of the same kind are strictly faster, a longer guard interval is strictly
slower (`Mode.dataRate_exact`).

A rate counts the data bits of a symbol, here in twelfths of a bit since every code rate is a whole number of twelfths.
One twelfth more in the same time makes a difference of more than one bit in a second, whatever the guard interval is.
-/
namespace LinkAdaptation

/-- A number that a machine word of 64 bits holds. -/
def word? (n : Nat) : Option Nat :=
  if n < 2 ^ 64 then some n else none

def quotient? (n d : Nat) : Option Nat :=
  if d = 0 then none else word? (n / d)

theorem word?_eq_some {n k : Nat} (h : n ≤ k) (hk : k < 2 ^ 64) : word? n = some n :=
  if_pos (Nat.lt_of_le_of_lt h hk)

theorem quotient?_eq_some {n d k : Nat} (hd : 0 < d) (h : n ≤ k) (hk : k < 2 ^ 64) : quotient? n d = some (n / d) := by
  rw [quotient?, if_neg (Nat.ne_of_gt hd), word?_eq_some (Nat.le_trans (Nat.div_le_self _ _) h) hk]

/-! ## Quotients that stay apart when they are rounded down -/

theorem div_lt_div_of_add_le {x y d : Nat} (hd : 0 < d) (h : x + d ≤ y) : x / d < y / d :=
  calc x / d < x / d + 1 := Nat.lt_succ_self _
    _ = (x + d) / d := (Nat.add_div_right x hd).symm
    _ ≤ y / d := Nat.div_le_div_right h

theorem div_lt_div_of_slower {x s t k : Nat} (hs : 0 < s) (hst : s + k ≤ t) (hx : s * t ≤ k * x) : x / t < x / s := by
  have ht : 0 < t := by omega
  refine (Nat.le_div_iff_mul_le hs).2 (Nat.le_of_mul_le_mul_right ?_ ht)
  calc (x / t + 1) * s * t = (x / t * t) * s + s * t := by ring
    _ ≤ x * s + k * x := Nat.add_le_add (Nat.mul_le_mul_right _ (Nat.div_mul_le_self x t)) hx
    _ = x * (s + k) := by ring
    _ ≤ x * t := Nat.mul_le_mul_left _ hst

theorem div_eq_div_of_mul_eq {a b c d : Nat} (hb : 0 < b) (hd : 0 < d) (h : a * d = c * b) : a / b = c / d :=
  calc a / b = a * d / (b * d) := (Nat.mul_div_mul_right a b hd).symm
    _ = c * b / (d * b) := by rw [h, Nat.mul_comm b d]
    _ = c / d := Nat.mul_div_mul_right c d hb

namespace CodeRate

def ratio (r : CodeRate) : ℚ :=
  r.numerator / r.denominator

def twelfths : CodeRate → Nat
  | .uncoded => 12
  | .half => 6
  | .twoThirds => 8
  | .threeQuarters => 9
  | .fiveSixths => 10

theorem twelfths_mul_denominator (r : CodeRate) : r.twelfths * r.denominator = 12 * r.numerator := by
  cases r <;> rfl

end CodeRate

namespace ModulationClass

theorem dataSubcarriers_le (c : ModulationClass) (w : Nat) : c.dataSubcarriers w ≤ 1960 := by
  unfold dataSubcarriers
  split <;> decide

theorem dataSubcarriers_lt (c : ModulationClass) {w w' : Nat} (hw : w ∈ mcsWidthsMHz) (hw' : w' ∈ mcsWidthsMHz)
    (hlt : w < w') : c.dataSubcarriers w < c.dataSubcarriers w' := by
  have hall : ∀ w ∈ mcsWidthsMHz, ∀ w' ∈ mcsWidthsMHz, w < w' → c.dataSubcarriers w < c.dataSubcarriers w' := by
    cases c <;> decide
  exact hall w hw w' hw' hlt

theorem le_symbolNs (c : ModulationClass) (g : Nat) : 3200 + g ≤ c.symbolNs g := by
  unfold symbolNs
  split <;> omega

end ModulationClass

namespace Mode

/-- The rate before it is rounded down. -/
def exactRate (m : Mode) (w g n : Nat) : ℚ :=
  match m.modulation with
  | .dsss | .hrDsss => m.fixedRate
  | .ofdm | .erpOfdm => m.fixedRate * ((min w 20 : Nat) / 20)
  | .ht | .vht | .he =>
    n * m.modulation.dataSubcarriers w * m.constellation.log2 * m.codeRate.ratio * 10 ^ 9 / m.modulation.symbolNs g

/-- The nominal rate with each number on the way in a machine word: nothing if one does not fit or a divisor is 0. -/
def wordRate? (m : Mode) (w g n : Nat) : Option Nat :=
  match m.modulation with
  | .dsss | .hrDsss => word? m.fixedRate
  | .ofdm | .erpOfdm => do quotient? (← word? (m.fixedRate * min w 20)) 20
  | .ht | .vht | .he => do
    let subcarriers ← word? (m.modulation.dataSubcarriers w)
    let symbolNs ← word? (m.modulation.symbolNs g)
    let coded ← word? (subcarriers * m.bitsPerSymbol)
    let streamed ← word? (coded * n)
    let data ← word? (streamed * m.codeRate.numerator)
    quotient? (← word? (data * 1000000000)) (← word? (m.codeRate.denominator * symbolNs))

/-! ## Numbers that fit -/

-- The factor `k` is kept general: the kernel would count a literal of that size down to 0.
theorem wordChain_eq_some {s b n p k d t : Nat} (hs : s ≤ 1960) (hb : b ≤ 10) (hn : n < 2 ^ 8) (hp : p ≤ 5)
    (hk : k ≤ 1000000000) (hd : 1 ≤ d ∧ d ≤ 6) (ht : 3200 ≤ t ∧ t < 2 ^ 17) :
    (do
      let subcarriers ← word? s
      let symbolNs ← word? t
      let coded ← word? (subcarriers * b)
      let streamed ← word? (coded * n)
      let data ← word? (streamed * p)
      quotient? (← word? (data * k)) (← word? (d * symbolNs))) = some (s * b * n * p * k / (d * t)) := by
  have ht' : t ≤ 2 ^ 17 := Nat.le_of_lt ht.2
  have hpos : 0 < t := Nat.lt_of_lt_of_le (by decide) ht.1
  have hcoded : s * b ≤ 1960 * 10 := Nat.mul_le_mul hs hb
  have hstreamed : s * b * n ≤ 1960 * 10 * 2 ^ 8 := Nat.mul_le_mul hcoded (Nat.le_of_lt hn)
  have hdata : s * b * n * p ≤ 1960 * 10 * 2 ^ 8 * 5 := Nat.mul_le_mul hstreamed hp
  have hscaled : s * b * n * p * k ≤ 1960 * 10 * 2 ^ 8 * 5 * 1000000000 := Nat.mul_le_mul hdata hk
  have htime : d * t ≤ 6 * 2 ^ 17 := Nat.mul_le_mul hd.2 ht'
  simp only [word?_eq_some hs (by decide), word?_eq_some ht' (by decide), word?_eq_some hcoded (by decide),
    word?_eq_some hstreamed (by decide), word?_eq_some hdata (by decide), word?_eq_some hscaled (by decide),
    word?_eq_some htime (by decide), Option.bind_eq_bind, Option.bind_some]
  exact quotient?_eq_some (Nat.mul_pos hd.1 hpos) hscaled (by decide)

theorem fits_of_mem {m : Mode} (hm : m ∈ Catalog.all) :
    m.bitsPerSymbol ≤ 10 ∧ m.fixedRate ≤ 54000000 ∧ m.constellation = 2 ^ m.bitsPerSymbol := by
  have hall : ∀ m ∈ Catalog.all,
      m.bitsPerSymbol ≤ 10 ∧ m.fixedRate ≤ 54000000 ∧ m.constellation = 2 ^ m.bitsPerSymbol := by decide +kernel
  exact hall m hm

theorem wordRate?_eq_some {m : Mode} (hm : m ∈ Catalog.all) (w : Nat) {g n : Nat} (hg : g < 2 ^ 16) (hn : n < 2 ^ 8) :
    m.wordRate? w g n = some (m.dataRate w g n) := by
  obtain ⟨hbits, hfixed, -⟩ := fits_of_mem hm
  have hsymbol : 3200 ≤ m.modulation.symbolNs g ∧ m.modulation.symbolNs g < 2 ^ 17 := by
    have hle := m.modulation.le_symbolNs g
    have hge := m.modulation.symbolNs_le g
    omega
  have hnumerator : m.codeRate.numerator ≤ 5 := by cases m.codeRate <;> decide
  have hchain := wordChain_eq_some (m.modulation.dataSubcarriers_le w) hbits hn hnumerator (Nat.le_refl _)
    m.codeRate.denominator_bounds hsymbol
  have hscaled : m.fixedRate * min w 20 ≤ 54000000 * 20 := Nat.mul_le_mul hfixed (Nat.min_le_right _ _)
  unfold wordRate? dataRate symbolBits
  cases hc : m.modulation with
  | dsss | hrDsss => exact word?_eq_some hfixed (by decide)
  | ofdm | erpOfdm =>
    dsimp only
    rw [word?_eq_some hscaled (by decide)]
    exact quotient?_eq_some (d := 20) (by decide) hscaled (by decide)
  | ht | vht | he =>
    rw [hc] at hchain
    exact hchain

/-! ## Rounding down -/

theorem dataRate_eq_floor (m : Mode) (w g n : Nat) : m.dataRate w g n = ⌊m.exactRate w g n⌋₊ := by
  have hmcs : ∀ c : ModulationClass, m.symbolBits w n * 1000000000 / (m.codeRate.denominator * c.symbolNs g) =
      ⌊(n * m.modulation.dataSubcarriers w * m.constellation.log2 * m.codeRate.ratio * 10 ^ 9 / c.symbolNs g : ℚ)⌋₊ := by
    intro c
    rw [← Nat.floor_div_eq_div (K := ℚ)]
    congr 1
    rw [symbolBits, bitsPerSymbol, CodeRate.ratio]
    push_cast
    ring
  unfold dataRate exactRate
  cases hc : m.modulation with
  | dsss | hrDsss => exact (Nat.floor_natCast _).symm
  | ofdm | erpOfdm =>
    rw [← Nat.floor_div_eq_div (K := ℚ)]
    push_cast
    rw [mul_div_assoc]
  | ht | vht | he =>
    rw [hmcs]
    rw [hc]

/-! ## Comparing rates -/

/-- The data bits of one subcarrier in one symbol, in twelfths. -/
def subcarrierTwelfths (m : Mode) : Nat :=
  m.bitsPerSymbol * m.codeRate.twelfths

def symbolTwelfths (m : Mode) (w n : Nat) : Nat :=
  m.modulation.dataSubcarriers w * n * m.subcarrierTwelfths

theorem dataRate_of_isMcs {m : Mode} (hm : m.isMcs = true) (w g n : Nat) :
    m.dataRate w g n = m.symbolBits w n * 1000000000 / (m.codeRate.denominator * m.modulation.symbolNs g) := by
  have hne : m.modulation.generation ≠ .legacy := of_decide_eq_true hm
  unfold dataRate
  cases hc : m.modulation with
  | dsss | hrDsss | ofdm | erpOfdm => exact absurd (by rw [hc]; rfl) hne
  | ht | vht | he => rfl

theorem dataRate_eq_twelfths {m : Mode} (hm : m.isMcs = true) (w g n : Nat) :
    m.dataRate w g n = m.symbolTwelfths w n * 1000000000 / (12 * m.modulation.symbolNs g) := by
  have hsymbol : 0 < m.modulation.symbolNs g := Nat.lt_of_lt_of_le (by omega) (m.modulation.le_symbolNs g)
  have hdenominator : 0 < m.codeRate.denominator := m.codeRate.denominator_bounds.1
  rw [dataRate_of_isMcs hm]
  refine div_eq_div_of_mul_eq (Nat.mul_pos hdenominator hsymbol) (Nat.mul_pos (by decide) hsymbol) ?_
  unfold symbolBits symbolTwelfths subcarrierTwelfths
  calc _ = m.modulation.dataSubcarriers w * m.bitsPerSymbol * n * 1000000000 * m.modulation.symbolNs g *
        (12 * m.codeRate.numerator) := by ring
    _ = _ := by
      rw [← CodeRate.twelfths_mul_denominator]
      ring

theorem symbolTime_bounds (c : ModulationClass) {g : Nat} (hg : g < 2 ^ 16) :
    0 < 12 * c.symbolNs g ∧ 12 * c.symbolNs g ≤ 1000000000 := by
  have hle := c.le_symbolNs g
  have hge := c.symbolNs_le g
  omega

/-- **A twelfth of a bit more in each symbol is a higher rate.** -/
theorem dataRate_lt_of_twelfths_lt {m m' : Mode} (hm : m.isMcs = true) (hclass : m'.modulation = m.modulation)
    {w w' n n' g : Nat} (hg : g < 2 ^ 16) (h : m.symbolTwelfths w n < m'.symbolTwelfths w' n') :
    m.dataRate w g n < m'.dataRate w' g n' := by
  have hm' : m'.isMcs = true := by rwa [isMcs, generation, hclass]
  obtain ⟨hpos, hle⟩ := symbolTime_bounds m.modulation hg
  rw [dataRate_eq_twelfths hm, dataRate_eq_twelfths hm', hclass]
  exact div_lt_div_of_add_le hpos (by omega)

theorem dataRate_pos_of_twelfths {m : Mode} (hm : m.isMcs = true) {w n g : Nat} (hg : g < 2 ^ 16)
    (h : 0 < m.symbolTwelfths w n) : 0 < m.dataRate w g n := by
  obtain ⟨hpos, hle⟩ := symbolTime_bounds m.modulation hg
  rw [dataRate_eq_twelfths hm]
  exact Nat.div_pos (by omega) hpos

/-- **A longer guard interval is a lower rate**, down to the last bit in a second. -/
theorem dataRate_lt_of_guard_lt {m : Mode} (hm : m.isMcs = true) {w n g g' : Nat} (h : 312 ≤ m.symbolTwelfths w n)
    (hlt : g < g') (hg' : g' < 2 ^ 16) : m.dataRate w g' n < m.dataRate w g n := by
  obtain ⟨hpos, hle⟩ := symbolTime_bounds m.modulation (Nat.lt_trans hlt hg')
  have hstep : 12 * m.modulation.symbolNs g + 12 ≤ 12 * m.modulation.symbolNs g' := by
    unfold ModulationClass.symbolNs
    omega
  have htime : ∀ k < 2 ^ 16, 12 * m.modulation.symbolNs k ≤ 12 * 78336 := fun k hk => by
    have := m.modulation.symbolNs_le k
    omega
  have hproduct : 12 * m.modulation.symbolNs g * (12 * m.modulation.symbolNs g') ≤ 12 * 78336 * (12 * 78336) :=
    Nat.mul_le_mul (htime g (Nat.lt_trans hlt hg')) (htime g' hg')
  rw [dataRate_eq_twelfths hm, dataRate_eq_twelfths hm]
  exact div_lt_div_of_slower hpos hstep (by omega)

/-! ## The schemes of the catalogs -/

theorem eq_mcs_of_mem {m : Mode} (hm : m ∈ Catalog.all) (hmcs : m.isMcs = true) :
    m = mcs m.modulation m.index ∧ (m.modulation ≠ .ht → m.index < 12) := by
  have hall : ∀ m ∈ Catalog.all, m.isMcs = true →
      m = mcs m.modulation m.index ∧ (m.modulation ≠ .ht → m.index < 12) := by decide +kernel
  exact hall m hm hmcs

/-- Which of the twelve schemes an MCS uses. -/
def schemeIndex (m : Mode) : Nat :=
  if m.modulation = .ht then m.index % 8 else m.index

def schemeTwelfths (i : Nat) : Nat :=
  (scheme i).1.log2 * (scheme i).2.twelfths

theorem schemeTwelfths_lt {i j : Nat} (hij : i < j) (hj : j < 12) : schemeTwelfths i < schemeTwelfths j := by
  have hall : ∀ j < 12, ∀ i < j, schemeTwelfths i < schemeTwelfths j := by decide
  exact hall j hj i hij

theorem six_le_schemeTwelfths {i : Nat} (hi : i < 12) : 6 ≤ schemeTwelfths i := by
  have hall : ∀ i < 12, 6 ≤ schemeTwelfths i := by decide
  exact hall i hi

theorem schemeIndex_lt {m : Mode} (hm : m ∈ Catalog.all) (hmcs : m.isMcs = true) : m.schemeIndex < 12 := by
  have hindex := (eq_mcs_of_mem hm hmcs).2
  unfold schemeIndex
  split
  · omega
  · exact hindex ‹_›

theorem subcarrierTwelfths_eq {m : Mode} (hm : m ∈ Catalog.all) (hmcs : m.isMcs = true) :
    m.subcarrierTwelfths = schemeTwelfths m.schemeIndex :=
  congrArg subcarrierTwelfths (eq_mcs_of_mem hm hmcs).1

/-- Of two MCSes for the same number of streams the later one uses the later scheme. -/
theorem schemeIndex_lt_schemeIndex {m m' : Mode} (hclass : m'.modulation = m.modulation)
    (hstreams : m'.htStreams = m.htStreams) (hindex : m.index < m'.index) : m.schemeIndex < m'.schemeIndex := by
  unfold htStreams at hstreams
  unfold schemeIndex
  rw [hclass] at hstreams ⊢
  split
  · rw [if_pos ‹_›, if_pos ‹_›] at hstreams
    omega
  · exact hindex

/-! ## The law -/

/-- **The arithmetic of a rate of the catalogs is exact**: no number on the way needs more than 64 bits and no divisor is
0, so that nothing but the last rounding down stands between the rate and its formula.  The rates of an MCS are positive
and strictly increase with the width, the streams and the index, and strictly decrease with the guard interval. -/
theorem dataRate_exact {m : Mode} (hm : m ∈ Catalog.all) :
    m.constellation = 2 ^ m.constellation.log2 ∧
      (∀ w g n, w < 2 ^ 16 → g < 2 ^ 16 → n < 2 ^ 8 →
        m.wordRate? w g n = some (m.dataRate w g n) ∧ m.dataRate w g n = ⌊m.exactRate w g n⌋₊) ∧
      (m.isMcs = true → ∀ w ∈ mcsWidthsMHz, ∀ n g, 1 ≤ n → g < 2 ^ 16 →
        0 < m.dataRate w g n ∧
        (∀ w' ∈ mcsWidthsMHz, w < w' → m.dataRate w g n < m.dataRate w' g n) ∧
        (∀ n', n < n' → m.dataRate w g n < m.dataRate w g n') ∧
        (∀ m' ∈ Catalog.all, m'.modulation = m.modulation → m'.htStreams = m.htStreams → m.index < m'.index →
          m.dataRate w g n < m'.dataRate w g n) ∧
        ∀ g', g < g' → g' < 2 ^ 16 → m.dataRate w g' n < m.dataRate w g n) := by
  refine ⟨(fits_of_mem hm).2.2, fun w g n _ hg hn => ⟨wordRate?_eq_some hm w hg hn, m.dataRate_eq_floor w g n⟩,
    fun hmcs w hw n g hn hg => ?_⟩
  have hsub : 52 ≤ m.modulation.dataSubcarriers w := m.modulation.fiftyTwo_le_dataSubcarriers hw
  have htwelfths : 6 ≤ m.subcarrierTwelfths := by
    rw [subcarrierTwelfths_eq hm hmcs]
    exact six_le_schemeTwelfths (schemeIndex_lt hm hmcs)
  have hsymbol : 52 * 1 * 6 ≤ m.symbolTwelfths w n := Nat.mul_le_mul (Nat.mul_le_mul hsub hn) htwelfths
  have hstreamed : 0 < m.modulation.dataSubcarriers w * n := Nat.mul_pos (by omega) hn
  refine ⟨dataRate_pos_of_twelfths hmcs hg (by omega), fun w' hw' hlt => ?_, fun n' hlt => ?_,
    fun m' hm' hclass hstreams hindex => ?_, fun g' hlt hg' => dataRate_lt_of_guard_lt hmcs hsymbol hlt hg'⟩
  · refine dataRate_lt_of_twelfths_lt hmcs rfl hg (Nat.mul_lt_mul_of_pos_right ?_ (by omega))
    exact Nat.mul_lt_mul_of_pos_right (m.modulation.dataSubcarriers_lt hw hw' hlt) hn
  · refine dataRate_lt_of_twelfths_lt hmcs rfl hg (Nat.mul_lt_mul_of_pos_right ?_ (by omega))
    exact Nat.mul_lt_mul_of_pos_left hlt (by omega)
  · have hmcs' : m'.isMcs = true := by rwa [isMcs, generation, hclass]
    refine dataRate_lt_of_twelfths_lt hmcs hclass hg ?_
    unfold symbolTwelfths
    rw [hclass, subcarrierTwelfths_eq hm hmcs, subcarrierTwelfths_eq hm' hmcs']
    exact Nat.mul_lt_mul_of_pos_left
      (schemeTwelfths_lt (schemeIndex_lt_schemeIndex hclass hstreams hindex) (schemeIndex_lt hm' hmcs')) hstreamed

/-- The last two guard intervals that 16 bits hold, for the slowest MCS there is. -/
theorem dataRate_exact_longGuards :
    let m := mcs .ht 0
    m ∈ Catalog.all ∧ m.wordRate? 20 65535 1 = some 378264 ∧ m.dataRate 20 65535 1 < m.dataRate 20 65534 1 ∧
      m.dataRate 20 65535 1 < (mcs .ht 1).dataRate 20 65535 1 := by
  intro m
  have hm : m ∈ Catalog.all := by decide +kernel
  obtain ⟨-, hcomputed, hcompared⟩ := dataRate_exact hm
  obtain ⟨-, -, -, -, hguard⟩ := hcompared rfl 20 (by decide) 1 65534 (by decide) (by decide)
  obtain ⟨-, -, -, hindex, -⟩ := hcompared rfl 20 (by decide) 1 65535 (by decide) (by decide)
  have hword := (hcomputed 20 65535 1 (by decide) (by decide) (by decide)).1
  exact ⟨hm, hword.trans (by decide +kernel), hguard 65535 (by decide) (by decide),
    hindex (mcs .ht 1) (by decide +kernel) rfl (by decide) (by decide)⟩

end Mode
end LinkAdaptation

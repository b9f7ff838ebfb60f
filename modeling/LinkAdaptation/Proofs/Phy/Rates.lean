import LinkAdaptation.Phy.TxVector
/-!
# Data rates

A mode of the catalogs carries data at every width it can be put on air at, so the nominal rate of a permitted
configuration is never rounded down to nothing: `TxVector.dataRate_pos`.
-/
namespace LinkAdaptation

namespace Mode

/-- What keeps the rate of a mode from vanishing: an MCS carries a bit in each symbol of a subcarrier, and the rate of
any other mode survives the narrowest channel. -/
def CarriesData (m : Mode) : Prop :=
  if m.isMcs then 2 ≤ m.constellation else 20 ≤ m.fixedRate

instance (m : Mode) : Decidable m.CarriesData := by
  unfold CarriesData
  infer_instance

theorem carriesData_of_mem {m : Mode} (hm : m ∈ Catalog.all) : m.CarriesData := by
  have hall : ∀ m ∈ Catalog.all, m.CarriesData := by decide +kernel
  exact hall m hm

theorem one_le_bitsPerSymbol {m : Mode} (h : 2 ≤ m.constellation) : 1 ≤ m.bitsPerSymbol :=
  (Nat.le_log2 (by omega)).2 h

end Mode

theorem CodeRate.numerator_pos (r : CodeRate) : 1 ≤ r.numerator := by
  cases r <;> decide

theorem CodeRate.denominator_bounds (r : CodeRate) : 1 ≤ r.denominator ∧ r.denominator ≤ 6 := by
  cases r <;> decide

namespace ModulationClass

theorem fiftyTwo_le_dataSubcarriers (c : ModulationClass) {w : Nat} (hw : w ∈ mcsWidthsMHz) :
    52 ≤ c.dataSubcarriers w := by
  have hall : ∀ w ∈ mcsWidthsMHz, 52 ≤ c.dataSubcarriers w := by cases c <;> decide
  exact hall w hw

theorem symbolNs_le (c : ModulationClass) (guardNs : Nat) : c.symbolNs guardNs ≤ 12800 + guardNs := by
  unfold symbolNs
  split <;> omega

end ModulationClass

namespace Mode

/-- **The rate of an MCS is positive** on every width that has a plan, whatever the number of streams, with every guard
interval there is. -/
theorem mcsRate_pos {m : Mode} {w g n : Nat} (hm : 2 ≤ m.constellation) (hw : w ∈ mcsWidthsMHz) (hn : 1 ≤ n)
    (hg : g ≤ 3200) :
    0 < m.symbolBits w n * 1000000000 / (m.codeRate.denominator * m.modulation.symbolNs g) := by
  have hbits : 52 * 1 * 1 * 1 ≤ m.symbolBits w n :=
    Nat.mul_le_mul (Nat.mul_le_mul (Nat.mul_le_mul (m.modulation.fiftyTwo_le_dataSubcarriers hw)
      (one_le_bitsPerSymbol hm)) hn) m.codeRate.numerator_pos
  have hsymbol : 3200 ≤ m.modulation.symbolNs g := by
    unfold ModulationClass.symbolNs
    split <;> omega
  have htime : m.codeRate.denominator * m.modulation.symbolNs g ≤ 6 * 16000 :=
    Nat.mul_le_mul m.codeRate.denominator_bounds.2 (Nat.le_trans (m.modulation.symbolNs_le g) (by omega))
  have hpos : 0 < m.codeRate.denominator * m.modulation.symbolNs g :=
    Nat.mul_pos m.codeRate.denominator_bounds.1 (by omega)
  have hdata : 52 * 1 * 1 * 1 * 1000000000 ≤ m.symbolBits w n * 1000000000 := Nat.mul_le_mul_right _ hbits
  exact Nat.div_pos (Nat.le_trans htime (Nat.le_trans (by decide) hdata)) hpos

theorem guard_le {g : Nat} (h : g = shortGuardNs ∨ g = longGuardNs) : g ≤ 3200 := by
  rcases h with rfl | rfl <;> decide

theorem heGuard_le {g : Nat} (h : g ∈ heGuardsNs) : g ≤ 3200 := by
  have hall : ∀ g ∈ heGuardsNs, g ≤ 3200 := by decide
  exact hall g h

theorem scaledRate_pos {rate w : Nat} (hrate : 20 ≤ rate) (hw : 1 ≤ w) : 0 < rate * min w 20 / 20 := by
  refine Nat.div_pos ?_ (by decide)
  calc 20 = 20 * 1 := rfl
    _ ≤ rate * min w 20 := Nat.mul_le_mul hrate (by omega)

end Mode

/-- **A permitted configuration of a mode that carries data has a rate.** -/
theorem TxVector.dataRate_pos_of_carriesData {v : TxVector} (hm : v.mode.CarriesData) (h : v.isPermitted = true) :
    0 < v.dataRate := by
  obtain ⟨m, n, g, w⟩ := v
  have hmodulation : ∀ c, m.modulation = c → (m.isMcs = true ↔ c.generation ≠ .legacy) := by
    rintro c rfl
    exact decide_eq_true_iff
  unfold Mode.CarriesData at hm
  unfold TxVector.isPermitted at h
  unfold TxVector.dataRate Mode.dataRate
  dsimp only at hm h ⊢
  cases hc : m.modulation with
  | dsss | hrDsss =>
    rw [if_neg (by rw [hmodulation _ hc]; decide)] at hm
    exact Nat.lt_of_lt_of_le (by decide) hm
  | ofdm | erpOfdm =>
    rw [if_neg (by rw [hmodulation _ hc]; decide)] at hm
    rw [hc] at h
    simp only [Bool.and_eq_true, Bool.or_eq_true, decide_eq_true_eq] at h
    exact Mode.scaledRate_pos hm (by omega)
  | ht =>
    rw [if_pos (by rw [hmodulation _ hc]; decide)] at hm
    rw [hc] at h
    simp only [Bool.and_eq_true, Bool.or_eq_true, decide_eq_true_eq, Mode.htStreams, hc, if_true] at h
    obtain ⟨⟨⟨hw, hg⟩, -⟩, hn⟩ := h
    have hwidth : w ∈ mcsWidthsMHz := by rcases hw with rfl | rfl <;> decide
    have := Mode.mcsRate_pos (m := m) (g := g) hm hwidth (by omega : 1 ≤ n) (Mode.guard_le hg)
    rwa [hc] at this
  | vht =>
    rw [if_pos (by rw [hmodulation _ hc]; decide)] at hm
    rw [hc] at h
    simp only [Bool.and_eq_true, Bool.or_eq_true, decide_eq_true_eq] at h
    obtain ⟨⟨⟨⟨hw, hg⟩, hn⟩, -⟩, -⟩ := h
    have := Mode.mcsRate_pos (m := m) (g := g) hm hw hn.1 (Mode.guard_le hg)
    rwa [hc] at this
  | he =>
    rw [if_pos (by rw [hmodulation _ hc]; decide)] at hm
    rw [hc] at h
    simp only [Bool.and_eq_true, decide_eq_true_eq] at h
    obtain ⟨⟨⟨hw, hg⟩, hn⟩, -⟩ := h
    have := Mode.mcsRate_pos (m := m) (g := g) hm hw hn.1 (Mode.heGuard_le hg)
    rwa [hc] at this

/-- **The nominal rate of a permitted configuration of a catalog mode is positive.** -/
theorem TxVector.dataRate_pos {v : TxVector} (hm : v.mode ∈ Catalog.all) (h : v.isPermitted = true) : 0 < v.dataRate :=
  v.dataRate_pos_of_carriesData (Mode.carriesData_of_mem hm) h

/-- **A legacy configuration is always permitted.** -/
theorem TxVector.isPermitted_legacy {m : Mode} (hm : m.generation = .legacy) : (TxVector.legacy m).isPermitted = true := by
  unfold Mode.generation at hm
  unfold TxVector.isPermitted TxVector.legacy Mode.widthClassMHz
  cases hc : m.modulation <;> rw [hc] at hm <;> first | rfl | cases hm

end LinkAdaptation

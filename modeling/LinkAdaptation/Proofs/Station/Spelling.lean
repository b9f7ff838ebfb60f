import LinkAdaptation.Proofs.Attempts
import LinkAdaptation.Proofs.Text.Blank
import LinkAdaptation.Station.Address
/-!
# How addresses are written

The texts that are read as an address, as a grammar: six groups with a colon or a hyphen in each gap, blanks around them
(`MacAddress.Spelled`).  A group is two hexadecimal digits, or a plus sign and one digit, as readers of numbers take it;
`MacAddress.parse_decided` says that this is all that is read, and that without the plus sign only pairs of digits are.
-/
namespace LinkAdaptation

namespace Text

/-! ## Digits -/

theorem lt_of_hexValue? {c : Char} {n : Nat} (h : hexValue? c = some n) : c.toNat < 128 := by
  have hle : ∀ {d : Char}, d.toNat < 128 → c ≤ d → c.toNat < 128 := fun hd hcd =>
    Nat.lt_of_le_of_lt (UInt32.le_iff_toNat_le.1 hcd) hd
  unfold hexValue? at h
  split at h
  · rename_i hdigit
    simp only [Char.isDigit, Bool.and_eq_true, decide_eq_true_eq] at hdigit
    exact hle (by decide : '9'.toNat < 128) hdigit.2
  split at h
  · rename_i hsmall
    exact hle (by decide) hsmall.2
  split at h
  · rename_i hcapital
    exact hle (by decide) hcapital.2
  · cases h

/-- **The digits of base 16** are those of the numbers below 16, in small letters or in capitals. -/
theorem hexValue?_eq_some_iff {c : Char} {n : Nat} :
    hexValue? c = some n ↔ n < 16 ∧ (c = hexDigit n ∨ c = (hexDigit n).toUpper) := by
  constructor
  -- Digits are ASCII, so there are few enough characters to try them all.
  · intro h
    have hascii : ∀ k < 128, ∀ n ∈ hexValue? (Char.ofNat k),
        n < 16 ∧ (Char.ofNat k = hexDigit n ∨ Char.ofNat k = (hexDigit n).toUpper) := by decide
    have hc := hascii c.toNat (lt_of_hexValue? h) n
    rw [Char.ofNat_toNat] at hc
    exact hc h
  · rintro ⟨hn, hc⟩
    have hdigits : ∀ n < 16, hexValue? (hexDigit n) = some n ∧ hexValue? (hexDigit n).toUpper = some n := by decide
    rcases hc with rfl | rfl
    · exact (hdigits n hn).1
    · exact (hdigits n hn).2

theorem forall_hexDigit {p : Char → Prop} (hp : ∀ n < 16, p (hexDigit n) ∧ p (hexDigit n).toUpper) {c : Char} {n : Nat}
    (h : hexValue? c = some n) : p c := by
  obtain ⟨hn, rfl | rfl⟩ := hexValue?_eq_some_iff.1 h
  · exact (hp n hn).1
  · exact (hp n hn).2

end Text

namespace MacAddress

open Text

/-! ## Octets -/

/-- Two hexadecimal digits that write an octet. -/
def Pair (g : List Char) (b : UInt8) : Prop :=
  ∃ high low h l, g = [high, low] ∧ hexValue? high = some h ∧ hexValue? low = some l ∧ b = (16 * h + l).toUInt8

/-- A plus sign and a hexadecimal digit that write an octet. -/
def Signed (g : List Char) (b : UInt8) : Prop :=
  ∃ low l, g = ['+', low] ∧ hexValue? low = some l ∧ b = l.toUInt8

theorem octet?_eq_some_iff {g : List Char} {b : UInt8} : octet? g = some b ↔ Pair g b ∨ Signed g b := by
  unfold octet?
  split
  · rename_i low
    constructor
    · intro h
      obtain ⟨l, hl, rfl⟩ := Option.map_eq_some_iff.1 h
      exact Or.inr ⟨low, l, rfl, hl, rfl⟩
    · rintro (⟨high, low', h, l, hg, hh, -⟩ | ⟨low', l, hg, hl, rfl⟩)
      · cases hg
        cases hh
      · cases hg
        rw [hl]
        rfl
  · rename_i high low hsign
    constructor
    · intro hoctet
      obtain ⟨h, hh, hrest⟩ := Option.bind_eq_some_iff.1 hoctet
      obtain ⟨l, hl, hb⟩ := Option.bind_eq_some_iff.1 hrest
      cases hb
      exact Or.inl ⟨high, low, h, l, rfl, hh, hl, rfl⟩
    · rintro (⟨high', low', h, l, hg, hh, hl, rfl⟩ | ⟨low', l, hg, -⟩)
      · cases hg
        rw [hh, hl]
        rfl
      · cases hg
        exact absurd rfl hsign
  · rename_i hlow hpair
    constructor
    · intro h
      cases h
    · rintro (⟨high, low, h, l, rfl, -⟩ | ⟨low, l, rfl, -⟩)
      · exact absurd rfl (hpair _ _)
      · exact absurd rfl (hlow _)

/-- A reader of any number in base 16: a plus sign may stand in front of the digits, of which there has to be one. -/
def number? : List Char → Option Nat
  | [] | ['+'] => none
  | '+' :: digits => ofHex? digits
  | digits => ofHex? digits

theorem utf8Size_of_hexValue? {c : Char} {n : Nat} (h : hexValue? c = some n) : c.utf8Size = 1 :=
  forall_hexDigit (p := fun c => c.utf8Size = 1) (by decide) h

theorem ofHex?_singleton (c : Char) : ofHex? [c] = hexValue? c := by
  cases h : hexValue? c <;> simp [ofHex?, h]

theorem ofHex?_pair (c d : Char) : ofHex? [c, d] = (hexValue? c).bind fun h => (hexValue? d).map (16 * h + ·) := by
  cases hc : hexValue? c <;> cases hd : hexValue? d <;> simp [ofHex?, hc, hd]

theorem utf8ByteSize_ofList_cons (c : Char) (cs : List Char) :
    (String.ofList (c :: cs)).utf8ByteSize = c.utf8Size + (String.ofList cs).utf8ByteSize := by
  rw [String.ofList_cons, String.utf8ByteSize_append, String.utf8ByteSize_singleton]

/-- **An octet is what a reader of any number reads off two bytes.** -/
theorem octet?_eq_number? (g : List Char) :
    octet? g = if (String.ofList g).utf8ByteSize = 2 then
      (number? g).bind fun n => if n < 256 then some n.toUInt8 else none else none := by
  match g with
  | [] => simp [octet?]
  | [c] =>
    by_cases hplus : c = '+'
    · simp [octet?, number?, hplus]
    cases hc : hexValue? c with
    | none => simp [octet?, number?, hplus, ofHex?_singleton, hc]
    | some n =>
      rw [utf8ByteSize_ofList_cons, utf8Size_of_hexValue? hc, if_neg (by decide)]
      simp [octet?]
  | [c, d] =>
    by_cases hplus : c = '+'
    · subst hplus
      cases hd : hexValue? d with
      | none => simp [octet?, number?, ofHex?_singleton, hd]
      | some l =>
        have hl : l < 256 := Nat.lt_trans (hexValue?_eq_some_iff.1 hd).1 (by decide)
        rw [utf8ByteSize_ofList_cons, utf8ByteSize_ofList_cons, utf8Size_of_hexValue? hd, if_pos (by decide)]
        simp [octet?, number?, ofHex?_singleton, hd, hl]
    · cases hc : hexValue? c with
      | none => simp [octet?, number?, hplus, ofHex?_pair, hc]
      | some h =>
        cases hd : hexValue? d with
        | none => simp [octet?, number?, hplus, ofHex?_pair, hc, hd]
        | some l =>
          have hh := (hexValue?_eq_some_iff.1 hc).1
          have hl := (hexValue?_eq_some_iff.1 hd).1
          have hsum : 16 * h + l < 256 := by omega
          rw [utf8ByteSize_ofList_cons, utf8ByteSize_ofList_cons, utf8Size_of_hexValue? hc, utf8Size_of_hexValue? hd,
            if_pos (by decide)]
          simp [octet?, number?, hplus, ofHex?_pair, hc, hd, hsum]
  | c :: d :: e :: rest =>
    have hc := c.utf8Size_pos
    have hd := d.utf8Size_pos
    have he := e.utf8Size_pos
    rw [utf8ByteSize_ofList_cons, utf8ByteSize_ofList_cons, utf8ByteSize_ofList_cons, if_neg (by omega)]
    simp [octet?]

/-! ## Groups -/

/-- What may stand between two groups. -/
def IsGap (c : Char) : Prop :=
  c = ':' ∨ c = '-'

instance : DecidablePred IsGap := fun c => inferInstanceAs (Decidable (c = ':' ∨ c = '-'))

/-- **Groups with a colon or a hyphen in each gap**; `G` says which groups write an octet. -/
inductive Written (G : List Char → UInt8 → Prop) : List Char → List UInt8 → Prop
  | last {g : List Char} {b : UInt8} : G g b → Written G g [b]
  | more {g cs : List Char} {gap : Char} {b : UInt8} {bs : List UInt8} :
      G g b → IsGap gap → Written G cs bs → Written G (g ++ gap :: cs) (b :: bs)

variable {G : List Char → UInt8 → Prop}

theorem groups_gap {gap : Char} (hgap : IsGap gap) (cs : List Char) : groups (gap :: cs) = [] :: groups cs :=
  if_pos hgap

theorem groups_cons {c : Char} (hc : ¬ IsGap c) {cs g : List Char} {gs : List (List Char)} (h : groups cs = g :: gs) :
    groups (c :: cs) = (c :: g) :: gs := by
  unfold IsGap at hc
  rw [groups, if_neg hc, h]

theorem groups_of_no_gap {g : List Char} (hg : ∀ c ∈ g, ¬ IsGap c) : groups g = [g] := by
  induction g with
  | nil => rfl
  | cons c g ih => exact groups_cons (hg c List.mem_cons_self) (ih fun c hc => hg c (List.mem_cons_of_mem _ hc))

theorem groups_append {g : List Char} (hg : ∀ c ∈ g, ¬ IsGap c) {gap : Char} (hgap : IsGap gap) (cs : List Char) :
    groups (g ++ gap :: cs) = g :: groups cs := by
  induction g with
  | nil => exact groups_gap hgap cs
  | cons c g ih => exact groups_cons (hg c List.mem_cons_self) (ih fun c hc => hg c (List.mem_cons_of_mem _ hc))

theorem exists_group (cs : List Char) : (∀ c ∈ cs, ¬ IsGap c) ∨
    ∃ g gap rest, cs = g ++ gap :: rest ∧ (∀ c ∈ g, ¬ IsGap c) ∧ IsGap gap := by
  induction cs with
  | nil => exact Or.inl (by simp)
  | cons c cs ih =>
    by_cases hc : IsGap c
    · exact Or.inr ⟨[], c, cs, rfl, by simp, hc⟩
    rcases ih with h | ⟨g, gap, rest, rfl, hg, hgap⟩
    · exact Or.inl (List.forall_mem_cons.2 ⟨hc, h⟩)
    · exact Or.inr ⟨c :: g, gap, rest, rfl, List.forall_mem_cons.2 ⟨hc, hg⟩, hgap⟩

/-- **What is written is what the groups write**, group by group. -/
theorem written_iff (hG : ∀ g b, G g b → ∀ c ∈ g, ¬ IsGap c) {cs : List Char} {bs : List UInt8} :
    Written G cs bs ↔ List.Forall₂ G (groups cs) bs := by
  constructor
  · intro h
    induction h with
    | last hb =>
      rw [groups_of_no_gap (hG _ _ hb)]
      exact .cons hb .nil
    | more hb hgap _ ih =>
      rw [groups_append (hG _ _ hb) hgap]
      exact .cons hb ih
  -- The text is taken apart with the octets, each time at its first gap.
  · intro h
    induction bs generalizing cs with
    | nil =>
      rcases exists_group cs with hcs | ⟨g, gap, rest, rfl, hg, hgap⟩
      · rw [groups_of_no_gap hcs] at h
        cases h
      · rw [groups_append hg hgap] at h
        cases h
    | cons b bs ih =>
      rcases exists_group cs with hcs | ⟨g, gap, rest, rfl, hg, hgap⟩
      · rw [groups_of_no_gap hcs] at h
        obtain ⟨hb, hbs⟩ := List.forall₂_cons.1 h
        cases hbs
        exact .last hb
      · rw [groups_append hg hgap] at h
        obtain ⟨hb, hbs⟩ := List.forall₂_cons.1 h
        exact .more hb hgap (ih hbs)

theorem Written.forall {p : Char → Prop} (hG : ∀ g b, G g b → ∀ c ∈ g, p c) (hp : ∀ c, IsGap c → p c) {cs : List Char}
    {bs : List UInt8} (h : Written G cs bs) : ∀ c ∈ cs, p c := by
  induction h with
  | last hb => exact hG _ _ hb
  | more hb hgap _ ih =>
    intro c hc
    rcases List.mem_append.1 hc with hc | hc
    · exact hG _ _ hb c hc
    rcases List.mem_cons.1 hc with rfl | hc
    · exact hp _ hgap
    · exact ih c hc

theorem Written.imp {G' : List Char → UInt8 → Prop} {p : Char → Prop} {cs : List Char} {bs : List UInt8}
    (h : Written G cs bs) (hcs : ∀ c ∈ cs, p c) (hG : ∀ g b, (∀ c ∈ g, p c) → G g b → G' g b) : Written G' cs bs := by
  induction h with
  | last hb => exact .last (hG _ _ hcs hb)
  | more hb hgap _ ih =>
    rw [List.forall_mem_append, List.forall_mem_cons] at hcs
    exact .more (hG _ _ hcs.1 hb) hgap (ih hcs.2.2)

/-! ## Addresses -/

/-- **A text that writes an address**: its six octets as groups, with nothing but blanks around them. -/
def Spelled (G : List Char → UInt8 → Prop) (text : String) (a : MacAddress) : Prop :=
  ∃ before core after, text.toList = before ++ core ++ after ∧ (∀ c ∈ before, isBlank c = true) ∧
    (∀ c ∈ after, isBlank c = true) ∧ Written G core a.octets.toList

theorem exists_octets (a : MacAddress) :
    ∃ o₁ o₂ o₃ o₄ o₅ o₆, a.octets.toList = [o₁, o₂, o₃, o₄, o₅, o₆] ∧ a = ⟨#v[o₁, o₂, o₃, o₄, o₅, o₆]⟩ := by
  match h : a.octets.toList, a.octets.length_toList with
  | [o₁, o₂, o₃, o₄, o₅, o₆], _ =>
    exact ⟨o₁, o₂, o₃, o₄, o₅, o₆, rfl, congrArg MacAddress.mk (Vector.toList_inj.1 h)⟩

theorem parse_eq_ok_iff {text : String} {a : MacAddress} :
    parse text = .ok a ↔ (groups (trim text.toList)).mapM octet? = some a.octets.toList := by
  unfold parse
  constructor
  · intro h
    split at h
    · rename_i hoctets
      cases h
      exact hoctets
    · cases h
  · intro h
    obtain ⟨o₁, o₂, o₃, o₄, o₅, o₆, ha, rfl⟩ := exists_octets a
    rw [h]
    rfl

/-- **An address is what its groups write**, if neither gaps nor blanks stand in a group. -/
theorem spelled_iff (hgap : ∀ g b, G g b → ∀ c ∈ g, ¬ IsGap c) (hblank : ∀ g b, G g b → ∀ c ∈ g, isBlank c = false)
    {text : String} {a : MacAddress} :
    Spelled G text a ↔ List.Forall₂ G (groups (trim text.toList)) a.octets.toList := by
  rw [← written_iff hgap]
  constructor
  · rintro ⟨before, core, after, htext, hbefore, hafter, hcore⟩
    have hnone : ∀ c ∈ core, isBlank c = false :=
      hcore.forall hblank fun c hc => by rcases hc with rfl | rfl <;> rfl
    rw [htext, trim_eq hbefore hnone hafter]
    exact hcore
  · intro h
    obtain ⟨before, after, htext, hbefore, hafter⟩ := exists_trim text.toList
    exact ⟨before, trim text.toList, after, htext, hbefore, hafter, h⟩

theorem Spelled.forall {p : Char → Prop} (hG : ∀ g b, G g b → ∀ c ∈ g, p c) (hgap : ∀ c, IsGap c → p c)
    (hblank : ∀ c, isBlank c = true → p c) {text : String} {a : MacAddress} (h : Spelled G text a) :
    ∀ c ∈ text.toList, p c := by
  obtain ⟨before, core, after, htext, hbefore, hafter, hcore⟩ := h
  rw [htext]
  refine List.forall_mem_append.2 ⟨List.forall_mem_append.2 ⟨fun c hc => ?_, hcore.forall hG hgap⟩, fun c hc => ?_⟩
  · exact hblank c (hbefore c hc)
  · exact hblank c (hafter c hc)

theorem Spelled.imp {G' : List Char → UInt8 → Prop} {p : Char → Prop} {text : String} {a : MacAddress}
    (h : Spelled G text a) (htext : ∀ c ∈ text.toList, p c) (hG : ∀ g b, (∀ c ∈ g, p c) → G g b → G' g b) :
    Spelled G' text a := by
  obtain ⟨before, core, after, hsplit, hbefore, hafter, hcore⟩ := h
  rw [hsplit, List.forall_mem_append, List.forall_mem_append] at htext
  exact ⟨before, core, after, hsplit, hbefore, hafter, hcore.imp htext.1.2 hG⟩

/-! ## What is read -/

/-- A group that is read as an octet. -/
def Readable (g : List Char) (b : UInt8) : Prop :=
  Pair g b ∨ Signed g b

section Letters

variable {p : Char → Prop} (hp : ∀ n < 16, p (hexDigit n) ∧ p (hexDigit n).toUpper) {g : List Char} {b : UInt8}
include hp

theorem Pair.forall (h : Pair g b) : ∀ c ∈ g, p c := by
  obtain ⟨high, low, h, l, rfl, hh, hl, -⟩ := h
  simpa using ⟨forall_hexDigit hp hh, forall_hexDigit hp hl⟩

theorem Readable.forall (hplus : p '+') (h : Readable g b) : ∀ c ∈ g, p c := by
  rcases h with h | ⟨low, l, rfl, hl, -⟩
  · exact h.forall hp
  · simpa using ⟨hplus, forall_hexDigit hp hl⟩

end Letters

theorem parse_eq_ok_iff_spelled {text : String} {a : MacAddress} : parse text = .ok a ↔ Spelled Readable text a := by
  have hoctet : (fun g b => octet? g = some b) = Readable := funext₂ fun g b => propext octet?_eq_some_iff
  rw [parse_eq_ok_iff, Attempt.mapM_eq_some_iff, hoctet, spelled_iff]
  · exact fun g b h => h.forall (by decide) (by decide)
  · exact fun g b h => h.forall (by decide) (by decide)

theorem spelled_pair_iff {text : String} {a : MacAddress} :
    Spelled Pair text a ↔ parse text = .ok a ∧ '+' ∉ text.toList := by
  rw [parse_eq_ok_iff_spelled]
  constructor
  · intro h
    have hplus : ∀ c ∈ text.toList, c ≠ '+' := by
      refine h.forall (fun g b hpair => hpair.forall (by decide)) ?_ ?_
      · rintro c (rfl | rfl) <;> decide
      · rintro c hc rfl
        cases hc
    exact ⟨h.imp hplus fun g b _ hpair => Or.inl hpair, fun hmem => hplus '+' hmem rfl⟩
  · rintro ⟨h, hplus⟩
    refine h.imp (p := (· ≠ '+')) (fun c hc heq => hplus (heq ▸ hc)) ?_
    rintro g b hg (hpair | ⟨low, l, rfl, -⟩)
    · exact hpair
    · exact absurd rfl (hg '+' List.mem_cons_self)

theorem parse_eq_error_iff {text : String} {e : Invalid} :
    parse text = .error e ↔ e = ⟨text⟩ ∧ ∀ a, parse text ≠ .ok a := by
  unfold parse
  split
  · simp
  · simp [eq_comm]

/-- **What is read as an address is decided by a grammar**: six groups that are two hexadecimal digits, or a plus sign and
one digit, with a colon or a hyphen in each gap and blanks around them.  Every other text is an error that carries the
text as it was given.  The texts with six pairs of digits are those that are read and have no plus sign. -/
theorem parse_decided (text : String) :
    (∀ a, parse text = .ok a ↔ Spelled Readable text a) ∧
      (∀ e, parse text = .error e ↔ e = ⟨text⟩ ∧ ∀ a, ¬ Spelled Readable text a) ∧
      ∀ a, Spelled Pair text a ↔ parse text = .ok a ∧ '+' ∉ text.toList := by
  refine ⟨fun a => parse_eq_ok_iff_spelled, fun e => ?_, fun a => spelled_pair_iff⟩
  rw [parse_eq_error_iff]
  exact and_congr_right fun _ => forall_congr' fun a => not_congr parse_eq_ok_iff_spelled

/-- **A plus sign stands in for a digit**: this text is read although one of its groups is not a pair of digits. -/
theorem parse_plusSign :
    let text := "+f:00:00:00:00:00"
    parse text = .ok ⟨#v[15, 0, 0, 0, 0, 0]⟩ ∧ ¬ ∃ a, Spelled Pair text a := by
  refine ⟨rfl, ?_⟩
  rintro ⟨a, h⟩
  exact (spelled_pair_iff.1 h).2 (by decide)

end MacAddress
end LinkAdaptation

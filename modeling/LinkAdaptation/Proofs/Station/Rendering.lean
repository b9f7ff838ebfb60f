import LinkAdaptation.Proofs.Json.Strings
import LinkAdaptation.Proofs.Station.Listing
import LinkAdaptation.Proofs.Station.Spelling
/-!
# Addresses and their texts

However the digits of an address are written down, capital or small, with colons or hyphens between the octets and blanks
around them, the address is read back (`MacAddress.text_faithful`).  The text of an address is one of these ways, the only
one that a text is brought to by reading and writing it again, and its texts stand in the order of the addresses.
-/
namespace LinkAdaptation
namespace MacAddress

open Text

/-- A digit of base 16, small or capital. -/
def IsDigit (n : Nat) (c : Char) : Prop :=
  c = hexDigit n ∨ c = (hexDigit n).toUpper

/-- The two digits of an octet, the high one first. -/
def Digits (g : List Char) (b : UInt8) : Prop :=
  ∃ high low, g = [high, low] ∧ IsDigit (b.toNat / 16) high ∧ IsDigit (b.toNat % 16) low

/-! ## Reading what is written -/

theorem Digits.pair {g : List Char} {b : UInt8} (h : Digits g b) : Pair g b := by
  obtain ⟨high, low, rfl, hhigh, hlow⟩ := h
  have hb := b.toNat_lt
  have hsum : 16 * (b.toNat / 16) + b.toNat % 16 = b.toNat := Nat.div_add_mod _ _
  refine ⟨high, low, b.toNat / 16, b.toNat % 16, rfl, hexValue?_eq_some_iff.2 ⟨by omega, hhigh⟩,
    hexValue?_eq_some_iff.2 ⟨Nat.mod_lt _ (by decide), hlow⟩, ?_⟩
  rw [hsum]
  exact UInt8.ofNat_toNat.symm

theorem parse_of_digits {text : String} {a : MacAddress} (h : Spelled Digits text a) : parse text = .ok a :=
  (spelled_pair_iff.1 (h.imp (p := fun _ => True) (fun _ _ => trivial) fun _ _ _ hg => hg.pair)).1

theorem digits_octetText (b : UInt8) : Digits (octetText b) b :=
  ⟨_, _, rfl, .inl rfl, .inl rfl⟩

theorem written_join : ∀ (b : UInt8) (bs : List UInt8), Written Digits (join ((b :: bs).map octetText)) (b :: bs)
  | b, [] => .last (digits_octetText b)
  | b, c :: bs => .more (digits_octetText b) (.inl rfl) (written_join c bs)

theorem spelled_toText (a : MacAddress) : Spelled Digits a.toText a := by
  obtain ⟨o₁, o₂, o₃, o₄, o₅, o₆, ha, -⟩ := exists_octets a
  refine ⟨[], join (a.octets.toList.map octetText), [], by simp [toText], by simp, by simp, ?_⟩
  rw [ha]
  exact written_join _ _

theorem parse_toText (a : MacAddress) : parse a.toText = .ok a :=
  parse_of_digits (spelled_toText a)

theorem toText_inj {a b : MacAddress} : a.toText = b.toText ↔ a = b := by
  constructor
  · intro h
    have hparsed := parse_toText a
    rw [h, parse_toText b] at hparsed
    exact (Except.ok.inj hparsed).symm
  · rintro rfl
    rfl

/-- What is left of a text that is read and written again. -/
def normalized (text : String) : Except Invalid String :=
  (parse text).map toText

theorem normalized_eq_ok_iff {text t : String} : normalized text = .ok t ↔ ∃ a, parse text = .ok a ∧ a.toText = t := by
  unfold normalized
  cases parse text <;> simp [Except.map]

theorem normalized_of_normalized {text t : String} (h : normalized text = .ok t) : normalized t = .ok t := by
  obtain ⟨a, -, rfl⟩ := normalized_eq_ok_iff.1 h
  exact normalized_eq_ok_iff.2 ⟨a, parse_toText a, rfl⟩

/-! ## The order of texts -/

theorem append_lt_append_iff : ∀ {p q : List Char} (s t : List Char), p.length = q.length →
    (p ++ s < q ++ t ↔ p < q ∨ p = q ∧ s < t)
  | [], [], s, t, _ => by simp
  | c :: p, d :: q, s, t, h => by
    have ih := append_lt_append_iff s t (by simpa using h : p.length = q.length)
    simp only [List.cons_append, List.cons_lt_cons_iff, ih, List.cons.injEq]
    tauto

theorem hexDigit_lt_iff {m n : Nat} (hm : m < 16) (hn : n < 16) : hexDigit m < hexDigit n ↔ m < n := by
  have hall : ∀ m < 16, ∀ n < 16, hexDigit m < hexDigit n ↔ m < n := by decide
  exact hall m hm n hn

theorem hexDigit_inj {m n : Nat} (hm : m < 16) (hn : n < 16) : hexDigit m = hexDigit n ↔ m = n := by
  have hall : ∀ m < 16, ∀ n < 16, hexDigit m = hexDigit n ↔ m = n := by decide
  exact hall m hm n hn

theorem octetText_lt_iff (b c : UInt8) : octetText b < octetText c ↔ b < c := by
  have hb := b.toNat_lt
  have hc := c.toNat_lt
  have hlow : ∀ n, n % 16 < 16 := fun n => Nat.mod_lt _ (by decide)
  simp only [octetText, List.cons_lt_cons_iff, hexDigit_lt_iff (by omega : b.toNat / 16 < 16) (by omega : c.toNat / 16 < 16),
    hexDigit_inj (by omega : b.toNat / 16 < 16) (by omega : c.toNat / 16 < 16), hexDigit_lt_iff (hlow _) (hlow _),
    List.lt_irrefl, and_false, or_false, UInt8.lt_iff_toNat_lt]
  omega

theorem octetText_inj {b c : UInt8} : octetText b = octetText c ↔ b = c := by
  constructor
  · intro h
    have hlt := (octetText_lt_iff b c).not.1 (h ▸ List.lt_irrefl _)
    have hgt := (octetText_lt_iff c b).not.1 (h ▸ List.lt_irrefl _)
    exact UInt8.le_antisymm (UInt8.not_lt.1 hgt) (UInt8.not_lt.1 hlt)
  · rintro rfl
    rfl

theorem join_lt_iff : ∀ {bs cs : List UInt8}, bs.length = cs.length →
    (join (bs.map octetText) < join (cs.map octetText) ↔ bs < cs)
  | [], [], _ => by simp [join]
  | [b], [c], _ => by simp [join, octetText_lt_iff, List.cons_lt_cons_iff]
  | b :: b' :: bs, c :: c' :: cs, h => by
    have ih := join_lt_iff (by simpa using h : (b' :: bs).length = (c' :: cs).length)
    show octetText b ++ ':' :: join ((b' :: bs).map octetText) < octetText c ++ ':' :: join ((c' :: cs).map octetText) ↔ _
    rw [append_lt_append_iff (p := octetText b) (q := octetText c) _ _ rfl, octetText_lt_iff, octetText_inj,
      List.cons_lt_cons_iff, ih]
    simp [List.cons_lt_cons_iff]

/-- **Addresses and their texts are ordered alike.** -/
theorem toText_lt_iff (a b : MacAddress) : a.toText < b.toText ↔ a.precedes b = true := by
  rw [String.lt_iff, toText, toText, String.toList_ofList, String.toList_ofList, join_lt_iff (by simp), precedes_iff]

/-- **Stations that stand by address stand by the text of it.** -/
theorem pairwise_toText (r : Registry) : (r.byAscendingAddress.map (·.address.toText)).Pairwise (· ≤ ·) := by
  rw [List.pairwise_map]
  refine Registry.pairwise_byAscendingAddress.imp fun {s t} h => ?_
  rw [← String.not_lt, toText_lt_iff]
  simpa using h

/-! ## The law -/

theorem ofJson?_compress (a : MacAddress) : (Json.parse? a.toJson.compress).bind ofJson? = some a := by
  rw [toJson, Json.parse?_compress_str, Option.bind_some, ofJson?, parse_toText]
  rfl

/-- **An address and its texts say the same**: it is read back from every way to write its octets as pairs of digits,
among them its own text, as it stands and as a string of JSON; a text that was read and written is read and written as
it stands from then on; and addresses are ordered as their texts are, so a list by address is a list by text. -/
theorem text_faithful :
    (∀ a text, Spelled Digits text a → parse text = .ok a) ∧
      (∀ a, parse a.toText = .ok a) ∧
      (∀ a, (Json.parse? a.toJson.compress).bind ofJson? = some a) ∧
      (∀ text t, normalized text = .ok t → normalized t = .ok t) ∧
      (∀ a b : MacAddress, a.precedes b = true ↔ a.toText < b.toText) ∧
      ∀ r : Registry, (r.byAscendingAddress.map (·.address.toText)).Pairwise (· ≤ ·) :=
  ⟨fun _ _ => parse_of_digits, parse_toText, ofJson?_compress, fun _ _ => normalized_of_normalized,
    fun a b => (toText_lt_iff a b).symm, pairwise_toText⟩

/-- Digits of either case, both gaps and blanks of several kinds in one text. -/
theorem text_faithful_mixedSpelling :
    let text := "\t0a:1B-cD:Ef-00:9f \u3000"
    let a : MacAddress := ⟨#v[0x0A, 0x1B, 0xCD, 0xEF, 0x00, 0x9F]⟩
    Spelled Digits text a ∧ parse text = .ok a ∧ normalized text = .ok "0a:1b:cd:ef:00:9f" ∧
      normalized "0a:1b:cd:ef:00:9f" = .ok "0a:1b:cd:ef:00:9f" := by
  intro text a
  have hwritten : Written Digits (['0', 'a'] ++ ':' :: (['1', 'B'] ++ '-' :: (['c', 'D'] ++ ':' :: (['E', 'f'] ++ '-' ::
      (['0', '0'] ++ ':' :: ['9', 'f']))))) [0x0A, 0x1B, 0xCD, 0xEF, 0x00, 0x9F] :=
    .more ⟨_, _, rfl, .inl rfl, .inl rfl⟩ (.inl rfl) <| .more ⟨_, _, rfl, .inl rfl, .inr rfl⟩ (.inr rfl) <|
      .more ⟨_, _, rfl, .inl rfl, .inr rfl⟩ (.inl rfl) <| .more ⟨_, _, rfl, .inr rfl, .inl rfl⟩ (.inr rfl) <|
      .more ⟨_, _, rfl, .inl rfl, .inl rfl⟩ (.inl rfl) <| .last ⟨_, _, rfl, .inl rfl, .inl rfl⟩
  have hspelled : Spelled Digits text a := ⟨['\t'], _, [' ', '\u3000'], by decide,
    List.all_eq_true.1 (by decide), List.all_eq_true.1 (by decide), hwritten⟩
  have hread := text_faithful.1 a text hspelled
  have hnormalized : normalized text = .ok "0a:1b:cd:ef:00:9f" := normalized_eq_ok_iff.2 ⟨a, hread, rfl⟩
  exact ⟨hspelled, hread, hnormalized, text_faithful.2.2.2.1 _ _ hnormalized⟩

end MacAddress
end LinkAdaptation

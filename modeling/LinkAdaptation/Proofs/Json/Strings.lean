import LinkAdaptation.Json.Reading
import Mathlib.Tactic.IntervalCases
/-!
# Strings in JSON

A string is read back from its text whatever its characters are (`parse?_compress_str`).  What stands for a character is
an escape that the reader turns into that character again, or the character itself where the reader takes it as it is.
-/
namespace LinkAdaptation
namespace Json

/-- An escape that the reader turns back into the character it stands for. -/
def Escaped (c : Char) : Prop :=
  ∃ tail, escapeChar c = '\\' :: tail ∧ ∀ rest, escape? (tail ++ rest) = some (c, rest)

theorem escaped_of_lt {c : Char} (h : c.toNat < 32) : Escaped c := by
  have hall : ∀ k < 32, Escaped (Char.ofNat k) := by
    intro k hk
    interval_cases k <;> exact ⟨_, rfl, fun _ => rfl⟩
  simpa using hall c.toNat h

theorem escapeChar_of_plain {c : Char} (hquote : c ≠ '"') (hslash : c ≠ '\\') (h : ¬ c.toNat < 32) :
    escapeChar c = [c] := by
  have hshort : ¬ c.toNat < 16 := by omega
  unfold escapeChar
  split
  · exact absurd rfl hquote
  · exact absurd rfl hslash
  iterate 5 exact absurd (by decide) h
  rw [if_neg hshort, if_neg h]

theorem escaped_or_plain (c : Char) : Escaped c ∨ c ≠ '"' ∧ c ≠ '\\' ∧ ¬ c.toNat < 32 := by
  by_cases hquote : c = '"'
  · subst hquote
    exact .inl ⟨_, rfl, fun _ => rfl⟩
  by_cases hslash : c = '\\'
  · subst hslash
    exact .inl ⟨_, rfl, fun _ => rfl⟩
  by_cases h : c.toNat < 32
  · exact .inl (escaped_of_lt h)
  · exact .inr ⟨hquote, hslash, h⟩

/-- **One character is read from what stands for it.** -/
theorem stringBody?_escapeChar (c : Char) (fuel : Nat) (rest : List Char) :
    stringBody? (fuel + 1) (escapeChar c ++ rest) = (stringBody? fuel rest).map fun (cs, rest) => (c :: cs, rest) := by
  rcases escaped_or_plain c with ⟨tail, hc, hread⟩ | ⟨hquote, hslash, h⟩
  · rw [hc, List.cons_append, stringBody?, hread, Option.bind_eq_bind, Option.bind_some]
    dsimp only
    cases stringBody? fuel rest <;> rfl
  · rw [escapeChar_of_plain hquote hslash h, List.singleton_append, stringBody?.eq_5 _ _ _ hquote (by simpa using hslash),
      if_neg h]
    cases stringBody? fuel rest <;> rfl

theorem one_le_length_escapeChar (c : Char) : 1 ≤ (escapeChar c).length := by
  rcases escaped_or_plain c with ⟨tail, hc, -⟩ | ⟨hquote, hslash, h⟩
  · simp [hc]
  · simp [escapeChar_of_plain hquote hslash h]

theorem length_le_length_flatMap : ∀ cs : List Char, cs.length ≤ (cs.flatMap escapeChar).length
  | [] => Nat.le_refl _
  | c :: cs => by
    have hc := one_le_length_escapeChar c
    have hcs := length_le_length_flatMap cs
    simp only [List.flatMap_cons, List.length_append, List.length_cons]
    omega

theorem stringBody?_flatMap : ∀ (cs : List Char) (fuel : Nat) (rest : List Char), cs.length < fuel →
    stringBody? fuel (cs.flatMap escapeChar ++ '"' :: rest) = some (cs, rest)
  | [], _ + 1, _, _ => rfl
  | c :: cs, fuel + 1, rest, h => by
    rw [List.flatMap_cons, List.append_assoc, stringBody?_escapeChar,
      stringBody?_flatMap cs fuel rest (by simpa using h)]
    rfl

/-- **A string is read from its text**, whatever follows. -/
theorem value?_stringText (s : String) (fuel : Nat) (rest : List Char) :
    value? (fuel + 1) ((stringText s).toList ++ rest) = some (.str s, rest) := by
  have hfuel : s.toList.length < (s.toList.flatMap escapeChar ++ '"' :: rest).length + 1 := by
    have := length_le_length_flatMap s.toList
    simp only [List.length_append, List.length_cons]
    omega
  have hbody := stringBody?_flatMap s.toList _ rest hfuel
  rw [stringText, String.toList_ofList, List.append_assoc, List.cons_append]
  simp only [value?, skipSpace]
  rw [List.dropWhile_cons_of_neg (by decide)]
  simp only [List.singleton_append]
  rw [hbody]
  simp

/-- **A string alone is read back from its text.** -/
theorem parse?_compress_str (s : String) : parse? (compress (.str s)) = some (.str s) := by
  have hvalue := value?_stringText s (stringText s).toList.length []
  rw [List.append_nil] at hvalue
  unfold parse? compress
  dsimp only
  rw [hvalue]
  rfl

end Json
end LinkAdaptation

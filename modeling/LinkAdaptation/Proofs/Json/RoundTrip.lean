import LinkAdaptation.Proofs.Json.Strings
import Mathlib.Data.List.Basic
import Mathlib.Data.List.TakeWhile
/-!
# Values of JSON and their texts

A value is read back from its text (`parse?_compress`) as long as its whole numbers have 64 bits, each of its real numbers
is read back from its own text, and no object names a member twice.  What follows a value never goes on with it
(`Closes`), so the reader stops where the value ends (`value?_compress`).
-/
namespace LinkAdaptation
namespace Json

/-! ## Where a number ends -/

/-- A text that goes on behind a value. -/
def Closes (rest : List Char) : Prop :=
  ∀ c ∈ rest.head?, c ∈ [',', ']', '\x7d']

theorem closes_nil : Closes [] := by
  intro c hc
  cases hc

theorem closes_cons {c : Char} (h : c ∈ [',', ']', '\x7d']) (rest : List Char) : Closes (c :: rest) := by
  intro c' hc'
  cases hc'
  exact h

/-- What was read, with more behind what is left. -/
def before (rest : List Char) (read : α × List Char) : α × List Char :=
  (read.1, read.2 ++ rest)

section

variable {rest : List Char} (h : Closes rest)
include h

theorem Closes.takeWhile_append {p : Char → Bool} (hp : [',', ']', '\x7d'].any p = false) (cs : List Char) :
    (cs ++ rest).takeWhile p = cs.takeWhile p := by
  induction cs with
  | nil =>
    cases rest with
    | nil => rfl
    | cons c rest => exact List.takeWhile_cons_of_neg (List.any_eq_false.1 hp c (h c rfl))
  | cons c cs ih => rw [List.cons_append, List.takeWhile_cons, List.takeWhile_cons, ih]

theorem Closes.dropWhile_append {p : Char → Bool} (hp : [',', ']', '\x7d'].any p = false) (cs : List Char) :
    (cs ++ rest).dropWhile p = cs.dropWhile p ++ rest := by
  induction cs with
  | nil =>
    cases rest with
    | nil => rfl
    | cons c rest => exact List.dropWhile_cons_of_neg (List.any_eq_false.1 hp c (h c rfl))
  | cons c cs ih =>
    rw [List.cons_append, List.dropWhile_cons, List.dropWhile_cons, ih]
    split <;> rfl

theorem Closes.ne {c d : Char} {tail : List Char} (hd : d ∉ [',', ']', '\x7d']) (hrest : rest = c :: tail) : c ≠ d := by
  rintro rfl
  exact hd (h c (by rw [hrest]; rfl))

theorem fraction?_append (cs : List Char) : fraction? (cs ++ rest) = (fraction? cs).map (before rest) := by
  cases cs with
  | nil =>
    cases hrest : rest with
    | nil => rfl
    | cons c tail =>
      have hpoint : c ≠ '.' := h.ne (by decide) hrest
      rw [List.nil_append, fraction?.eq_2 _ (by simpa using hpoint)]
      rfl
  | cons c cs =>
    by_cases hc : c = '.'
    · subst hc
      rw [List.cons_append, fraction?, fraction?, h.takeWhile_append (by decide), h.dropWhile_append (by decide)]
      split <;> rfl
    · rw [List.cons_append, fraction?.eq_2 _ (by simpa using hc), fraction?.eq_2 _ (by simpa using hc)]
      rfl

theorem exponentDigits?_append (negative : Bool) (cs : List Char) :
    exponentDigits? negative (cs ++ rest) = (exponentDigits? negative cs).map (before rest) := by
  rw [exponentDigits?, exponentDigits?, h.takeWhile_append (by decide), h.dropWhile_append (by decide)]
  split <;> rfl

omit h in
theorem exponent?_of_unsigned {c : Char} (hc : (c == 'e' || c == 'E') = true) {cs : List Char}
    (hcs : ∀ d ∈ cs.head?, d ≠ '+' ∧ d ≠ '-') : exponent? (c :: cs) = exponentDigits? false cs := by
  unfold exponent?
  dsimp only
  rw [if_pos hc]
  split
  · exact absurd rfl (hcs '+' rfl).1
  · exact absurd rfl (hcs '-' rfl).2
  · rfl

omit h in
theorem exponent?_of_other {c : Char} (hc : ¬ (c == 'e' || c == 'E') = true) (cs : List Char) :
    exponent? (c :: cs) = some (none, c :: cs) := by
  unfold exponent?
  dsimp only
  rw [if_neg hc]

theorem exponent?_append (cs : List Char) : exponent? (cs ++ rest) = (exponent? cs).map (before rest) := by
  have hsigns : ∀ d ∈ rest.head?, d ≠ '+' ∧ d ≠ '-' := fun d hd => by
    have hcloses := h d hd
    constructor <;> rintro rfl <;> exact absurd hcloses (by decide)
  cases cs with
  | nil =>
    cases hrest : rest with
    | nil => rfl
    | cons c tail =>
      have hsmall : c ≠ 'e' := h.ne (by decide) hrest
      have hcapital : c ≠ 'E' := h.ne (by decide) hrest
      rw [List.nil_append, exponent?_of_other (by simp [hsmall, hcapital])]
      rfl
  | cons c cs =>
    by_cases hc : (c == 'e' || c == 'E') = true
    · cases cs with
      | nil =>
        rw [List.singleton_append, exponent?_of_unsigned hc hsigns, exponent?_of_unsigned hc (by simp)]
        exact exponentDigits?_append h false []
      | cons d cs =>
        by_cases hsign : d ≠ '+' ∧ d ≠ '-'
        · have hhead : ∀ tail : List Char, ∀ d' ∈ (d :: tail).head?, d' ≠ '+' ∧ d' ≠ '-' := by
            intro tail d' hd'
            cases hd'
            exact hsign
          rw [List.cons_append, List.cons_append, exponent?_of_unsigned hc (hhead _), exponent?_of_unsigned hc (hhead _)]
          exact exponentDigits?_append h false (d :: cs)
        · obtain rfl | rfl : d = '+' ∨ d = '-' := by tauto
          · rw [List.cons_append, List.cons_append, exponent?, exponent?, if_pos hc, if_pos hc]
            exact exponentDigits?_append h false cs
          · rw [List.cons_append, List.cons_append, exponent?, exponent?, if_pos hc, if_pos hc]
            exact exponentDigits?_append h true cs
    · rw [List.cons_append, exponent?_of_other hc, exponent?_of_other hc]
      rfl

theorem unsigned?_append (negative : Bool) (cs : List Char) :
    unsigned? negative (cs ++ rest) = (unsigned? negative cs).map (before rest) := by
  unfold unsigned?
  rw [h.takeWhile_append (by decide), h.dropWhile_append (by decide), fraction?_append h]
  dsimp only
  split
  · rfl
  · cases fraction? (cs.dropWhile Char.isDigit) with
    | none => rfl
    | some read =>
      obtain ⟨fraction, left⟩ := read
      simp only [Option.map_some, before, Option.bind_eq_bind, Option.bind_some, exponent?_append h]
      cases exponent? left with
      | none => rfl
      | some read =>
        obtain ⟨power, left⟩ := read
        simp only [Option.map_some, before, Option.bind_some]
        cases numberOf? negative (cs.takeWhile Char.isDigit) fraction power <;> rfl

omit h in
theorem number?_of_unsigned {cs : List Char} (hcs : cs.head? ≠ some '-') : number? cs = unsigned? false cs := by
  rw [number?.eq_2]
  rintro tail rfl
  exact hcs rfl

/-- **A number is read alike whatever goes on behind it.** -/
theorem number?_append (cs : List Char) : number? (cs ++ rest) = (number? cs).map (before rest) := by
  by_cases hsign : cs.head? = some '-'
  · obtain ⟨tail, rfl⟩ := List.head?_eq_some_iff.1 hsign
    exact unsigned?_append h true tail
  · have happended : (cs ++ rest).head? ≠ some '-' := by
      cases cs with
      | nil => exact fun hrest => absurd (h _ hrest) (by decide)
      | cons c cs => exact hsign
    rw [number?_of_unsigned happended, number?_of_unsigned hsign, unsigned?_append h]

end

/-! ## Whole numbers -/

theorem ofDecimal_toDigits (n : Nat) : Text.ofDecimal (Nat.toDigits 10 n) = n := by
  have hdigits := Nat.ofDigitChars_ten_toDigits (n := n)
  rw [Nat.ofDigitChars_eq_foldl] at hdigits
  exact hdigits

theorem head?_toDigits_ne {n : Nat} (h : 0 < n) : (Nat.toDigits 10 n).head? ≠ some '0' := by
  induction n using Nat.strongRecOn with
  | ind n ih =>
    by_cases hn : n < 10
    · rw [Nat.toDigits_of_lt_base hn, List.head?_cons, ne_eq, Option.some.injEq, Nat.digitChar_eq_zero]
      exact Nat.ne_of_gt h
    · have hpos : 0 < n / 10 := by omega
      have hlt : n / 10 < n := by omega
      have hnonempty : Nat.toDigits 10 (n / 10) ≠ [] := Nat.toDigits_ne_nil
      rw [Nat.toDigits_of_base_le (by decide) (by omega), List.head?_append_of_ne_nil _ hnonempty]
      exact ih _ hlt hpos

theorem unsigned?_toDigits (negative : Bool) (n : Nat) :
    unsigned? negative (Nat.toDigits 10 n) = (numberOf? negative (Nat.toDigits 10 n) none none).map (·, []) := by
  have hdigits : ∀ c ∈ Nat.toDigits 10 n, c.isDigit = true := fun c hc =>
    Nat.isDigit_of_mem_toDigits (by decide) (by decide) hc
  have hzero : ((Nat.toDigits 10 n).length != 1 && (Nat.toDigits 10 n).head? == some '0') = false := by
    rcases Nat.eq_zero_or_pos n with rfl | hn
    · rfl
    · rw [beq_false_of_ne (head?_toDigits_ne hn), Bool.and_false]
  unfold unsigned?
  rw [List.takeWhile_eq_self_iff.2 hdigits, List.dropWhile_eq_nil_iff.2 hdigits]
  dsimp only
  rw [hzero, List.isEmpty_eq_false_iff.2 Nat.toDigits_ne_nil, if_neg (by decide)]
  show ((numberOf? negative (Nat.toDigits 10 n) none none).bind fun j => some (j, [])) = _
  cases numberOf? negative (Nat.toDigits 10 n) none none <;> rfl

/-- A whole number of 64 bits, with a sign or without. -/
def IsWord (n : Int) : Prop :=
  -2 ^ 63 ≤ n ∧ n < 2 ^ 64

theorem numberOf?_toDigits {n : Nat} (h : n < 2 ^ 64) :
    numberOf? false (Nat.toDigits 10 n) none none = some (.int n) := by
  have hlt : n < Nat.pow 2 64 := h
  unfold numberOf?
  rw [ofDecimal_toDigits]
  dsimp only
  rw [if_pos (by simpa using hlt)]

theorem numberOf?_toDigits_neg {n : Nat} (hpos : 0 < n) (h : n ≤ 2 ^ 63) :
    numberOf? true (Nat.toDigits 10 n) none none = some (.int (-n)) := by
  have hle : n ≤ Nat.pow 2 63 := h
  unfold numberOf?
  rw [ofDecimal_toDigits]
  dsimp only
  rw [if_neg (by simp), if_pos (by simpa using ⟨hpos, hle⟩)]

/-- **A whole number is read back.** -/
theorem number?_toString {n : Int} (h : IsWord n) : number? (toString n).toList = some (.int n, []) := by
  obtain ⟨hlow, hhigh⟩ := h
  rw [Int.toString_eq_repr, Int.repr_eq_if]
  by_cases hn : 0 ≤ n
  · have hsign : (Nat.toDigits 10 n.toNat).head? ≠ some '-' := fun hhead =>
      absurd (Nat.isDigit_of_mem_toDigits (by decide) (by decide) (List.mem_of_head? hhead)) (by decide)
    rw [if_pos hn, Nat.toList_repr, number?_of_unsigned hsign, unsigned?_toDigits, numberOf?_toDigits (by omega),
      Int.toNat_of_nonneg hn]
    rfl
  · rw [if_neg hn, String.toList_append, Nat.toList_repr]
    show unsigned? true (Nat.toDigits 10 (-n).toNat) = _
    rw [unsigned?_toDigits, numberOf?_toDigits_neg (by omega) (by omega), Int.toNat_of_nonneg (by omega), Int.neg_neg]
    rfl

/-! ## Where a value begins -/

theorem exists_head_of_number? {cs : List Char} {read : Json × List Char} (h : number? cs = some read) :
    ∃ c tail, cs = c :: tail ∧ (c = '-' ∨ c.isDigit = true) := by
  cases cs with
  | nil => cases h
  | cons c tail =>
    refine ⟨c, tail, rfl, ?_⟩
    by_contra hneither
    obtain ⟨hsign, hdigit⟩ := not_or.1 hneither
    rw [number?_of_unsigned (by simpa using hsign), unsigned?, List.takeWhile_cons_of_neg hdigit] at h
    cases h

theorem isSpace_eq_false {c : Char} (h : c ∉ [' ', '\t', '\n', '\r']) : isSpace c = false := by
  simpa [isSpace, and_assoc] using h

theorem not_mem_of_begins {c : Char} (h : c = '-' ∨ c.isDigit = true) : c ∉ [' ', '\t', '\n', '\r', ']'] := by
  have hnone : [' ', '\t', '\n', '\r', ']'].any (fun d => d == '-' || d.isDigit) = false := by decide
  exact fun hc => List.any_eq_false.1 hnone c hc (by simpa using h)

theorem skipSpace_cons {c : Char} (h : isSpace c = false) (cs : List Char) : skipSpace (c :: cs) = c :: cs :=
  List.dropWhile_cons_of_neg (by simp [h])

theorem value?_of_number? {cs : List Char} {read : Json × List Char} (h : number? cs = some read) (fuel : Nat) :
    value? (fuel + 1) cs = some read := by
  obtain ⟨c, tail, rfl, hc⟩ := exists_head_of_number? h
  have hspace : isSpace c = false := isSpace_eq_false fun hmem =>
    not_mem_of_begins hc (List.mem_append_left [']'] hmem)
  rw [value?, skipSpace_cons hspace]
  split
  case h_7 => exact h
  all_goals
    rename_i heq
    cases heq
    exact absurd hc (by decide)

/-! ## Values -/

/-- A real number that is read back from its text. -/
def IsLegible (x : Float) : Prop :=
  number? (realText x).toList = some (.real x, [])

/-- A value that is made of numbers that can be read back, and of objects that name no member twice. -/
inductive Readable : Json → Prop
  | null : Readable .null
  | bool (b : Bool) : Readable (.bool b)
  | int {n : Int} : IsWord n → Readable (.int n)
  | real {x : Float} : IsLegible x → Readable (.real x)
  | str (s : String) : Readable (.str s)
  | arr {items : List Json} : (∀ j ∈ items, Readable j) → Readable (.arr items)
  | obj {members : List (String × Json)} :
      (members.map (·.1)).Nodup → (∀ p ∈ members, Readable p.2) → Readable (.obj members)

/-- The characters of the text of a value. -/
def text (j : Json) : List Char :=
  (compress j).toList

def memberText (p : String × Json) : List Char :=
  (stringText p.1).toList ++ ':' :: text p.2

theorem compressItems_eq : ∀ items : List Json, compressItems items = items.map compress
  | [] => rfl
  | j :: items => congrArg (compress j :: ·) (compressItems_eq items)

theorem compressMembers_eq : ∀ members : List (String × Json),
    compressMembers members = members.map fun p => stringText p.1 ++ ":" ++ compress p.2
  | [] => rfl
  | (name, j) :: members => congrArg ((stringText name ++ ":" ++ compress j) :: ·) (compressMembers_eq members)

theorem text_arr (items : List Json) : text (.arr items) = '[' :: ([','].intercalate (items.map text) ++ [']']) := by
  have hitem : (fun j : Json => (compress j).toList) = text := rfl
  rw [text, compress, compressItems_eq]
  simp [String.toList_intercalate, Function.comp_def, hitem]

theorem text_obj (members : List (String × Json)) :
    text (.obj members) = '\x7b' :: ([','].intercalate (members.map memberText) ++ ['\x7d']) := by
  have hmember : (fun p : String × Json => (stringText p.1).toList ++ ':' :: text p.2) = memberText := rfl
  rw [text, compress, compressMembers_eq]
  simp [String.toList_intercalate, Function.comp_def, ← hmember, text]

theorem text_str (s : String) : text (.str s) = '"' :: (s.toList.flatMap escapeChar ++ ['"']) := by
  rw [text, compress, stringText, String.toList_ofList]
  rfl

/-- **The text of a value begins with a character of its own.** -/
theorem Readable.exists_head {j : Json} (h : j.Readable) :
    ∃ c tail, text j = c :: tail ∧ isSpace c = false ∧ c ≠ ']' := by
  have hnumber : ∀ {cs : List Char} {read : Json × List Char}, number? cs = some read →
      ∃ c tail, cs = c :: tail ∧ isSpace c = false ∧ c ≠ ']' := fun hread => by
    obtain ⟨c, tail, hcs, hc⟩ := exists_head_of_number? hread
    have hnot := not_mem_of_begins hc
    exact ⟨c, tail, hcs, isSpace_eq_false fun hmem => hnot (List.mem_append_left [']'] hmem),
      fun heq => hnot (by rw [heq]; decide)⟩
  cases h with
  | null => exact ⟨'n', _, rfl, by decide, by decide⟩
  | bool b => cases b <;> exact ⟨_, _, rfl, by decide, by decide⟩
  | int hn => exact hnumber (number?_toString hn)
  | real hx => exact hnumber hx
  | str s => exact ⟨'"', _, text_str s, by decide, by decide⟩
  | arr => exact ⟨'[', _, text_arr _, by decide, by decide⟩
  | obj => exact ⟨'\x7b', _, text_obj _, by decide, by decide⟩

/-- **The reader returns a value**, given its text with more behind it. -/
def Returns (j : Json) : Prop :=
  ∀ fuel rest, Closes rest → (text j).length < fuel → value? fuel (text j ++ rest) = some (j, rest)

theorem returns_of_number? {j : Json} (h : number? (text j) = some (j, [])) : Returns j := by
  intro fuel rest hrest hfuel
  obtain ⟨fuel, rfl⟩ := Nat.exists_eq_succ_of_ne_zero (Nat.ne_of_gt (Nat.zero_lt_of_lt hfuel))
  refine value?_of_number? ?_ fuel
  rw [number?_append hrest, h]
  rfl

theorem items?_of_returns : ∀ {j : Json} {items : List Json}, (∀ i ∈ j :: items, i.Returns) →
    ∀ fuel rest, ([','].intercalate ((j :: items).map text)).length < fuel →
      items? (fuel + 1) ([','].intercalate ((j :: items).map text) ++ ']' :: rest) = some (j :: items, rest)
  | j, [], h, fuel, rest, hfuel => by
    have hj : j.Returns := h j List.mem_cons_self
    rw [List.map_cons, List.map_nil, List.intercalate_singleton] at hfuel ⊢
    rw [items?, hj fuel (']' :: rest) (closes_cons (by decide) rest) hfuel]
    rfl
  | j, i :: items, h, fuel, rest, hfuel => by
    have hj : j.Returns := h j List.mem_cons_self
    rw [List.map_cons, List.map_cons, List.intercalate_cons_cons, ← List.map_cons] at hfuel ⊢
    rw [List.length_append, List.length_append, List.length_singleton] at hfuel
    obtain ⟨fuel, rfl⟩ : ∃ k, fuel = k + 1 := ⟨fuel - 1, by omega⟩
    have ih := items?_of_returns (fun k hk => h k (List.mem_cons_of_mem _ hk)) fuel rest (by omega)
    rw [List.append_assoc, List.append_assoc, List.singleton_append, items?,
      hj (fuel + 1) _ (closes_cons (by decide) _) (by omega)]
    simp only [Option.bind_eq_bind, Option.bind_some, skipSpace_cons (by decide : isSpace ',' = false), ih]
    rfl

theorem addMember_of_new {name : String} {j : Json} {members : List (String × Json)}
    (h : name ∉ members.map (·.1)) : addMember name j members = (name, j) :: members := by
  have hany : members.any (·.1 == name) = false := by
    rw [List.any_eq_false]
    intro p hp heq
    exact h (List.mem_map.2 ⟨p, hp, beq_iff_eq.1 heq⟩)
  rw [addMember, hany]
  rfl

theorem stringBody?_stringText (name : String) (rest : List Char) :
    (stringText name).toList ++ rest = '"' :: (name.toList.flatMap escapeChar ++ '"' :: rest) ∧
      stringBody? ((name.toList.flatMap escapeChar ++ '"' :: rest).length + 1)
        (name.toList.flatMap escapeChar ++ '"' :: rest) = some (name.toList, rest) := by
  have hfuel : name.toList.length < (name.toList.flatMap escapeChar ++ '"' :: rest).length + 1 := by
    have := length_le_length_flatMap name.toList
    simp only [List.length_append, List.length_cons]
    omega
  refine ⟨?_, stringBody?_flatMap name.toList _ rest hfuel⟩
  rw [stringText, String.toList_ofList, List.append_assoc, List.cons_append]
  rfl

/-- **One member is read**, and the ones behind it if there are any. -/
theorem members?_memberText {p : String × Json} (hp : p.2.Returns) {fuel : Nat} {c : Char} (hc : c = ',' ∨ c = '\x7d')
    (rest : List Char) (hfuel : (text p.2).length < fuel) :
    members? (fuel + 1) (memberText p ++ c :: rest) =
      if c = ',' then (members? fuel rest).map fun read => (addMember p.1 p.2 read.1, read.2) else some ([p], rest) := by
  obtain ⟨name, j⟩ := p
  obtain ⟨hname, hbody⟩ := stringBody?_stringText name (':' :: (text j ++ c :: rest))
  have hcloses : Closes (c :: rest) := closes_cons (by rcases hc with rfl | rfl <;> decide) rest
  have hspace : isSpace c = false := by rcases hc with rfl | rfl <;> rfl
  have htext : memberText (name, j) ++ c :: rest =
      '"' :: (name.toList.flatMap escapeChar ++ '"' :: ':' :: (text j ++ c :: rest)) := by
    rw [← hname, memberText, List.append_assoc]
    rfl
  rw [htext, members?, skipSpace_cons (by decide)]
  simp only [hbody, Option.bind_eq_bind, Option.bind_some, skipSpace_cons (by decide : isSpace ':' = false),
    hp fuel (c :: rest) hcloses hfuel, String.ofList_toList, skipSpace_cons hspace]
  rcases hc with rfl | rfl
  · rw [if_pos rfl]
    show ((members? fuel rest).bind fun read => some (addMember name j read.1, read.2)) = _
    cases members? fuel rest <;> rfl
  · rfl

theorem length_memberText (p : String × Json) : (text p.2).length < (memberText p).length := by
  simp only [memberText, List.length_append, List.length_cons]
  omega

theorem members?_of_returns {p : String × Json} {members : List (String × Json)}
    (hnodup : ((p :: members).map (·.1)).Nodup) (h : ∀ q ∈ p :: members, q.2.Returns) {fuel : Nat}
    (hfuel : ([','].intercalate ((p :: members).map memberText)).length ≤ fuel) (rest : List Char) :
    members? (fuel + 1) ([','].intercalate ((p :: members).map memberText) ++ '\x7d' :: rest) =
      some (p :: members, rest) := by
  induction members generalizing p fuel with
  | nil =>
    have hlength := length_memberText p
    rw [List.map_cons, List.map_nil, List.intercalate_singleton] at hfuel ⊢
    rw [members?_memberText (h _ List.mem_cons_self) (.inr rfl) rest (by omega), if_neg (by decide)]
  | cons q members ih =>
    obtain ⟨hnew, hnodup⟩ := List.nodup_cons.1 hnodup
    have hlength := length_memberText p
    rw [List.map_cons, List.map_cons, List.intercalate_cons_cons, ← List.map_cons] at hfuel ⊢
    rw [List.length_append, List.length_append, List.length_singleton] at hfuel
    obtain ⟨fuel, rfl⟩ : ∃ k, fuel = k + 1 := ⟨fuel - 1, by omega⟩
    have hshorter : ([','].intercalate ((q :: members).map memberText)).length ≤ fuel := by omega
    have hrest := ih hnodup (fun r hr => h r (List.mem_cons_of_mem _ hr)) hshorter
    rw [List.append_assoc, List.append_assoc, List.singleton_append,
      members?_memberText (h _ List.mem_cons_self) (.inl rfl) _ (by omega), if_pos rfl, hrest, Option.map_some,
      addMember_of_new hnew]

/-- What is written first is read first. -/
theorem exists_head_intercalate {f : α → List Char} {a : α} {c : Char} {tail : List Char} (h : f a = c :: tail)
    (l : List α) (rest : List Char) : ∃ tail, [','].intercalate ((a :: l).map f) ++ rest = c :: tail := by
  cases l with
  | nil => exact ⟨_, by rw [List.map_cons, List.map_nil, List.intercalate_singleton, h]; rfl⟩
  | cons => exact ⟨_, by rw [List.map_cons, List.map_cons, List.intercalate_cons_cons, h]; rfl⟩

theorem returns_arr {items : List Json} (hreadable : ∀ j ∈ items, j.Readable) (h : ∀ j ∈ items, j.Returns) :
    Returns (.arr items) := by
  intro fuel rest hrest hfuel
  rw [text_arr] at hfuel ⊢
  rw [List.length_cons, List.length_append, List.length_singleton] at hfuel
  obtain ⟨fuel, rfl⟩ : ∃ k, fuel = k + 2 := ⟨fuel - 2, by omega⟩
  cases items with
  | nil => rfl
  | cons j items =>
    have hitems := items?_of_returns h fuel rest (by omega)
    obtain ⟨c, tail, htext, hspace, hclosing⟩ := (hreadable j List.mem_cons_self).exists_head
    obtain ⟨tail, hhead⟩ := exists_head_intercalate htext items (']' :: rest)
    rw [List.cons_append, List.append_assoc, List.singleton_append, value?, skipSpace_cons (by decide)]
    rw [hhead] at hitems ⊢
    simp only [skipSpace_cons hspace]
    split
    · rename_i heq
      cases heq
      exact absurd rfl hclosing
    · simp only [hitems]
      rfl

theorem returns_obj {members : List (String × Json)} (hnodup : (members.map (·.1)).Nodup)
    (h : ∀ p ∈ members, p.2.Returns) : Returns (.obj members) := by
  intro fuel rest hrest hfuel
  rw [text_obj] at hfuel ⊢
  rw [List.length_cons, List.length_append, List.length_singleton] at hfuel
  obtain ⟨fuel, rfl⟩ : ∃ k, fuel = k + 2 := ⟨fuel - 2, by omega⟩
  cases members with
  | nil => rfl
  | cons p members =>
    have hlength : ([','].intercalate ((p :: members).map memberText)).length ≤ fuel := by omega
    have hmembers := members?_of_returns hnodup h hlength rest
    have htext : memberText p = '"' :: (p.1.toList.flatMap escapeChar ++ '"' :: ':' :: text p.2) :=
      (stringBody?_stringText p.1 (':' :: text p.2)).1
    obtain ⟨tail, hhead⟩ := exists_head_intercalate htext members ('\x7d' :: rest)
    rw [List.cons_append, List.append_assoc, List.singleton_append, value?, skipSpace_cons (by decide)]
    rw [hhead] at hmembers ⊢
    simp only [skipSpace_cons (by decide : isSpace '"' = false)]
    show ((members? (fuel + 1) ('"' :: tail)).bind fun read => some (Json.obj read.1, read.2)) = _
    rw [hmembers]
    rfl

/-- **A value is read from its text**, whatever goes on behind it. -/
theorem Readable.returns {j : Json} (h : j.Readable) : Returns j := by
  have hfuel : ∀ {fuel n : Nat}, n < fuel → ∃ k, fuel = k + 1 := fun hlt =>
    Nat.exists_eq_succ_of_ne_zero (Nat.ne_of_gt (Nat.zero_lt_of_lt hlt))
  induction h with
  | null =>
    intro fuel rest _ hlt
    obtain ⟨fuel, rfl⟩ := hfuel hlt
    rfl
  | bool b =>
    intro fuel rest _ hlt
    obtain ⟨fuel, rfl⟩ := hfuel hlt
    cases b <;> rfl
  | int hn => exact returns_of_number? (number?_toString hn)
  | real hx => exact returns_of_number? hx
  | str s =>
    intro fuel rest _ hlt
    obtain ⟨fuel, rfl⟩ := hfuel hlt
    exact value?_stringText s fuel rest
  | arr hitems ih => exact returns_arr hitems ih
  | obj hnodup _ ih => exact returns_obj hnodup ih

/-- **A value alone is read back from its text.** -/
theorem Readable.parse?_compress {j : Json} (h : j.Readable) : parse? (compress j) = some j := by
  have hvalue := h.returns ((text j).length + 1) [] closes_nil (Nat.lt_succ_self _)
  rw [List.append_nil] at hvalue
  unfold parse?
  dsimp only
  rw [show (compress j).toList = text j from rfl, hvalue]
  rfl

end Json
end LinkAdaptation

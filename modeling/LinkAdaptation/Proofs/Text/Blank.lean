import LinkAdaptation.Text.Blank
import Mathlib.Data.List.DropRight
/-!
# Trimmed texts

What is taken off a text are blanks at its ends and nothing else (`exists_trim`, `trim_eq`), and trimming a second time takes
off nothing more (`trim_trim`).
-/
namespace LinkAdaptation
namespace Text

theorem exists_trim (cs : List Char) :
    ∃ before after, cs = before ++ trim cs ++ after ∧ (∀ c ∈ before, isBlank c = true) ∧ ∀ c ∈ after, isBlank c = true := by
  refine ⟨cs.takeWhile isBlank, (cs.dropWhile isBlank).rtakeWhile isBlank, ?_, fun c hc => List.mem_takeWhile_imp hc,
    fun c hc => List.mem_rtakeWhile_imp hc⟩
  show cs = cs.takeWhile isBlank ++ (cs.dropWhile isBlank).rdropWhile isBlank ++ _
  rw [List.append_assoc, List.rdropWhile_append_rtakeWhile, List.takeWhile_append_dropWhile]

theorem dropWhile_of_none {cs : List Char} (h : ∀ c ∈ cs, isBlank c = false) : cs.dropWhile isBlank = cs := by
  cases cs with
  | nil => rfl
  | cons c cs => exact List.dropWhile_cons_of_neg (by simp [h c])

theorem trim_of_blank {cs : List Char} (h : ∀ c ∈ cs, isBlank c = true) : trim cs = [] := by
  rw [trim, List.dropWhile_eq_nil_iff.2 h]
  rfl

/-- **Blanks around a text that has none are all that is taken off.** -/
theorem trim_eq {before core after : List Char} (hbefore : ∀ c ∈ before, isBlank c = true)
    (hcore : ∀ c ∈ core, isBlank c = false) (hafter : ∀ c ∈ after, isBlank c = true) :
    trim (before ++ core ++ after) = core := by
  cases core with
  | nil =>
    refine trim_of_blank ?_
    simpa [or_imp, forall_and] using ⟨hbefore, hafter⟩
  | cons c core =>
    have hreverse : (c :: core).reverse.dropWhile isBlank = (c :: core).reverse :=
      dropWhile_of_none fun x hx => hcore x (List.mem_reverse.1 hx)
    rw [trim, List.append_assoc, List.dropWhile_append_of_pos hbefore, List.cons_append,
      List.dropWhile_cons_of_neg (by simp [hcore c]), ← List.cons_append, List.reverse_append,
      List.dropWhile_append_of_pos fun x hx => hafter x (List.mem_reverse.1 hx), hreverse, List.reverse_reverse]

/-- A text that was trimmed stays as it is: its last character is not blank, and neither is its first. -/
@[simp] theorem trim_trim (cs : List Char) : trim (trim cs) = trim cs := by
  have hfront : (trim cs).dropWhile isBlank = trim cs := by
    refine List.dropWhile_eq_self_iff.2 fun hpos => ?_
    have hstart : trim cs <+: cs.dropWhile isBlank := List.rdropWhile_prefix _ _
    rw [hstart.getElem hpos]
    exact List.dropWhile_get_zero_not _ _ _
  rw [trim, hfront]
  exact List.rdropWhile_idempotent _ _

@[simp] theorem trimmed_trimmed (s : String) : trimmed (trimmed s) = trimmed s := by
  simp [trimmed]

theorem trimmed_of_blank {s : String} (h : ∀ c ∈ s.toList, isBlank c = true) : trimmed s = "" := by
  rw [trimmed, trim_of_blank h]

end Text
end LinkAdaptation

import LinkAdaptation.Proofs.Attempts
import LinkAdaptation.Station.Metrics
/-!
# Reading the metrics back

A scraper takes the metrics apart again: into lines, a line into what is measured and its value, and that into a name and
labels.  No name, label or value holds a mark of the format, so every line that is no comment is read as the sample it was
written for (`scrape_render`).
-/
namespace LinkAdaptation
namespace Metrics

/-! ## Samples and their texts -/

structure Sample where
  name : String
  labels : List (String × String)
  value : String
deriving DecidableEq

def label? (cs : List Char) : Option (String × String) :=
  match cs.splitOn '=' with
  | [name, quoted] =>
    match quoted.splitOn '"' with
    | [[], value, []] => some (String.ofList name, String.ofList value)
    | _ => none
  | _ => none

/-- A line with a value behind a blank, and with labels between braces if there are any. -/
def sample? (line : List Char) : Option Sample :=
  match line.splitOn ' ' with
  | [described, value] =>
    match described.splitOn '\x7b' with
    | [name] => some ⟨String.ofList name, [], String.ofList value⟩
    | [name, braced] =>
      match braced.splitOn '\x7d' with
      | [labels, []] => do return ⟨String.ofList name, ← (labels.splitOn ',').mapM label?, String.ofList value⟩
      | _ => none
    | _ => none
  | _ => none

/-- The sample of a line that is no comment. -/
def readLine (line : List Char) : Option Sample :=
  if line.head? = some '#' then none else sample? line

/-- **The samples of a text**, in the order of its lines. -/
def scrape (text : String) : List Sample :=
  (text.toList.splitOn '\n').filterMap readLine

/-! ## Texts without marks -/

/-- The characters that the format gives a meaning. -/
def marks : List Char :=
  ['\n', ' ', '#', ',', '=', '"', '\x7b', '\x7d']

def Unmarked (cs : List Char) : Prop :=
  ∀ c ∈ cs, c ∉ marks

instance (cs : List Char) : Decidable (Unmarked cs) :=
  decidable_of_iff (cs.all (· ∉ marks) = true) (by simp [Unmarked])

theorem Unmarked.not_mem {cs : List Char} (h : Unmarked cs) {c : Char} (hc : c ∈ marks) : c ∉ cs :=
  fun hmem => h c hmem hc

theorem unmarked_append {cs ds : List Char} : Unmarked (cs ++ ds) ↔ Unmarked cs ∧ Unmarked ds :=
  List.forall_mem_append

theorem unmarked_cons {c : Char} {cs : List Char} : Unmarked (c :: cs) ↔ c ∉ marks ∧ Unmarked cs :=
  List.forall_mem_cons

theorem not_mem_marks_of_isDigit {c : Char} (h : c.isDigit = true) : c ∉ marks := by
  intro hc
  simp only [marks, List.mem_cons, List.not_mem_nil, or_false] at hc
  rcases hc with rfl | rfl | rfl | rfl | rfl | rfl | rfl | rfl <;> exact absurd h (by decide)

theorem unmarked_digits (n : Nat) : Unmarked (Decimal.digitsOf n) :=
  fun _ hc => not_mem_marks_of_isDigit (Nat.isDigit_of_mem_toDigits (by decide) (by decide) hc)

theorem unmarked_nat (n : Nat) : Unmarked (toString n).toList := by
  rw [Nat.toString_eq_ofList_toDigits, String.toList_ofList]
  exact unmarked_digits n

theorem unmarked_zeros (n : Nat) : Unmarked (Decimal.zeros n) :=
  fun c hc => by rw [List.eq_of_mem_replicate hc]; decide

theorem unmarked_positional (d : Decimal) : Unmarked d.positional := by
  unfold Decimal.positional
  dsimp only
  split
  · exact unmarked_append.2 ⟨unmarked_digits _, unmarked_zeros _⟩
  · have hpadded : ∀ n, Unmarked (Decimal.zeros n ++ Decimal.digitsOf d.coefficient) := fun n =>
      unmarked_append.2 ⟨unmarked_zeros n, unmarked_digits _⟩
    refine unmarked_append.2 ⟨fun c hc => hpadded _ c (List.mem_of_mem_take hc), unmarked_cons.2 ⟨by decide, ?_⟩⟩
    exact fun c hc => hpadded _ c (List.mem_of_mem_drop hc)

theorem unmarked_signed (negative : Bool) {cs : List Char} (h : Unmarked cs) :
    Unmarked (Decimal.signed negative cs).toList := by
  unfold Decimal.signed
  rw [String.toList_ofList]
  split
  · exact unmarked_cons.2 ⟨by decide, h⟩
  · exact h

theorem unmarked_decibelText (snr : Float) : Unmarked (decibelText snr).toList := by
  unfold decibelText Decimal.fixedText Decimal.textWith
  split
  · split
    · decide
    · exact unmarked_signed _ (by decide)
    · exact unmarked_signed _ (unmarked_positional _)
    · exact unmarked_signed _ (unmarked_positional _)
  · decide

theorem hexDigit_not_mark {n : Nat} (h : n < 16) : Text.hexDigit n ∉ marks := by
  have hall : ∀ n < 16, Text.hexDigit n ∉ marks := by decide
  exact hall n h

theorem unmarked_join : ∀ bs : List UInt8, Unmarked (MacAddress.join (bs.map MacAddress.octetText))
  | [] => by decide
  | b :: bs => by
    have hb := b.toNat_lt
    have hoctet : Unmarked (MacAddress.octetText b) :=
      unmarked_cons.2 ⟨hexDigit_not_mark (by omega),
        unmarked_cons.2 ⟨hexDigit_not_mark (Nat.mod_lt _ (by decide)), by decide⟩⟩
    cases bs with
    | nil => exact hoctet
    | cons c bs => exact unmarked_append.2 ⟨hoctet, unmarked_cons.2 ⟨by decide, unmarked_join (c :: bs)⟩⟩

theorem unmarked_address (a : MacAddress) : Unmarked a.toText.toList := by
  rw [MacAddress.toText, String.toList_ofList]
  exact unmarked_join _

/-! ## One line -/

/-- A sample that is written without marks. -/
structure Sample.Plain (x : Sample) : Prop where
  name : Unmarked x.name.toList
  labels : ∀ l ∈ x.labels, Unmarked l.1.toList ∧ Unmarked l.2.toList
  value : Unmarked x.value.toList

def labelText (l : String × String) : List Char :=
  l.1.toList ++ '=' :: '"' :: (l.2.toList ++ ['"'])

theorem label?_labelText {l : String × String} (hname : Unmarked l.1.toList) (hvalue : Unmarked l.2.toList) :
    label? (labelText l) = some l := by
  have hquoted : '=' ∉ '"' :: (l.2.toList ++ ['"']) := by
    simp [hvalue.not_mem (c := '=') (by decide)]
  have houter := List.splitOn_append_cons_self_of_not_mem (hname.not_mem (c := '=') (by decide))
    ('"' :: (l.2.toList ++ ['"']))
  have hinner := List.splitOn_append_cons_self_of_not_mem (hvalue.not_mem (c := '"') (by decide)) []
  have hopening := List.splitOn_append_cons_self_of_not_mem (List.not_mem_nil : '"' ∉ []) (l.2.toList ++ ['"'])
  rw [List.splitOn_eq_singleton hquoted] at houter
  rw [hinner, List.splitOn_nil] at hopening
  unfold label? labelText
  rw [houter]
  dsimp only
  rw [show '"' :: (l.2.toList ++ ['"']) = [] ++ '"' :: (l.2.toList ++ ['"']) from rfl, hopening]
  simp

theorem not_mem_labelText {l : String × String} (hname : Unmarked l.1.toList) (hvalue : Unmarked l.2.toList) {c : Char}
    (hc : c ∈ marks) (heq : c ≠ '=') (hquote : c ≠ '"') : c ∉ labelText l := by
  simp [labelText, hname.not_mem hc, hvalue.not_mem hc, heq, hquote]

theorem mem_intercalate {c d : Char} : ∀ {ls : List (List Char)}, c ∈ [d].intercalate ls → c = d ∨ ∃ l ∈ ls, c ∈ l
  | [], h => by simp at h
  | [l], h => .inr ⟨l, by simp, by simpa using h⟩
  | l :: m :: ls, h => by
    rw [List.intercalate_cons_cons, List.append_assoc, List.mem_append, List.mem_append, List.mem_singleton] at h
    rcases h with h | h | h
    · exact .inr ⟨l, by simp, h⟩
    · exact .inl h
    · obtain h | ⟨n, hn, hc⟩ := mem_intercalate h
      · exact .inl h
      · exact .inr ⟨n, List.mem_cons_of_mem _ hn, hc⟩

theorem toList_sample (name : String) (labels : List (String × String)) (value : String) :
    (sample name labels value).toList =
      (name.toList ++ '\x7b' :: ([','].intercalate (labels.map labelText) ++ '\x7d' :: [])) ++ ' ' :: value.toList := by
  have hlabel : (fun l : String × String => l.1.toList ++ '=' :: '"' :: (l.2.toList ++ ['"'])) = labelText := rfl
  simp [sample, String.toList_intercalate, List.map_map, Function.comp_def, hlabel]

theorem Sample.Plain.not_mem_labels {x : Sample} (hx : x.Plain) {c : Char} (hc : c ∈ marks) (heq : c ≠ '=')
    (hquote : c ≠ '"') (hcomma : c ≠ ',') : c ∉ [','].intercalate (x.labels.map labelText) := by
  intro hmem
  obtain rfl | ⟨_, htext, hcl⟩ := mem_intercalate hmem
  · exact hcomma rfl
  · obtain ⟨l, hl, rfl⟩ := List.mem_map.1 htext
    exact not_mem_labelText (hx.labels l hl).1 (hx.labels l hl).2 hc heq hquote hcl

/-- **A line with labels is read as the sample it was written for.** -/
theorem Sample.Plain.sample?_sample {x : Sample} (hx : x.Plain) (hlabels : x.labels ≠ []) :
    sample? (sample x.name x.labels x.value).toList = some x := by
  have hinside := fun {c : Char} => hx.not_mem_labels (c := c)
  have hblank : ' ' ∉ x.name.toList ++ '\x7b' :: ([','].intercalate (x.labels.map labelText) ++ '\x7d' :: []) := by
    simp [hx.name.not_mem (c := ' ') (by decide), hinside (c := ' ') (by decide) (by decide) (by decide) (by decide)]
  have hopened : '\x7b' ∉ [','].intercalate (x.labels.map labelText) ++ '\x7d' :: [] := by
    simp [hinside (c := '\x7b') (by decide) (by decide) (by decide) (by decide)]
  have hclosed := hinside (c := '\x7d') (by decide) (by decide) (by decide) (by decide)
  have hcommas : ∀ cs ∈ x.labels.map labelText, ',' ∉ cs := by
    intro cs hcs
    obtain ⟨l, hl, rfl⟩ := List.mem_map.1 hcs
    exact not_mem_labelText (hx.labels l hl).1 (hx.labels l hl).2 (by decide) (by decide) (by decide)
  have hread : (x.labels.map labelText).mapM label? = some x.labels := by
    rw [Attempt.mapM_eq_some_iff, List.forall₂_map_left_iff, List.forall₂_same]
    exact fun l hl => label?_labelText (hx.labels l hl).1 (hx.labels l hl).2
  unfold sample?
  rw [toList_sample, List.splitOn_append_cons_self_of_not_mem hblank,
    List.splitOn_eq_singleton (hx.value.not_mem (by decide))]
  dsimp only
  rw [List.splitOn_append_cons_self_of_not_mem (hx.name.not_mem (by decide)), List.splitOn_eq_singleton hopened]
  dsimp only
  rw [List.splitOn_append_cons_self_of_not_mem hclosed, List.splitOn_nil]
  dsimp only
  rw [List.splitOn_intercalate _ hcommas (by simpa using hlabels), hread]
  simp

theorem Sample.Plain.newline_not_mem {x : Sample} (hx : x.Plain) :
    '\n' ∉ (sample x.name x.labels x.value).toList := by
  rw [toList_sample]
  simp [hx.name.not_mem (c := '\n') (by decide), hx.value.not_mem (c := '\n') (by decide),
    hx.not_mem_labels (c := '\n') (by decide) (by decide) (by decide) (by decide)]

theorem Sample.Plain.readLine_sample {x : Sample} (hx : x.Plain) (hlabels : x.labels ≠ []) :
    readLine (sample x.name x.labels x.value).toList = some x := by
  have hcomment : (sample x.name x.labels x.value).toList.head? ≠ some '#' := by
    rw [toList_sample]
    cases hname : x.name.toList with
    | nil => simp
    | cons c cs =>
      have hc : c ≠ '#' := fun heq => hx.name c (by rw [hname]; simp) (heq ▸ by decide)
      simpa using hc
  rw [readLine, if_neg hcomment, hx.sample?_sample hlabels]

/-! ## All lines -/

/-- The samples of some lines. -/
def readLines (ls : List String) : List Sample :=
  ls.filterMap fun l => readLine l.toList

theorem readLines_append (ls ms : List String) : readLines (ls ++ ms) = readLines ls ++ readLines ms :=
  List.filterMap_append

theorem scrape_join : ∀ {ls : List String}, (∀ l ∈ ls, '\n' ∉ l.toList) →
    scrape (String.join (ls.map (· ++ "\n"))) = readLines ls
  | [], _ => rfl
  | l :: ls, h => by
    have ih : scrape (String.join (ls.map (· ++ "\n"))) = readLines ls :=
      scrape_join fun l' hl' => h l' (List.mem_cons_of_mem _ hl')
    have htext : (String.join ((l :: ls).map (· ++ "\n"))).toList =
        l.toList ++ '\n' :: (String.join (ls.map (· ++ "\n"))).toList := by
      simp
    unfold scrape readLines at ih ⊢
    rw [htext, List.splitOn_append_cons_self_of_not_mem (h l (by simp)), List.filterMap_cons, List.filterMap_cons, ih]

def Family.sample (f : Family) (s : Station) : Sample :=
  ⟨f.name, [("peer", s.address.toText)], f.value s⟩

def modeSample? (s : Station) : Option Sample :=
  s.cached.map fun v => ⟨"rateadapt_station_mode", [("peer", s.address.toText), ("mode", v.mode.name)], "1"⟩

/-- **What the metrics of some stations say**: their number, one sample of each family for each of them, and the modes of
those that have one. -/
def samples (stations : List Station) : List Sample :=
  ⟨"rateadapt_stations", [], toString stations.length⟩ ::
    families.flatMap (fun f => stations.map f.sample) ++ stations.filterMap modeSample?

theorem plain_name {f : Family} (hf : f ∈ families) : Unmarked f.name.toList := by
  have hall : ∀ n ∈ families.map (·.name.toList), Unmarked n := by decide
  exact hall _ (List.mem_map_of_mem hf)

theorem plain_sample {f : Family} (hf : f ∈ families) (s : Station) : (f.sample s).Plain where
  name := plain_name hf
  labels l hl := by
    rw [List.mem_singleton.1 hl]
    exact ⟨(by decide : Unmarked "peer".toList), unmarked_address _⟩
  value := by
    simp only [families, List.mem_cons, List.not_mem_nil, or_false] at hf
    rcases hf with rfl | rfl | rfl | rfl | rfl | rfl | rfl | rfl
    · exact unmarked_decibelText _
    · exact unmarked_nat _
    · show Unmarked (if s.isCacheValid then "1" else "0").toList
      split <;> decide
    all_goals exact unmarked_nat _

theorem plain_modeSample {s : Station} {x : Sample} (hx : modeSample? s = some x)
    (hmode : ∀ v, s.cached = some v → Unmarked v.mode.name.toList) : x.Plain := by
  obtain ⟨v, hv, rfl⟩ := Option.map_eq_some_iff.1 hx
  refine
    { name := (by decide : Unmarked "rateadapt_station_mode".toList)
      labels := fun l hl => ?_
      value := (by decide : Unmarked "1".toList) }
  rcases List.mem_pair.1 hl with rfl | rfl
  · exact ⟨(by decide : Unmarked "peer".toList), unmarked_address _⟩
  · exact ⟨(by decide : Unmarked "mode".toList), hmode v hv⟩

theorem readLines_heading (name help kind : String) : readLines (heading name help kind) = [] := by
  simp [readLines, heading, readLine]

theorem newline_not_mem_heading {name help kind l : String} (hname : '\n' ∉ name.toList) (hhelp : '\n' ∉ help.toList)
    (hkind : '\n' ∉ kind.toList) (hl : l ∈ heading name help kind) : '\n' ∉ l.toList := by
  rcases List.mem_pair.1 hl with rfl | rfl <;> simp [hname, hhelp, hkind]

theorem readLines_family {f : Family} (hf : f ∈ families) (stations : List Station) :
    readLines (f.lines stations) = stations.map f.sample := by
  rw [Family.lines, readLines_append, readLines_heading, List.nil_append, readLines, List.filterMap_map,
    ← List.filterMap_eq_map]
  refine List.filterMap_congr fun s _ => ?_
  exact (plain_sample hf s).readLine_sample (List.cons_ne_nil _ _)

theorem readLines_modes {stations : List Station}
    (hmode : ∀ s ∈ stations, ∀ v, s.cached = some v → Unmarked v.mode.name.toList) :
    readLines (modeLines stations) = stations.filterMap modeSample? := by
  rw [modeLines, readLines_append, readLines_heading, List.nil_append, readLines, List.filterMap_filterMap]
  refine List.filterMap_congr fun s hs => ?_
  cases hx : modeSample? s with
  | none =>
    rw [Option.map_eq_none_iff.1 hx]
    rfl
  | some x =>
    have hplain := plain_modeSample hx (hmode s hs)
    obtain ⟨v, hv, rfl⟩ := Option.map_eq_some_iff.1 hx
    rw [hv]
    exact hplain.readLine_sample (List.cons_ne_nil _ _)

theorem readLines_count (stations : List Station) :
    readLines (countLines stations) = [⟨"rateadapt_stations", [], toString stations.length⟩] := by
  have hname : Unmarked "rateadapt_stations".toList := by decide
  have hvalue := unmarked_nat stations.length
  have hline : ("rateadapt_stations " ++ toString stations.length).toList =
      "rateadapt_stations".toList ++ ' ' :: (toString stations.length).toList := by
    simp
  have hread : readLine ("rateadapt_stations " ++ toString stations.length).toList =
      some ⟨"rateadapt_stations", [], toString stations.length⟩ := by
    rw [readLine, if_neg (by rw [hline]; simp), hline]
    unfold sample?
    rw [List.splitOn_append_cons_self_of_not_mem (hname.not_mem (by decide)),
      List.splitOn_eq_singleton (hvalue.not_mem (by decide))]
    dsimp only
    rw [List.splitOn_eq_singleton (hname.not_mem (by decide))]
    dsimp only
    rw [String.ofList_toList, String.ofList_toList]
  rw [countLines, readLines_append, readLines_heading, List.nil_append, readLines, List.filterMap_cons, hread]
  rfl

theorem newline_not_mem_lines {stations : List Station}
    (hmode : ∀ s ∈ stations, ∀ v, s.cached = some v → Unmarked v.mode.name.toList) :
    ∀ l ∈ lines stations, '\n' ∉ l.toList := by
  intro l hl
  rw [lines, List.mem_append, List.mem_append, List.mem_flatMap] at hl
  rcases hl with (hl | ⟨f, hf, hl⟩) | hl
  · rcases List.mem_append.1 hl with hl | hl
    · exact newline_not_mem_heading (by decide) (by decide) (by decide) hl
    · have hblank : '\n' ∉ "rateadapt_stations ".toList := by decide
      rw [List.mem_singleton.1 hl, String.toList_append, List.mem_append, not_or]
      exact ⟨hblank, (unmarked_nat _).not_mem (by decide)⟩
  · rcases List.mem_append.1 hl with hl | hl
    · have hhelps : ∀ help ∈ families.map (·.help.toList), '\n' ∉ help := by decide
      have hkinds : ∀ kind ∈ families.map (·.kind.toList), '\n' ∉ kind := by decide
      have hname := (plain_name hf).not_mem (c := '\n') (by decide)
      exact newline_not_mem_heading hname (hhelps _ (List.mem_map_of_mem hf)) (hkinds _ (List.mem_map_of_mem hf)) hl
    · obtain ⟨s, -, rfl⟩ := List.mem_map.1 hl
      exact (plain_sample hf s).newline_not_mem
  · rcases List.mem_append.1 hl with hl | hl
    · exact newline_not_mem_heading (by decide) (by decide) (by decide) hl
    · obtain ⟨s, hs, hline⟩ := List.mem_filterMap.1 hl
      obtain ⟨v, hv, rfl⟩ := Option.map_eq_some_iff.1 hline
      have hx : modeSample? s =
          some ⟨"rateadapt_station_mode", [("peer", s.address.toText), ("mode", v.mode.name)], "1"⟩ := by
        rw [modeSample?, hv]
        rfl
      exact (plain_modeSample hx (hmode s hs)).newline_not_mem

/-- **A scraper reads the samples that were written**, as long as the names of the modes hold no mark. -/
theorem scrape_render {r : Registry}
    (hmode : ∀ s ∈ r.byAscendingAddress, ∀ v, s.cached = some v → Unmarked v.mode.name.toList) :
    scrape (render r) = samples r.byAscendingAddress := by
  have hfamilies : readLines (families.flatMap (·.lines r.byAscendingAddress)) =
      families.flatMap fun f => r.byAscendingAddress.map f.sample := by
    rw [readLines, List.filterMap_flatMap]
    exact List.flatMap_congr fun f hf => readLines_family hf _
  rw [render, scrape_join (newline_not_mem_lines hmode), lines, readLines_append, readLines_append, readLines_count,
    readLines_modes hmode, hfamilies]
  rfl

end Metrics
end LinkAdaptation

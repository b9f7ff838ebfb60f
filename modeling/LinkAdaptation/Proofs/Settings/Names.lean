import LinkAdaptation.Proofs.Attempts
import LinkAdaptation.Proofs.Text.Blank
import LinkAdaptation.Settings.Basic
import Mathlib.Data.List.Nodup
/-!
# Names in a settings file

What a name stands for, blanks around it aside: a standard in any case of its letters (`NamesStandard`), a legacy mode
exactly as the catalog spells it (`NamesLegacy`).  Looking a name up finds just that, and a name that stands for nothing is
a fault of its own kind (`standardFault?`, `modeFault?`).
-/
namespace LinkAdaptation

open Attempt (failure? failure?_ok failure?_error failure?_eq_none_iff unmet unmet_eq_none_iff unmet_of_not)

/-- The same but for the case of ASCII letters. -/
def Text.SameLetters (a b : String) : Prop :=
  a.toList.map Char.toLower = b.toList.map Char.toLower

instance (a b : String) : Decidable (Text.SameLetters a b) :=
  inferInstanceAs (Decidable (_ = _))

theorem Text.sameLetters_iff {a b : String} : SameLetters a b ↔ lowered a = lowered b := by
  rw [← String.toList_inj, lowered, lowered, String.toList_map, String.toList_map, SameLetters]

/-! ## Standards -/

namespace Standard

theorem mem_all (s : Standard) : s ∈ all := by
  cases s <;> decide

theorem lowered_name (s : Standard) : Text.lowered s.name = s.name := by
  cases s <;> decide +kernel

theorem named?_eq_some_iff {name : String} {s : Standard} : named? name = some s ↔ name = s.name := by
  constructor
  · intro h
    have hname := List.find?_some h
    exact (beq_iff_eq.1 hname).symm
  · rintro rfl
    cases s <;> decide

theorem parse?_eq_some_iff {text : String} {s : Standard} :
    parse? text = some s ↔ Text.SameLetters (Text.trimmed text) s.name := by
  rw [parse?, named?_eq_some_iff, Text.sameLetters_iff, lowered_name]

/-- No standard has a name of blanks. -/
theorem trimmed_ne_empty {name : String} {s : Standard} (h : Text.SameLetters (Text.trimmed name) s.name) :
    Text.trimmed name ≠ "" := by
  intro hblank
  rw [hblank] at h
  revert h
  cases s <;> decide

end Standard

/-- What the name of a standard stands for: no name, or one of blanks, for 802.11a. -/
inductive NamesStandard : Option String → Standard → Prop where
  | absent : NamesStandard none .a
  | blank {name : String} : Text.trimmed name = "" → NamesStandard (some name) .a
  | named {name : String} {s : Standard} : Text.SameLetters (Text.trimmed name) s.name → NamesStandard (some name) s

/-- The fault of a name that stands for no standard. -/
def standardFault? : Option String → Option SettingsFault
  | none => none
  | some name => unmet (Text.trimmed name = "" ∨ ∃ s ∈ Standard.all, Text.SameLetters (Text.trimmed name) s.name)
      (.unknownStandard (Text.trimmed name))

namespace RadioSection

variable {r : RadioSection}

theorem resolveStandard_of_none (h : r.standard = none) : r.resolveStandard = .ok .a := by
  rw [resolveStandard, h]
  rfl

theorem resolveStandard_of_blank {name : String} (h : r.standard = some name) (hblank : Text.trimmed name = "") :
    r.resolveStandard = .ok .a := by
  rw [resolveStandard, h, Option.getD_some, hblank]
  rfl

theorem resolveStandard_of_name {name : String} (h : r.standard = some name) (hblank : Text.trimmed name ≠ "") :
    r.resolveStandard = (Standard.parse? name).elim (.error (.unknownStandard (Text.trimmed name))) .ok := by
  have hparse : Standard.parse? (Text.trimmed name) = Standard.parse? name := by
    rw [Standard.parse?, Text.trimmed_trimmed, Standard.parse?]
  have hempty : ¬ (Text.trimmed name).isEmpty = true := by simpa using hblank
  rw [resolveStandard, h, Option.getD_some, if_neg hempty, hparse]
  cases Standard.parse? name <;> rfl

theorem resolveStandard_eq_ok_iff {s : Standard} : r.resolveStandard = .ok s ↔ NamesStandard r.standard s := by
  constructor
  · intro h
    cases hname : r.standard with
    | none =>
      rw [resolveStandard_of_none hname] at h
      cases h
      exact .absent
    | some name =>
      by_cases hblank : Text.trimmed name = ""
      · rw [resolveStandard_of_blank hname hblank] at h
        cases h
        exact .blank hblank
      · rw [resolveStandard_of_name hname hblank] at h
        cases hparse : Standard.parse? name with
        | none =>
          rw [hparse] at h
          cases h
        | some s' =>
          rw [hparse] at h
          cases h
          exact .named (Standard.parse?_eq_some_iff.1 hparse)
  · intro h
    generalize hname : r.standard = name at h
    cases h with
    | absent => exact resolveStandard_of_none hname
    | blank hblank => exact resolveStandard_of_blank hname hblank
    | named hletters =>
      rw [resolveStandard_of_name hname (Standard.trimmed_ne_empty hletters), Standard.parse?_eq_some_iff.2 hletters]
      rfl

theorem failure?_resolveStandard (r : RadioSection) : failure? r.resolveStandard = standardFault? r.standard := by
  cases hname : r.standard with
  | none =>
    rw [resolveStandard_of_none hname]
    rfl
  | some name =>
    rw [standardFault?]
    by_cases hblank : Text.trimmed name = ""
    · rw [resolveStandard_of_blank hname hblank, unmet_eq_none_iff.2 (.inl hblank), failure?_ok]
    · rw [resolveStandard_of_name hname hblank]
      cases hparse : Standard.parse? name with
      | some s =>
        rw [unmet_eq_none_iff.2 (.inr ⟨s, s.mem_all, Standard.parse?_eq_some_iff.1 hparse⟩), Option.elim_some, failure?_ok]
      | none =>
        rw [unmet_of_not, Option.elim_none, failure?_error]
        · rintro (hb | ⟨s, -, hletters⟩)
          · exact hblank hb
          · rw [Standard.parse?_eq_some_iff.2 hletters] at hparse
            cases hparse

end RadioSection

theorem standardFault?_eq_none_iff {name : Option String} : standardFault? name = none ↔ ∃ s, NamesStandard name s := by
  rw [← RadioSection.failure?_resolveStandard { standard := name }, failure?_eq_none_iff]
  simp only [RadioSection.resolveStandard_eq_ok_iff]

/-! ## Legacy modes -/

namespace Catalog

theorem nodup_names : (all.map (·.name)).Nodup := by
  decide +kernel

theorem find?_eq_some_iff {name : String} {m : Mode} : find? name = some m ↔ m ∈ all ∧ m.name = name := by
  constructor
  · intro h
    have hname := List.find?_some h
    exact ⟨List.mem_of_find?_eq_some h, beq_iff_eq.1 hname⟩
  · rintro ⟨hm, rfl⟩
    cases hfind : find? m.name with
    | none => simpa using List.find?_eq_none.1 hfind m hm
    | some m' =>
      have hname := List.find?_some hfind
      rw [List.inj_on_of_nodup_map nodup_names (List.mem_of_find?_eq_some hfind) hm (beq_iff_eq.1 hname)]

end Catalog

/-- `m` is the legacy mode of the catalog that the name, blanks around it aside, spells exactly. -/
structure NamesLegacy (name : String) (m : Mode) : Prop where
  mem_all : m ∈ Catalog.all
  name_eq : m.name = Text.trimmed name
  legacy : m.generation = .legacy

/-- The fault of a name that stands for no legacy mode; it tells modes of other generations from what is no mode. -/
def modeFault? (name : String) : Option SettingsFault :=
  unmet (∃ m ∈ Catalog.all, m.name = Text.trimmed name ∧ m.generation = .legacy)
    (if ∃ m ∈ Catalog.all, m.name = Text.trimmed name then .notLegacyMode (Text.trimmed name)
    else .unknownMode (Text.trimmed name))

theorem exists_namesLegacy_iff {name : String} :
    (∃ m, NamesLegacy name m) ↔ ∃ m ∈ Catalog.all, m.name = Text.trimmed name ∧ m.generation = .legacy :=
  ⟨fun ⟨m, h⟩ => ⟨m, h.mem_all, h.name_eq, h.legacy⟩, fun ⟨m, hm, hname, hlegacy⟩ => ⟨m, hm, hname, hlegacy⟩⟩

theorem modeFault?_eq_none_iff {name : String} : modeFault? name = none ↔ ∃ m, NamesLegacy name m := by
  rw [exists_namesLegacy_iff, modeFault?, unmet_eq_none_iff]

namespace RadioSection

theorem legacyMode_eq_ok_iff {name : String} {m : Mode} : legacyMode name = .ok m ↔ NamesLegacy name m := by
  rw [legacyMode]
  constructor
  · intro h
    split at h
    · rename_i hfind
      split at h
      · rename_i hlegacy
        cases h
        obtain ⟨hm, hname⟩ := Catalog.find?_eq_some_iff.1 hfind
        exact ⟨hm, hname, hlegacy⟩
      · cases h
    · cases h
  · rintro ⟨hm, hname, hlegacy⟩
    rw [Catalog.find?_eq_some_iff.2 ⟨hm, hname⟩]
    exact if_pos hlegacy

theorem failure?_legacyMode (name : String) : failure? (legacyMode name) = modeFault? name := by
  cases hmode : legacyMode name with
  | ok m => exact (modeFault?_eq_none_iff.2 ⟨m, legacyMode_eq_ok_iff.1 hmode⟩).symm
  | error e =>
    have hnone : ¬ ∃ m, NamesLegacy name m := by
      rintro ⟨m, hm⟩
      rw [legacyMode_eq_ok_iff.2 hm] at hmode
      cases hmode
    rw [modeFault?, unmet_of_not (exists_namesLegacy_iff.not.1 hnone)]
    rw [legacyMode] at hmode
    split at hmode
    · rename_i m hfind
      obtain ⟨hm, hname⟩ := Catalog.find?_eq_some_iff.1 hfind
      rw [if_pos ⟨m, hm, hname⟩]
      split at hmode <;> cases hmode
      rfl
    · rename_i hfind
      cases hmode
      rw [if_neg]
      · rfl
      · rintro ⟨m, hm, hname⟩
        rw [Catalog.find?_eq_some_iff.2 ⟨hm, hname⟩] at hfind
        cases hfind

end RadioSection
end LinkAdaptation

import LinkAdaptation.Toml.Document
/-!
# The settings file

What a settings file says, before any of it is looked up.  Everything may be left out, and what the file says beyond
this is passed over, though a number in it that is too large is still a fault.  A section is a table of its fields; a
list of the fields in their order says the same, whatever may follow them, and a date in its place says nothing.
-/
namespace LinkAdaptation

structure RadioSection where
  standard : Option String := none
  widthMHz : Option Nat := none
  streams : Option Nat := none
  shortGuard : Option Bool := none
  heGuardNs : Option Nat := none
  basicModes : Option (List String) := none
  defaultMode : Option String := none
deriving DecidableEq

structure SettingsFile where
  version : Nat := 0
  bitErrorTarget : Option Float := none
  radio : RadioSection := {}

namespace SettingsFile

open Toml (Value Entries)

/-! ## Reading fields -/

def text? : Value → Option String
  | .string s => some s
  | _ => none

def texts? : Value → Option (List String)
  | .array items => items.mapM text?
  | _ => none

def flag? : Value → Option Bool
  | .boolean b => some b
  | _ => none

/-- A whole number of so many bits. -/
def unsigned? (bits : Nat) : Value → Option Nat
  | .integer n => if 0 ≤ n ∧ n < Int.pow 2 bits then some n.toNat else none
  | _ => none

/-- Any number that 64 bits hold. -/
def number? : Value → Option Float
  | .integer n => if -Int.pow 2 63 ≤ n ∧ n < Int.pow 2 64 then some (Float.ofInt n) else none
  | .float x => some x
  | _ => none

def optional? (read : Value → Option α) : Option Value → Option (Option α)
  | some value => (read value).map some
  | none => some none

/-- The fields of a section, in the order of their names. -/
def fields? (names : List String) : Value → Option (List (Option Value))
  | .table _ entries =>
    if entries.all fun (name, value) => names.contains name || value.isReadable then
      some (names.map fun name => entries.lookup name)
    else none
  | .array items => some (names.zipIdx.map fun (_, i) => items[i]?)
  | .tables elements => some (names.zipIdx.map fun (_, i) => elements[i]?.map (.table .headed))
  | .moment => some (names.map fun _ => none)
  | _ => none

/-! ## Reading sections -/

def target? (fields : Value) : Option (Option Float) := do
  match ← fields? ["ber_threshold"] fields with
  | [target] => optional? number? target
  | _ => none

def radio? (fields : Value) : Option RadioSection := do
  let names := ["standard", "channel_width_mhz", "spatial_streams", "short_guard_interval", "he_guard_interval_ns",
    "basic_modes", "default_mode"]
  match ← fields? names fields with
  | [standard, width, streams, shortGuard, heGuard, basicModes, defaultMode] =>
    return {
      standard := ← optional? text? standard
      widthMHz := ← optional? (unsigned? 16) width
      streams := ← optional? (unsigned? 8) streams
      shortGuard := ← optional? flag? shortGuard
      heGuardNs := ← optional? (unsigned? 16) heGuard
      basicModes := ← optional? texts? basicModes
      defaultMode := ← optional? text? defaultMode }
  | _ => none

/-- **What a document says.** -/
def ofEntries? (entries : Entries) : Option SettingsFile := do
  match ← fields? ["version", "manager", "device"] (.table .headed entries) with
  | [version, manager, device] =>
    let version ← optional? (unsigned? 32) version
    let target ← optional? target? manager
    let radio ← optional? radio? device
    return ⟨version.getD 0, target.join, radio.getD {}⟩
  | _ => none

end SettingsFile
end LinkAdaptation

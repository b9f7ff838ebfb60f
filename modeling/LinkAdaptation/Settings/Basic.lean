import LinkAdaptation.Control.RateControl
import LinkAdaptation.Radio.Standard
import LinkAdaptation.Settings.File
/-!
# Settings

Settings are a standard, its device with some fields replaced, and the target for the error probability of a bit.  A
settings file is resolved in a fixed order: version, target, standard, basic modes from left to right, default mode;
the first fault counts.
-/
namespace LinkAdaptation

structure Settings where
  version : Nat
  bitErrorTarget : Float
  standard : Standard
  device : Device
deriving BEq

inductive SettingsFault where
  | unsupportedVersion (version : Nat)
  /-- No TOML document, or a field of the wrong type. -/
  | malformed
  | unknownStandard (name : String)
  | unknownMode (name : String)
  | notLegacyMode (name : String)
  | invalidTarget (target : Float)

def SettingsFault.message : SettingsFault → String
  | .unsupportedVersion v => "unsupported config version " ++ toString v
  | .malformed => "invalid config TOML"
  | .unknownStandard name => "unknown Wi-Fi standard " ++ Text.quoted name
  | .unknownMode name => "unknown transmission mode " ++ Text.quoted name
  | .notLegacyMode name => name ++ " is not a legacy mode"
  | .invalidTarget t => "ber_threshold must be in (0, 1), got " ++ Decimal.plainText t

/-! ## Resolving a file -/

namespace RadioSection

/-- The standard with this name; no name stands for 802.11a. -/
def resolveStandard (r : RadioSection) : Except SettingsFault Standard :=
  let name := Text.trimmed (r.standard.getD "")
  if name.isEmpty then .ok .a
  else
    match Standard.parse? name with
    | some s => .ok s
    | none => .error (.unknownStandard name)

def legacyMode (name : String) : Except SettingsFault Mode :=
  let name := Text.trimmed name
  match Catalog.find? name with
  | some m => if m.generation = .legacy then .ok m else .error (.notLegacyMode name)
  | none => .error (.unknownMode name)

/-- The device of a standard with the fields that are given replaced. -/
def device (r : RadioSection) (preset : Device) : Except SettingsFault Device := do
  let basicModes ← match r.basicModes with
    | some names => names.mapM legacyMode
    | none => .ok preset.basicModes
  let defaultMode ← match r.defaultMode with
    | some name => legacyMode name
    | none => .ok preset.defaultMode
  return { preset with
    widthMHz := r.widthMHz.getD preset.widthMHz
    streams := r.streams.getD preset.streams
    shortGuard := r.shortGuard.getD preset.shortGuard
    heGuardNs := r.heGuardNs.getD preset.heGuardNs
    basicModes := basicModes
    defaultMode := defaultMode }

end RadioSection

namespace Settings

def currentVersion : Nat := 1

/-- The settings when nothing is said. -/
def standardOnes : Settings :=
  ⟨currentVersion, Thresholds.defaultTarget, .a, Standard.a.device⟩

/-- **Settings from a file**; version 0 stands for the current one. -/
def resolve (f : SettingsFile) : Except SettingsFault Settings :=
  let version := if f.version = 0 then currentVersion else f.version
  let target := f.bitErrorTarget.getD Thresholds.defaultTarget
  if version ≠ currentVersion then .error (.unsupportedVersion version)
  else if !Thresholds.isProbability target then .error (.invalidTarget target)
  else do
    let standard ← f.radio.resolveStandard
    return ⟨version, target, standard, ← f.radio.device standard.device⟩

/-- **Settings from the text of a file**; a text of blanks says nothing. -/
def parse (text : String) : Except SettingsFault Settings :=
  if (Text.trimmed text).isEmpty then .ok standardOnes
  else
    match (Toml.parse? text).bind SettingsFile.ofEntries? with
    | some f => resolve f
    | none => .error .malformed

end Settings

/-! ## Loading a file -/

inductive LoadFault where
  | unreadable (path : String)
  | invalid (path : String) (fault : SettingsFault)

def LoadFault.message : LoadFault → String
  | .unreadable path => "reading config " ++ path
  | .invalid path _ => "parsing config " ++ path

namespace Settings

/-- Settings from the contents of the file at a path, if it could be read. -/
def load (path : String) (contents : Option String) : Except LoadFault Settings :=
  match contents with
  | some text =>
    match parse text with
    | .ok s => .ok s
    | .error fault => .error (.invalid path fault)
  | none => .error (.unreadable path)

end Settings

/-- **Rate control for settings.** -/
def RateControl.ofSettings (s : Settings) (model : ErrorModel) : Except SetupFault RateControl :=
  RateControl.build s.device model s.bitErrorTarget

end LinkAdaptation

import LinkAdaptation.Radio.Capabilities
import LinkAdaptation.Decimal.Text
/-!
# Faults of a set-up

Why a device, a target or an error model cannot be used.  A device is looked at field by field and its first fault
counts.
-/
namespace LinkAdaptation

inductive SetupFault where
  | emptyCatalog
  | invalidDefaultMode (mode : Mode)
  | invalidBasicMode (mode : Mode)
  /-- The device lists a mode of a generation that it does not advertise. -/
  | generationDisabled (mode : Mode)
  | invalidWidth (widthMHz : Nat)
  | invalidStreams (streams : Nat)
  | invalidHeGuard (guardNs : Nat)
  | invalidTarget (target : Float)
  | unreachableThreshold (vector : TxVector)

def SetupFault.message : SetupFault → String
  | .emptyCatalog => "device mode catalog is empty"
  | .invalidDefaultMode m => "default mode " ++ m.name ++ " is not a legacy mode in the device catalog"
  | .invalidBasicMode m => "basic mode " ++ m.name ++ " is not a legacy mode in the device catalog"
  | .generationDisabled m =>
    "catalog contains " ++ m.name ++ " but the device does not enable " ++ m.generation.name
  | .invalidWidth w => "unsupported channel width " ++ toString w ++ " MHz"
  | .invalidStreams n => "spatial stream count must be 1..=8, got " ++ toString n
  | .invalidHeGuard g => "unsupported HE guard interval " ++ toString g ++ " ns"
  | .invalidTarget t => "target error probability must be in (0, 1), got " ++ Decimal.plainText t
  | .unreachableThreshold v => "error model has no finite SNR threshold for " ++ v.shown

namespace Device

/-- Whether a mode is a legacy one of the device's own list. -/
def listsLegacy (d : Device) (m : Mode) : Bool :=
  m.generation = .legacy && d.lists m

/-- **The first fault of a device**, if it has one. -/
def fault? (d : Device) : Option SetupFault :=
  if d.modes.isEmpty then some .emptyCatalog
  else if !d.listsLegacy d.defaultMode then some (.invalidDefaultMode d.defaultMode)
  else
    match d.basicModes.find? (!d.listsLegacy ·), d.modes.find? (!d.supports ·.generation) with
    | some m, _ => some (.invalidBasicMode m)
    | none, some m => some (.generationDisabled m)
    | none, none =>
      if d.widthMHz = 0 || (d.hasMcs && d.widthMHz < 20) then some (.invalidWidth d.widthMHz)
      else if d.streams < 1 || 8 < d.streams then some (.invalidStreams d.streams)
      else if d.he && !heGuardsNs.contains d.heGuardNs then some (.invalidHeGuard d.heGuardNs)
      else none

end Device
end LinkAdaptation

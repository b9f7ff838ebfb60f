import LinkAdaptation.Phy.TxVector
/-!
# Capabilities

What one end of a link can do.  A peer advertises exactly this; the local device adds the rates it protects frames with
and the mode it falls back to.
-/
namespace LinkAdaptation

structure Capabilities where
  modes : List Mode
  ht : Bool
  vht : Bool
  he : Bool
  widthMHz : Nat
  streams : Nat
  shortGuard : Bool
  heGuardNs : Nat
deriving DecidableEq

namespace Capabilities

def legacy (modes : List Mode) : Capabilities :=
  ⟨modes, false, false, false, 20, 1, false, longGuardNs⟩

/-- Whether a generation is advertised; the legacy one always is. -/
def supports (c : Capabilities) : Generation → Bool
  | .legacy => true
  | .ht => c.ht
  | .vht => c.vht
  | .he => c.he

def lists (c : Capabilities) (m : Mode) : Bool :=
  c.modes.contains m

def hasMcs (c : Capabilities) : Bool :=
  c.ht || c.vht || c.he

def legacyModes (c : Capabilities) : List Mode :=
  c.modes.filter (·.generation = .legacy)

def mcsModes (c : Capabilities) : List Mode :=
  c.modes.filter (·.isMcs)

def htGuardNs (c : Capabilities) : Nat :=
  if c.shortGuard then shortGuardNs else longGuardNs

end Capabilities

/-- What the local radio can do: `basicModes` protect frames, `defaultMode` is used when nothing clears the SNR. -/
structure Device extends Capabilities where
  basicModes : List Mode
  defaultMode : Mode
deriving DecidableEq

namespace Device

/-- A device without any MCS; its first legacy mode is its default and its one basic mode. -/
def legacy (modes : List Mode) : Device :=
  let defaultMode := (modes.find? (·.generation = .legacy)).getD Catalog.slowestOfdm
  ⟨Capabilities.legacy modes, [defaultMode], defaultMode⟩

end Device
end LinkAdaptation

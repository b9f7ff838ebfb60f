import LinkAdaptation.Phy.Catalog
/-!
# Transmission configurations

A configuration is what one frame is sent with: a mode, a number of spatial streams, a guard interval and a channel
width.  Not every combination can be put on air; `TxVector.isPermitted` says which ones can.
-/
namespace LinkAdaptation

/-- The guard interval of legacy frames and of HT and VHT frames without the short one. -/
def longGuardNs : Nat := 800

/-- The short guard interval of HT and VHT. -/
def shortGuardNs : Nat := 400

def heGuardsNs : List Nat := [800, 1600, 3200]

def mcsWidthsMHz : List Nat := [20, 40, 80, 160]

def widthsWithin (limitMHz : Nat) : List Nat :=
  mcsWidthsMHz.filter (· ≤ limitMHz)

/-- The widest of 20, 40, 80, 160 that does not exceed a limit, and 20 if none does. -/
def operatingWidth (limitMHz : Nat) : Nat :=
  (widthsWithin limitMHz).getLast?.getD 20

def streamsUpTo (limit : Nat) : List Nat :=
  (List.range limit).map (· + 1)

structure TxVector where
  mode : Mode
  streams : Nat
  guardNs : Nat
  widthMHz : Nat
deriving DecidableEq

namespace TxVector

/-- One stream, the long guard interval and the width of the mode's class. -/
def legacy (m : Mode) : TxVector :=
  ⟨m, 1, longGuardNs, m.widthClassMHz⟩

def dataRate (c : TxVector) : Nat :=
  c.mode.dataRate c.widthMHz c.guardNs c.streams

/-- The VHT combinations for which a symbol would not carry a whole number of data bits. -/
def isExcludedVht (index streams widthMHz : Nat) : Bool :=
  match widthMHz, index with
  | 20, 9 => streams ≠ 3 && streams ≠ 6
  | 80, 6 => streams = 3 || streams = 7
  | 160, 9 => streams = 3
  | _, _ => false

/-- **Whether the combination can be put on air.** -/
def isPermitted (c : TxVector) : Bool :=
  match c.mode.modulation with
  | .dsss | .hrDsss => c.streams = 1 && (c.widthMHz = 20 || c.widthMHz = 22)
  | .ofdm | .erpOfdm => c.streams = 1 && (c.widthMHz = 5 || c.widthMHz = 10 || c.widthMHz = 20)
  | .ht =>
    (c.widthMHz = 20 || c.widthMHz = 40) && (c.guardNs = shortGuardNs || c.guardNs = longGuardNs) &&
      c.mode.index < 32 && c.streams = c.mode.htStreams
  | .vht =>
    c.widthMHz ∈ mcsWidthsMHz && (c.guardNs = shortGuardNs || c.guardNs = longGuardNs) &&
      (1 ≤ c.streams && c.streams ≤ 8) && c.mode.index < 10 && !isExcludedVht c.mode.index c.streams c.widthMHz
  | .he =>
    c.widthMHz ∈ mcsWidthsMHz && c.guardNs ∈ heGuardsNs && (1 ≤ c.streams && c.streams ≤ 8) && c.mode.index < 12

def shown (c : TxVector) : String :=
  c.mode.name ++ " nss=" ++ toString c.streams ++ " gi=" ++ toString c.guardNs ++ "ns width=" ++
    toString c.widthMHz ++ "MHz"

end TxVector
end LinkAdaptation

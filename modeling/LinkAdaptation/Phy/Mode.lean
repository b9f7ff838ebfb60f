/-!
# Transmission modes

A mode is one modulation and coding scheme of the physical layer.  Its class says which generation of the standard
defines it and how its rate is computed: the rate of a DSSS mode is fixed, that of an OFDM mode shrinks with a narrow
channel, and that of an HT, VHT or HE mode is the number of data bits per symbol over the duration of a symbol.
-/
namespace LinkAdaptation

/-- Capability generations, oldest first. -/
inductive Generation where
  | legacy
  | ht
  | vht
  | he
deriving DecidableEq

def Generation.name : Generation → String
  | .legacy => "legacy"
  | .ht => "ht"
  | .vht => "vht"
  | .he => "he"

inductive ModulationClass where
  | dsss
  | hrDsss
  | erpOfdm
  | ofdm
  | ht
  | vht
  | he
deriving DecidableEq

namespace ModulationClass

def generation : ModulationClass → Generation
  | .ht => .ht
  | .vht => .vht
  | .he => .he
  | _ => .legacy

def name : ModulationClass → String
  | .dsss => "Dsss"
  | .hrDsss => "HrDsss"
  | .erpOfdm => "ErpOfdm"
  | .ofdm => "Ofdm"
  | .ht => "Ht"
  | .vht => "Vht"
  | .he => "He"

/-- Data subcarriers of one symbol; 0 for a width that has no plan. -/
def dataSubcarriers (c : ModulationClass) (widthMHz : Nat) : Nat :=
  match c, widthMHz with
  | .he, 20 => 234
  | .he, 40 => 468
  | .he, 80 => 980
  | .he, 160 => 1960
  | .he, _ => 0
  | _, 20 => 52
  | _, 40 => 108
  | _, 80 => 234
  | _, 160 => 468
  | _, _ => 0

def symbolNs (c : ModulationClass) (guardNs : Nat) : Nat :=
  (if c = .he then 12800 else 3200) + guardNs

end ModulationClass

/-- Code rates; DSSS and CCK carry no outer code. -/
inductive CodeRate where
  | uncoded
  | half
  | twoThirds
  | threeQuarters
  | fiveSixths
deriving DecidableEq

namespace CodeRate

def numerator : CodeRate → Nat
  | .uncoded => 1
  | .half => 1
  | .twoThirds => 2
  | .threeQuarters => 3
  | .fiveSixths => 5

def denominator : CodeRate → Nat
  | .uncoded => 1
  | .half => 2
  | .twoThirds => 3
  | .threeQuarters => 4
  | .fiveSixths => 6

def value (r : CodeRate) : Float :=
  Float.ofNat r.numerator / Float.ofNat r.denominator

def name : CodeRate → String
  | .uncoded => "Undefined"
  | .half => "Half"
  | .twoThirds => "TwoThirds"
  | .threeQuarters => "ThreeQuarters"
  | .fiveSixths => "FiveSixths"

end CodeRate

/-- A modulation and coding scheme.  `index` is the MCS index of an HT, VHT or HE mode and the place in the list of
rates of any other; `fixedRate` is the rate at the reference width, 0 for an MCS. -/
structure Mode where
  name : String
  modulation : ModulationClass
  index : Nat
  constellation : Nat
  codeRate : CodeRate
  fixedRate : Nat
deriving DecidableEq

namespace Mode

def generation (m : Mode) : Generation :=
  m.modulation.generation

def isMcs (m : Mode) : Bool :=
  m.generation ≠ .legacy

/-- Coded bits of one subcarrier in one symbol. -/
def bitsPerSymbol (m : Mode) : Nat :=
  m.constellation.log2

/-- The streams an HT index stands for; other classes say nothing of streams in their index. -/
def htStreams (m : Mode) : Nat :=
  if m.modulation = .ht then m.index / 8 + 1 else 1

/-- The width a legacy mode is always sent at. -/
def widthClassMHz (m : Mode) : Nat :=
  match m.modulation with
  | .dsss | .hrDsss => 22
  | _ => 20

/-- Bits of one symbol over all subcarriers and streams, times the numerator of the code rate. -/
def symbolBits (m : Mode) (widthMHz streams : Nat) : Nat :=
  m.modulation.dataSubcarriers widthMHz * m.bitsPerSymbol * streams * m.codeRate.numerator

/-- **Nominal data rate in bits per second**, rounded down. -/
def dataRate (m : Mode) (widthMHz guardNs streams : Nat) : Nat :=
  match m.modulation with
  | .dsss | .hrDsss => m.fixedRate
  | .ofdm | .erpOfdm => m.fixedRate * min widthMHz 20 / 20
  | .ht | .vht | .he =>
    m.symbolBits widthMHz streams * 1000000000 / (m.codeRate.denominator * m.modulation.symbolNs guardNs)

end Mode
end LinkAdaptation

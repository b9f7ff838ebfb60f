import LinkAdaptation.Phy.Mode
/-!
# Catalogs of modes

Every mode there is, in one list per family.  Names are unique over all of them.
-/
namespace LinkAdaptation
namespace Mode

def scheme : Nat → Nat × CodeRate
  | 0 => (2, .half)
  | 1 => (4, .half)
  | 2 => (4, .threeQuarters)
  | 3 => (16, .half)
  | 4 => (16, .threeQuarters)
  | 5 => (64, .twoThirds)
  | 6 => (64, .threeQuarters)
  | 7 => (64, .fiveSixths)
  | 8 => (256, .threeQuarters)
  | 9 => (256, .fiveSixths)
  | 10 => (1024, .threeQuarters)
  | _ => (1024, .fiveSixths)

/-- The MCS with a given index; HT repeats its eight schemes once per stream. -/
def mcs (modulation : ModulationClass) (index : Nat) : Mode :=
  let (constellation, codeRate) := scheme (if modulation = .ht then index % 8 else index)
  ⟨modulation.name ++ "Mcs" ++ toString index, modulation, index, constellation, codeRate, 0⟩

def ofdmRate (modulation : ModulationClass) (index mbps constellation : Nat) (codeRate : CodeRate) : Mode :=
  ⟨modulation.name ++ "Rate" ++ toString mbps ++ "Mbps", modulation, index, constellation, codeRate, mbps * 1000000⟩

def ofdmRates (modulation : ModulationClass) : List Mode :=
  [ofdmRate modulation 0 6 2 .half, ofdmRate modulation 1 9 2 .threeQuarters,
   ofdmRate modulation 2 12 4 .half, ofdmRate modulation 3 18 4 .threeQuarters,
   ofdmRate modulation 4 24 16 .half, ofdmRate modulation 5 36 16 .threeQuarters,
   ofdmRate modulation 6 48 64 .twoThirds, ofdmRate modulation 7 54 64 .threeQuarters]

end Mode

namespace Catalog

def dsss : List Mode :=
  [⟨"DsssRate1Mbps", .dsss, 0, 2, .uncoded, 1000000⟩, ⟨"DsssRate2Mbps", .dsss, 1, 4, .uncoded, 2000000⟩,
   ⟨"DsssRate5_5Mbps", .hrDsss, 2, 16, .uncoded, 5500000⟩, ⟨"DsssRate11Mbps", .hrDsss, 3, 256, .uncoded, 11000000⟩]

/-- OFDM rates of the 5 GHz band. -/
def ofdm : List Mode :=
  Mode.ofdmRates .ofdm

/-- OFDM rates of the 2.4 GHz band. -/
def erpOfdm : List Mode :=
  Mode.ofdmRates .erpOfdm

/-- HT MCSes, up to four streams. -/
def ht : List Mode :=
  (List.range 32).map (Mode.mcs .ht)

def vht : List Mode :=
  (List.range 10).map (Mode.mcs .vht)

def he : List Mode :=
  (List.range 12).map (Mode.mcs .he)

def all : List Mode :=
  dsss ++ ofdm ++ erpOfdm ++ ht ++ vht ++ he

def find? (name : String) : Option Mode :=
  all.find? (·.name == name)

/-- The first OFDM rate, the most robust one of the 5 GHz band. -/
def slowestOfdm : Mode :=
  Mode.ofdmRate .ofdm 0 6 2 .half

/-- The first DSSS rate, the most robust one of the 2.4 GHz band. -/
def slowestDsss : Mode :=
  ⟨"DsssRate1Mbps", .dsss, 0, 2, .uncoded, 1000000⟩

end Catalog
end LinkAdaptation

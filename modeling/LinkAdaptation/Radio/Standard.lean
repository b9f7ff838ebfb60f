import LinkAdaptation.Json.Basic
import LinkAdaptation.Radio.Capabilities
import LinkAdaptation.Text.Blank
import LinkAdaptation.Text.Quoted
/-!
# Wi-Fi standards

What a radio with one stream that runs a given amendment can do.

| Standard        | Legacy rates    | MCS generations | Width | Default mode |
|-----------------|-----------------|-----------------|-------|--------------|
| 802.11a         | OFDM            |                 | 20    | OFDM 6       |
| 802.11b         | DSSS            |                 | 22    | DSSS 1       |
| 802.11g         | DSSS, ERP-OFDM  |                 | 20    | DSSS 1       |
| 802.11n-2.4ghz  | DSSS, ERP-OFDM  | HT              | 20    | DSSS 1       |
| 802.11n-5ghz    | OFDM            | HT              | 20    | OFDM 6       |
| 802.11ac        | OFDM            | HT, VHT         | 80    | OFDM 6       |
| 802.11ax-2.4ghz | DSSS, ERP-OFDM  | HT, HE          | 20    | DSSS 1       |
| 802.11ax-5ghz   | OFDM            | HT, VHT, HE     | 80    | OFDM 6       |
-/
namespace LinkAdaptation

inductive Standard where
  | a
  | b
  | g
  | nLowBand
  | nHighBand
  | ac
  | axLowBand
  | axHighBand
deriving DecidableEq

namespace Standard

def all : List Standard :=
  [.a, .b, .g, .nLowBand, .nHighBand, .ac, .axLowBand, .axHighBand]

def name : Standard → String
  | .a => "802.11a"
  | .b => "802.11b"
  | .g => "802.11g"
  | .nLowBand => "802.11n-2.4ghz"
  | .nHighBand => "802.11n-5ghz"
  | .ac => "802.11ac"
  | .axLowBand => "802.11ax-2.4ghz"
  | .axHighBand => "802.11ax-5ghz"

def named? (name : String) : Option Standard :=
  all.find? (·.name == name)

/-- **The standard a text names**, whatever its blanks at the ends and the case of its letters. -/
def parse? (text : String) : Option Standard :=
  named? (Text.lowered (Text.trimmed text))

def unknownMessage (text : String) : String :=
  "Unknown Wi-Fi standard " ++ Text.quoted text

def toJson (s : Standard) : Json :=
  .str s.name

/-- A standard is a string with exactly its name, or an object whose one member has that name and no value. -/
def ofJson? : Json → Option Standard
  | .str name => named? name
  | .obj [(name, .null)] => named? name
  | _ => none

def isLowBand : Standard → Bool
  | .b | .g | .nLowBand | .axLowBand => true
  | _ => false

def supportsHt : Standard → Bool
  | .a | .b | .g => false
  | _ => true

def supportsVht : Standard → Bool
  | .ac | .axHighBand => true
  | _ => false

def supportsHe : Standard → Bool
  | .axLowBand | .axHighBand => true
  | _ => false

def legacyModes (s : Standard) : List Mode :=
  if s = .b then Catalog.dsss
  else if s.isLowBand then Catalog.dsss ++ Catalog.erpOfdm
  else Catalog.ofdm

def basicModes (s : Standard) : List Mode :=
  if s = .b then Catalog.dsss.take 2
  else if s.isLowBand then Catalog.dsss
  else [Mode.ofdmRate .ofdm 0 6 2 .half, Mode.ofdmRate .ofdm 2 12 4 .half, Mode.ofdmRate .ofdm 4 24 16 .half]

def modes (s : Standard) : List Mode :=
  s.legacyModes ++ (if s.supportsHt then Catalog.ht else []) ++ (if s.supportsVht then Catalog.vht else []) ++
    (if s.supportsHe then Catalog.he else [])

def widthMHz : Standard → Nat
  | .b => 22
  | .ac | .axHighBand => 80
  | _ => 20

/-- **What a radio with one stream that runs the standard can do.** -/
def device (s : Standard) : Device where
  modes := s.modes
  ht := s.supportsHt
  vht := s.supportsVht
  he := s.supportsHe
  widthMHz := s.widthMHz
  streams := 1
  shortGuard := false
  heGuardNs := longGuardNs
  basicModes := s.basicModes
  defaultMode := if s.isLowBand then Catalog.slowestDsss else Catalog.slowestOfdm

end Standard
end LinkAdaptation

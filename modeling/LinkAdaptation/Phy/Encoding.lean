import LinkAdaptation.Phy.TxVector
import LinkAdaptation.Json.Basic
import LinkAdaptation.Text.Quoted
/-!
# Modes and configurations in reports

The JSON objects of a mode and of a configuration, and the texts that show all their fields in a diagnosis.
-/
namespace LinkAdaptation

namespace Mode

def toJson (m : Mode) : Json :=
  .obj [("name", .str m.name), ("class", .str m.modulation.name), ("mcs", .nat m.index),
    ("constellation", .nat m.constellation), ("code_rate", .str m.codeRate.name),
    ("fixed_rate_bps", .nat m.fixedRate)]

/-- All fields, for a diagnosis. -/
def inspected (m : Mode) : String :=
  "TransmissionMode \x7b name: " ++ Text.quoted m.name ++ ", class: " ++ m.modulation.name ++ ", mcs: " ++
    toString m.index ++ ", constellation: " ++ toString m.constellation ++ ", code_rate: " ++ m.codeRate.name ++
    ", fixed_rate_bps: " ++ toString m.fixedRate ++ " \x7d"

end Mode

namespace TxVector

def toJson (v : TxVector) : Json :=
  .obj [("mode", v.mode.toJson), ("nss", .nat v.streams), ("guard_interval_ns", .nat v.guardNs),
    ("channel_width_mhz", .nat v.widthMHz)]

def inspected (v : TxVector) : String :=
  "TxConfig \x7b mode: " ++ v.mode.inspected ++ ", nss: " ++ toString v.streams ++ ", guard_interval_ns: " ++
    toString v.guardNs ++ ", channel_width_mhz: " ++ toString v.widthMHz ++ " \x7d"

end TxVector
end LinkAdaptation

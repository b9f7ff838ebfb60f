import LinkAdaptation.Station.Record
/-!
# Feedback

What the MAC reports about frames sent to a station.  Three reports carry the SNR that the station observed: the
answer to an RTS frame is believed whatever it says, the answers to data frames only if they carry a finite positive
SNR (0 stands for "not measured").
-/
namespace LinkAdaptation

inductive Feedback where
  /-- A frame of the station was received. -/
  | frameHeard (heardSnr : Float)
  | rtsAnswered (ctsSnr rtsSnr : Float)
  | dataAnswered (ackSnr dataSnr : Float)
  /-- The answer to a frame that holds several others. -/
  | aggregateAnswered (arrived lost : Nat) (heardSnr dataSnr : Float)
  | rtsFailed
  | dataFailed
  /-- No further RTS frame will be tried. -/
  | rtsAbandoned
  /-- The data frame will not be tried again. -/
  | dataAbandoned

inductive Effect where
  | updated
  | discarded
  | ignored
deriving DecidableEq

def Effect.name : Effect → String
  | .updated => "Updated"
  | .discarded => "Discarded"
  | .ignored => "Ignored"

namespace Station

def observe (s : Station) (snr : Float) : Station :=
  { s with observed := snr }.count fun c => { c with snrUpdates := c.snrUpdates + 1 }

/-- Counts a reported SNR that cannot be used. -/
def discard (s : Station) : Station :=
  s.count fun c => { c with discardedReports := c.discardedReports + 1 }

/-- Whether the SNR of a data frame is a measurement. -/
def isMeasured (snr : Float) : Bool :=
  snr.isFinite && 0.0 < snr

def observeMeasured (s : Station) (snr : Float) : Station × Effect :=
  if isMeasured snr then (s.observe snr, .updated) else (s.discard, .discarded)

/-- **Applies a report.** -/
def apply (s : Station) : Feedback → Station × Effect
  | .rtsAnswered _ rtsSnr => (s.observe rtsSnr, .updated)
  | .dataAnswered _ dataSnr => s.observeMeasured dataSnr
  | .aggregateAnswered _ _ _ dataSnr => s.observeMeasured dataSnr
  | .frameHeard _ | .rtsFailed | .dataFailed | .rtsAbandoned | .dataAbandoned => (s, .ignored)

end Station

/-! ## Reports as JSON

A report is an object whose member `event` names the kind of report and whose other members are its values; members
that the kind does not know are passed over.  A list of the kind and the values in their order says the same. -/

namespace Feedback

def toJson : Feedback → Json
  | .frameHeard heard => .obj [("event", .str "rx_ok"), ("rx_snr", Json.ofFloat heard)]
  | .rtsAnswered cts rts =>
    .obj [("event", .str "rts_ok"), ("cts_snr", Json.ofFloat cts), ("rts_snr", Json.ofFloat rts)]
  | .dataAnswered ack data =>
    .obj [("event", .str "data_ok"), ("ack_snr", Json.ofFloat ack), ("data_snr", Json.ofFloat data)]
  | .aggregateAnswered arrived lost heard data =>
    .obj [("event", .str "aggregate_status"), ("n_success", .nat arrived), ("n_failed", .nat lost),
      ("rx_snr", Json.ofFloat heard), ("data_snr", Json.ofFloat data)]
  | .rtsFailed => .obj [("event", .str "rts_failed")]
  | .dataFailed => .obj [("event", .str "data_failed")]
  | .rtsAbandoned => .obj [("event", .str "final_rts_failed")]
  | .dataAbandoned => .obj [("event", .str "final_data_failed")]

/-- The values that a kind of report needs, in order. -/
def fieldsOf? : String → Option (List String)
  | "rx_ok" => some ["rx_snr"]
  | "rts_ok" => some ["cts_snr", "rts_snr"]
  | "data_ok" => some ["ack_snr", "data_snr"]
  | "aggregate_status" => some ["n_success", "n_failed", "rx_snr", "data_snr"]
  | "rts_failed" | "data_failed" | "final_rts_failed" | "final_data_failed" => some []
  | _ => none

/-- A number that binary64 holds. -/
def finite? (x : Float) : Option Float :=
  if x.isFinite then some x else none

/-- An SNR is any number, whole or not. -/
def snr? : Json → Option Float
  | .int n => finite? (Float.ofInt n)
  | .real x => finite? x
  | _ => none

/-- A count of frames is a whole number of 16 bits. -/
def frames? : Json → Option Nat
  | .int n => if 0 ≤ n ∧ n < 65536 then some n.toNat else none
  | _ => none

/-- The report of a kind with its values in order. -/
def build? : String → List Json → Option Feedback
  | "rx_ok", [heard] => do return .frameHeard (← snr? heard)
  | "rts_ok", [cts, rts] => do return .rtsAnswered (← snr? cts) (← snr? rts)
  | "data_ok", [ack, data] => do return .dataAnswered (← snr? ack) (← snr? data)
  | "aggregate_status", [arrived, lost, heard, data] => do
    return .aggregateAnswered (← frames? arrived) (← frames? lost) (← snr? heard) (← snr? data)
  | "rts_failed", [] => some .rtsFailed
  | "data_failed", [] => some .dataFailed
  | "final_rts_failed", [] => some .rtsAbandoned
  | "final_data_failed", [] => some .dataAbandoned
  | _, _ => none

/-- **Reads a report.** -/
def ofJson? : Json → Option Feedback
  | .obj members => do
    let .str kind ← members.lookup "event" | none
    let values ← (← fieldsOf? kind).mapM fun name => members.lookup name
    build? kind values
  | .arr (.str kind :: values) => build? kind values
  | _ => none

end Feedback
end LinkAdaptation

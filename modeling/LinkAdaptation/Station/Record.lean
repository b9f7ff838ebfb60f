import LinkAdaptation.Phy.Encoding
import LinkAdaptation.Radio.Capabilities
import LinkAdaptation.Station.Address
/-!
# Stations

What is kept about one peer: what it can do, the SNR it was last heard to receive at, and the last configuration that
was found for it together with the SNR it was found for.  That configuration may be used again exactly while the SNR
is still the same.
-/
namespace LinkAdaptation

structure Counters where
  /-- Data selections that searched. -/
  freshSearches : Nat := 0
  /-- Data selections answered without a search. -/
  cacheHits : Nat := 0
  /-- Searches that found nothing. -/
  fallbacks : Nat := 0
  /-- Rate changes told to observers. -/
  rateChanges : Nat := 0
  /-- SNR reports taken. -/
  snrUpdates : Nat := 0
  /-- SNR reports that could not be used. -/
  discardedReports : Nat := 0
deriving DecidableEq

structure Station where
  address : MacAddress
  capabilities : Capabilities
  /-- The last SNR taken from a report, 0 before the first one. -/
  observed : Float
  /-- The SNR that the cached configuration was found for. -/
  used : Option Float
  cached : Option TxVector
  /-- The rate of the last configuration found, 0 before the first one. -/
  cachedRate : Nat
  counters : Counters

namespace Station

def fresh (address : MacAddress) (capabilities : Capabilities) : Station where
  address := address
  capabilities := capabilities
  observed := 0.0
  used := none
  cached := none
  cachedRate := 0
  counters := {}

/-- The cached configuration must not be used again. -/
def forgetChoice (s : Station) : Station :=
  { s with used := none }

/-- New capabilities make the cached configuration unusable. -/
def readvertise (s : Station) (capabilities : Capabilities) : Station :=
  { s with capabilities := capabilities, used := none }

/-- Whether the cached configuration was found for exactly the SNR observed now. -/
def isCacheValid (s : Station) : Bool :=
  s.cached.isSome && s.used == some s.observed

/-- The cached configuration while it may be used. -/
def reusable? (s : Station) : Option TxVector :=
  if s.isCacheValid then s.cached else none

def remember (s : Station) (v : TxVector) (rate : Nat) : Station :=
  { s with used := some s.observed, cached := some v, cachedRate := rate }

def count (s : Station) (f : Counters → Counters) : Station :=
  { s with counters := f s.counters }

def countersJson (c : Counters) : Json :=
  .obj [("fresh_searches", .nat c.freshSearches), ("cache_hits", .nat c.cacheHits), ("fallbacks", .nat c.fallbacks),
    ("rate_changes", .nat c.rateChanges), ("snr_updates", .nat c.snrUpdates),
    ("discarded_reports", .nat c.discardedReports)]

def toJson (s : Station) : Json :=
  .obj [("address", s.address.toJson), ("last_snr_observed", Json.ofFloat s.observed),
    ("cached_mode", Json.ofOption (fun v => .str v.mode.name) s.cached),
    ("cached_config", Json.ofOption TxVector.toJson s.cached), ("cached_data_rate_bps", .nat s.cachedRate),
    ("cache_valid", .bool s.isCacheValid), ("stats", countersJson s.counters)]

end Station
end LinkAdaptation

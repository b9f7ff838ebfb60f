import LinkAdaptation.Snr.Decibel
import LinkAdaptation.Station.Registry
/-!
# Metrics

The state of all stations in the text exposition format: one family of samples after the other, each with its help
text and its kind, and within a family one sample per station by ascending address.
-/
namespace LinkAdaptation
namespace Metrics

/-- A family of samples, one for each station. -/
structure Family where
  name : String
  help : String
  kind : String
  value : Station → String

/-- The SNR in decibels to three places; one that is not positive has none. -/
def decibelText (snr : Float) : String :=
  if 0.0 < snr then Decimal.fixedText 3 (Decibel.ofRatio snr) else "NaN"

def families : List Family :=
  [⟨"rateadapt_station_snr_db", "Last observed SNR in dB.", "gauge", fun s => decibelText s.observed⟩,
   ⟨"rateadapt_station_data_rate_bps", "Data rate of the last fresh selection in bits per second.", "gauge",
     fun s => toString s.cachedRate⟩,
   ⟨"rateadapt_station_cache_valid",
     "Whether the cached configuration matches the observed SNR (1) or not (0).", "gauge",
     fun s => if s.isCacheValid then "1" else "0"⟩,
   ⟨"rateadapt_station_searches_total", "Data selections that ran a tier search.", "counter",
     fun s => toString s.counters.freshSearches⟩,
   ⟨"rateadapt_station_cache_hits_total", "Data selections answered from the cache.", "counter",
     fun s => toString s.counters.cacheHits⟩,
   ⟨"rateadapt_station_fallbacks_total", "Searches that returned the default configuration.", "counter",
     fun s => toString s.counters.fallbacks⟩,
   ⟨"rateadapt_station_rate_changes_total", "Rate-change notifications emitted.", "counter",
     fun s => toString s.counters.rateChanges⟩,
   ⟨"rateadapt_station_discarded_reports_total", "SNR reports discarded as unusable.", "counter",
     fun s => toString s.counters.discardedReports⟩]

def heading (name help kind : String) : List String :=
  ["# HELP " ++ name ++ " " ++ help, "# TYPE " ++ name ++ " " ++ kind]

def sample (name : String) (labels : List (String × String)) (value : String) : String :=
  let label := fun (l : String × String) => l.1 ++ "=\"" ++ l.2 ++ "\""
  name ++ "\x7b" ++ String.intercalate "," (labels.map label) ++ "\x7d " ++ value

def Family.lines (f : Family) (stations : List Station) : List String :=
  heading f.name f.help f.kind ++ stations.map fun s => sample f.name [("peer", s.address.toText)] (f.value s)

def countLines (stations : List Station) : List String :=
  heading "rateadapt_stations" "Registered stations." "gauge" ++ ["rateadapt_stations " ++ toString stations.length]

/-- The mode of the last configuration found, as a label, for the stations that have one. -/
def modeLines (stations : List Station) : List String :=
  heading "rateadapt_station_mode" "Mode of the last fresh selection." "gauge" ++
    stations.filterMap fun s => s.cached.map fun v =>
      sample "rateadapt_station_mode" [("peer", s.address.toText), ("mode", v.mode.name)] "1"

def lines (stations : List Station) : List String :=
  countLines stations ++ families.flatMap (·.lines stations) ++ modeLines stations

/-- **The metrics of a registry**, every line ended. -/
def render (r : Registry) : String :=
  String.join ((lines r.byAscendingAddress).map (· ++ "\n"))

end Metrics
end LinkAdaptation

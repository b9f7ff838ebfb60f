import LinkAdaptation.Control.Link
import LinkAdaptation.Control.RateChange
import LinkAdaptation.Station.Record
/-!
# Selecting a configuration

Data frames get the fastest configuration whose threshold lies strictly below the observed SNR, from the first
generation that has one; protective frames get the basic mode with the highest threshold below it.  Of equals the
earlier one stays.  When nothing clears the SNR the device's default mode is used.
-/
namespace LinkAdaptation

/-- The first element that no other one beats. -/
def firstBest (beats : α → α → Bool) (l : List α) : Option α :=
  l.foldl (fun best a => match best with
    | some b => if beats a b then some a else some b
    | none => some a) none

structure Candidate where
  vector : TxVector
  threshold : Float

namespace Candidate

def dataRate (c : Candidate) : Nat :=
  c.vector.dataRate

def clears (c : Candidate) (snr : Float) : Bool :=
  c.threshold < snr

def isFaster (a b : Candidate) : Bool :=
  b.dataRate < a.dataRate

def isHigher (a b : Candidate) : Bool :=
  b.threshold < a.threshold

end Candidate

namespace Thresholds

def price (t : Thresholds) (vs : List TxVector) : Except MissingThreshold (List Candidate) :=
  vs.mapM fun v => do return ⟨v, ← t.get v⟩

/-- **The fastest configuration of a generation that clears an SNR.** -/
def fastest (t : Thresholds) (d : Device) (peer : Capabilities) (snr : Float) (g : Generation) :
    Except MissingThreshold (Option Candidate) := do
  let priced ← t.price (d.candidates peer g)
  return firstBest Candidate.isFaster (priced.filter (·.clears snr))

/-- **A search without any memory**: the answer of the first generation that has one. -/
def search (t : Thresholds) (d : Device) (peer : Capabilities) (snr : Float) :
    Except MissingThreshold (Option Candidate) :=
  (d.generations peer).findSomeM? (t.fastest d peer snr)

/-- **The basic mode with the highest threshold below an SNR.** -/
def mostProtective (t : Thresholds) (d : Device) (snr : Float) : Except MissingThreshold (Option Candidate) := do
  let priced ← t.price (d.basicModes.map TxVector.legacy)
  return firstBest Candidate.isHigher (priced.filter (·.clears snr))

end Thresholds

structure Selector where
  device : Device
  thresholds : Thresholds
  observers : Observers

structure Selection where
  vector : TxVector
  station : Station
  change : Option RateChange

namespace Selector

/-- **A selector for a device without fault.** -/
def build (d : Device) (model : ErrorModel) (target : Float) : Except SetupFault Selector :=
  match d.fault? with
  | some fault => .error fault
  | none => do return ⟨d, ← Thresholds.build d model target, {}⟩

/-- What is used when nothing clears the SNR. -/
def fallback (s : Selector) : TxVector :=
  .legacy s.device.defaultMode

def subscribe (s : Selector) (observer : Observer) : Selector :=
  { s with observers := s.observers.subscribe observer }

def hangUp (s : Selector) (place : Nat) : Selector :=
  { s with observers := s.observers.hangUp place }

/-- The cached configuration, used again. -/
def reuse (st : Station) (v : TxVector) : Selection :=
  ⟨v, st.count fun c => { c with cacheHits := c.cacheHits + 1 }, none⟩

/-- Nothing was found: the choice kept in the station stays as it is. -/
def fallBack (s : Selector) (st : Station) : Selection :=
  ⟨s.fallback,
    st.count fun c => { c with freshSearches := c.freshSearches + 1, fallbacks := c.fallbacks + 1 }, none⟩

/-- A configuration was found; a rate other than the last one is a change. -/
def adopt (st : Station) (found : Candidate) : Selection :=
  let kept := st.remember found.vector found.dataRate
  if st.cachedRate = found.dataRate then
    ⟨found.vector, kept.count fun c => { c with freshSearches := c.freshSearches + 1 }, none⟩
  else
    ⟨found.vector,
      kept.count fun c => { c with freshSearches := c.freshSearches + 1, rateChanges := c.rateChanges + 1 },
      some ⟨st.address, st.cachedRate, found.dataRate⟩⟩

/-- **The configuration for a data frame**: the cached one while the SNR is the same, else the outcome of a search. -/
def selectData (s : Selector) (st : Station) : Except MissingThreshold Selection :=
  match st.reusable? with
  | some v => .ok (reuse st v)
  | none => do
    match ← s.thresholds.search s.device st.capabilities st.observed with
    | some found => return adopt st found
    | none => return s.fallBack st

/-- **The configuration for a protective frame**; nothing but the observed SNR matters. -/
def selectRts (s : Selector) (st : Station) : Except MissingThreshold TxVector := do
  match ← s.thresholds.mostProtective s.device st.observed with
  | some found => return found.vector
  | none => return s.fallback

def inspected (s : Selector) : String :=
  "RateSelector \x7b thresholds: " ++ toString s.thresholds.size ++ ", observers: " ++ s.observers.inspected ++
    ", default_config: " ++ s.fallback.inspected ++ " \x7d"

end Selector
end LinkAdaptation

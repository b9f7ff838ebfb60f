import LinkAdaptation.Station.Record
import LinkAdaptation.Station.Slots
/-!
# The registry of stations

Stations are reached by the handle they got when they registered or by their address.  A station that registers again
keeps its handle and its history; its capabilities are replaced.
-/
namespace LinkAdaptation

/-- The number of a station's cell; it may be given out again once the station is gone. -/
structure Handle where
  index : Nat
deriving DecidableEq

structure Registry where
  slots : Slots Station := {}
  byAddress : List (MacAddress × Handle) := []

namespace Registry

def get? (r : Registry) (h : Handle) : Option Station :=
  r.slots.get? h.index

def handleOf? (r : Registry) (a : MacAddress) : Option Handle :=
  r.byAddress.lookup a

def contains (r : Registry) (h : Handle) : Bool :=
  (r.get? h).isSome

def modify (r : Registry) (h : Handle) (f : Station → Station) : Registry :=
  { r with slots := r.slots.modify h.index f }

def enrol (r : Registry) (a : MacAddress) (capabilities : Capabilities) : Handle × Registry :=
  let h : Handle := ⟨r.slots.nextCell⟩
  (h, ⟨r.slots.insert (Station.fresh a capabilities), (a, h) :: r.byAddress.filter (·.1 ≠ a)⟩)

/-- **Registers an address**; a known one keeps its handle. -/
def register (r : Registry) (a : MacAddress) (capabilities : Capabilities) : Handle × Registry :=
  match r.handleOf? a with
  | some h => if r.contains h then (h, r.modify h (·.readvertise capabilities)) else r.enrol a capabilities
  | none => r.enrol a capabilities

/-- **Removes a station**, which is handed back. -/
def deregister (r : Registry) (h : Handle) : Option (Station × Registry) :=
  (r.get? h).map fun s => (s, ⟨r.slots.erase h.index, r.byAddress.filter (·.1 ≠ s.address)⟩)

def size (r : Registry) : Nat :=
  r.slots.size

/-- The stations with their handles, by ascending handle. -/
def toList (r : Registry) : List (Handle × Station) :=
  r.slots.toList.map fun (i, s) => (⟨i⟩, s)

/-- The stations by ascending address. -/
def byAscendingAddress (r : Registry) : List Station :=
  (r.toList.map (·.2)).mergeSort fun s t => !t.address.precedes s.address

def toJson (r : Registry) : Json :=
  .arr (r.byAscendingAddress.map Station.toJson)

end Registry
end LinkAdaptation

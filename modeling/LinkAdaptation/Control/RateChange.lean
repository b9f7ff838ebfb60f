import LinkAdaptation.Station.Address
/-!
# Rate changes

Observers are told, in the order in which they subscribed, when a search settles on another rate than the one before.
Calling an observer back reaches it at once; sending on a channel reaches it unless the other end is gone, and then the
change is dropped without harm to the others.  The other end may go at any time, and it does not come back.
-/
namespace LinkAdaptation

/-- One change of a station's data rate; the first one after registration starts from 0. -/
structure RateChange where
  address : MacAddress
  oldRate : Nat
  newRate : Nat
deriving DecidableEq

inductive Observer where
  | callback
  | channel
  /-- A channel that nobody listens to any more. -/
  | closedChannel
deriving DecidableEq

def Observer.listens : Observer → Bool
  | .closedChannel => false
  | _ => true

/-- What becomes of an observer when the other end of its channel goes away; a callback has no other end. -/
def Observer.hungUp : Observer → Observer
  | .channel => .closedChannel
  | observer => observer

/-- The observers in the order in which they subscribed; an observer is known by its place. -/
structure Observers where
  all : List Observer := []
deriving DecidableEq

namespace Observers

def subscribe (o : Observers) (observer : Observer) : Observers :=
  ⟨o.all ++ [observer]⟩

/-- The receiver of the observer in a place goes away; the observer keeps its place. -/
def hangUp (o : Observers) (place : Nat) : Observers :=
  ⟨o.all.modify place Observer.hungUp⟩

def size (o : Observers) : Nat :=
  o.all.length

/-- **Who hears of a change**, in the order of delivery. -/
def notify (o : Observers) (change : RateChange) : List (Nat × RateChange) :=
  o.all.zipIdx.filterMap fun (observer, place) => if observer.listens then some (place, change) else none

def inspected (o : Observers) : String :=
  "RateObservers \x7b count: " ++ toString o.size ++ " \x7d"

end Observers
end LinkAdaptation

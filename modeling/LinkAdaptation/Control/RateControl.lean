import LinkAdaptation.Control.Selector
import LinkAdaptation.Station.Feedback
import LinkAdaptation.Station.Registry
/-!
# Rate control

The selector of one radio together with the stations it sends to.  Everything that happens is an action; performing
one gives the next state, an answer, and the rate change if there was one.
-/
namespace LinkAdaptation

structure RateControl where
  selector : Selector
  stations : Registry

inductive Action where
  | register (address : MacAddress) (capabilities : Capabilities)
  | update (handle : Handle) (capabilities : Capabilities)
  | deregister (handle : Handle)
  | report (handle : Handle) (feedback : Feedback)
  | reportFrom (address : MacAddress) (feedback : Feedback)
  | selectData (handle : Handle)
  | selectRts (handle : Handle)
  | subscribe (observer : Observer)
  /-- The receiver of the observer in a place goes away. -/
  | hangUp (place : Nat)

inductive Answer where
  | registered (handle : Handle)
  /-- Whether there was such a station, or such an observer. -/
  | known (wasKnown : Bool)
  | removed (station : Option Station)
  | effect (effect : Option Effect)
  | vector (vector : Option TxVector)
  | subscribed (place : Nat)

/-- What an action led to; `told` says who heard of the change, in the order of delivery. -/
structure Outcome where
  next : RateControl
  answer : Answer
  change : Option RateChange
  told : List (Nat × RateChange)

namespace RateControl

/-- **Rate control for a device**, without any station yet. -/
def build (d : Device) (model : ErrorModel) (target : Float) : Except SetupFault RateControl := do
  return ⟨← Selector.build d model target, {}⟩

/-- An action that changes nothing but the stations. -/
def answering (r : RateControl) (stations : Registry) (answer : Answer) : Outcome :=
  ⟨{ r with stations := stations }, answer, none, []⟩

def report (r : RateControl) (h : Handle) (f : Feedback) : Outcome :=
  match r.stations.get? h with
  | some st => r.answering (r.stations.modify h fun s => (s.apply f).1) (.effect (some (st.apply f).2))
  | none => r.answering r.stations (.effect none)

def selectData (r : RateControl) (h : Handle) : Except MissingThreshold Outcome :=
  match r.stations.get? h with
  | some st => do
    let chosen ← r.selector.selectData st
    return ⟨{ r with stations := r.stations.modify h fun _ => chosen.station }, .vector (some chosen.vector),
      chosen.change, chosen.change.toList.flatMap r.selector.observers.notify⟩
  | none => .ok (r.answering r.stations (.vector none))

def selectRts (r : RateControl) (h : Handle) : Except MissingThreshold Outcome :=
  match r.stations.get? h with
  | some st => do return r.answering r.stations (.vector (some (← r.selector.selectRts st)))
  | none => .ok (r.answering r.stations (.vector none))

/-- **Performs one action.** -/
def perform (r : RateControl) : Action → Except MissingThreshold Outcome
  | .register a capabilities =>
    let (h, stations) := r.stations.register a capabilities
    .ok (r.answering stations (.registered h))
  | .update h capabilities =>
    .ok (r.answering (r.stations.modify h (·.readvertise capabilities)) (.known (r.stations.contains h)))
  | .deregister h =>
    match r.stations.deregister h with
    | some (st, stations) => .ok (r.answering stations (.removed (some st)))
    | none => .ok (r.answering r.stations (.removed none))
  | .report h f => .ok (r.report h f)
  | .reportFrom a f =>
    match r.stations.handleOf? a with
    | some h => .ok (r.report h f)
    | none => .ok (r.answering r.stations (.effect none))
  | .selectData h => r.selectData h
  | .selectRts h => r.selectRts h
  | .subscribe observer =>
    .ok ⟨{ r with selector := r.selector.subscribe observer }, .subscribed r.selector.observers.size, none, []⟩
  | .hangUp place =>
    .ok ⟨{ r with selector := r.selector.hangUp place }, .known (place < r.selector.observers.size), none, []⟩

/-- **Performs actions in order**; the outcomes of all of them, the first one first. -/
def run (r : RateControl) : List Action → Except MissingThreshold (List Outcome)
  | [] => .ok []
  | action :: rest => do
    let outcome ← r.perform action
    return outcome :: (← run outcome.next rest)

/-- A selection never waits for anything. -/
def isLowLatency (_r : RateControl) : Bool :=
  true

end RateControl
end LinkAdaptation

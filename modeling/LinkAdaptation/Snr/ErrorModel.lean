import LinkAdaptation.Snr.Awgn
import LinkAdaptation.Snr.Search
/-!
# Error models

An error model says how likely a frame is to arrive at an SNR, and from which SNR on the error probability of a single
bit stays within a target.  The second follows from the first by search, unless a model knows better.
-/
namespace LinkAdaptation

structure ErrorModel where
  /-- The probability that so many bits arrive intact. -/
  chunkSuccess : TxVector → Float → Nat → Float
  /-- The least SNR at which a bit meets the target, if there is one. -/
  leastSnr : TxVector → Float → Option Float

namespace ErrorModel

def bitError (chunkSuccess : TxVector → Float → Nat → Float) (v : TxVector) (snr : Float) : Float :=
  1.0 - chunkSuccess v snr 1

/-- **The model of a success curve**: thresholds are searched for on a scale. -/
def searchedOn (scale : Search.Scale) (chunkSuccess : TxVector → Float → Nat → Float) : ErrorModel where
  chunkSuccess := chunkSuccess
  leastSnr := fun v target => Search.leastSnr scale (bitError chunkSuccess v) target

def searched (chunkSuccess : TxVector → Float → Nat → Float) : ErrorModel :=
  searchedOn Search.decades chunkSuccess

/-- White Gaussian noise. -/
def awgn : ErrorModel :=
  searched Awgn.chunkSuccess

end ErrorModel

/-! ## Steps -/

/-- One SNR per mode: below it nothing arrives, from it on everything does.  Modes are known by their names; a later
pair takes the place of an earlier one. -/
structure StepCurve where
  steps : List (String × Float)

namespace StepCurve

def empty : StepCurve :=
  ⟨[]⟩

def set (s : StepCurve) (m : Mode) (snr : Float) : StepCurve :=
  ⟨(m.name, snr) :: s.steps⟩

def threshold? (s : StepCurve) (m : Mode) : Option Float :=
  s.steps.lookup m.name

/-- A mode without a step never arrives. -/
def chunkSuccess (s : StepCurve) (v : TxVector) (snr : Float) (_bits : Nat) : Float :=
  match s.threshold? v.mode with
  | some step => if step ≤ snr then 1.0 else 0.0
  | none => 0.0

/-- **The model of a step curve**: its thresholds are the steps, whatever the target. -/
def model (s : StepCurve) : ErrorModel where
  chunkSuccess := s.chunkSuccess
  leastSnr := fun v _target => s.threshold? v.mode

end StepCurve
end LinkAdaptation

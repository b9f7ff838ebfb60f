import LinkAdaptation.Phy.Encoding
import LinkAdaptation.Radio.Fault
import LinkAdaptation.Snr.ErrorModel
/-!
# Thresholds

The least SNR of every configuration a device can put on air.  A threshold belongs to a mode, a number of streams and
a width; the guard interval it was solved at plays no part when it is looked up.

| Generation | Widths              | Streams           | Guard interval          |
|------------|---------------------|-------------------|-------------------------|
| legacy     | of the mode's class | 1                 | 800 ns                  |
| HT         | up to the device's  | of the index      | 400 ns if short, or 800 |
| VHT        | up to the device's  | 1 to the device's | 400 ns if short, or 800 |
| HE         | up to the device's  | 1 to the device's | the device's            |
-/
namespace LinkAdaptation

/-- What a threshold belongs to. -/
structure ThresholdKey where
  mode : Mode
  streams : Nat
  widthMHz : Nat
deriving DecidableEq

def ThresholdKey.inspected (k : ThresholdKey) : String :=
  "ThresholdKey \x7b mode: " ++ k.mode.inspected ++ ", nss: " ++ toString k.streams ++ ", channel_width_mhz: " ++
    toString k.widthMHz ++ " \x7d"

def TxVector.key (v : TxVector) : ThresholdKey :=
  ⟨v.mode, v.streams, v.widthMHz⟩

namespace Device

def vectorsAt (d : Device) (m : Mode) (widthMHz : Nat) : List TxVector :=
  match m.modulation with
  | .ht => [⟨m, m.htStreams, d.htGuardNs, widthMHz⟩]
  | .vht => (streamsUpTo d.streams).map fun n => ⟨m, n, d.htGuardNs, widthMHz⟩
  | .he => (streamsUpTo d.streams).map fun n => ⟨m, n, d.heGuardNs, widthMHz⟩
  | _ => []

/-- **Every configuration the device can put on air**, legacy ones first. -/
def vectors (d : Device) : List TxVector :=
  d.legacyModes.map TxVector.legacy ++
    if d.hasMcs then d.mcsModes.flatMap fun m => (widthsWithin d.widthMHz).flatMap (d.vectorsAt m) else []

end Device

/-- The first configuration of each key. -/
def distinctKeys : List TxVector → List TxVector
  | [] => []
  | v :: vs => v :: (distinctKeys vs).filter (·.key ≠ v.key)

structure Thresholds where
  entries : List (TxVector × Float)
  target : Float

structure MissingThreshold where
  key : ThresholdKey
deriving DecidableEq

def MissingThreshold.message (e : MissingThreshold) : String :=
  "no SNR threshold for " ++ e.key.inspected

namespace Thresholds

def defaultTarget : Float := 1e-5

/-- Strictly between 0 and 1; no number that is not one. -/
def isProbability (x : Float) : Bool :=
  0.0 < x && x < 1.0

/-- The threshold of one configuration: the least SNR has to be finite and not negative. -/
def solve (model : ErrorModel) (target : Float) (v : TxVector) : Except SetupFault (TxVector × Float) :=
  match model.leastSnr v target with
  | some snr => if snr.isFinite && 0.0 ≤ snr then .ok (v, snr) else .error (.unreachableThreshold v)
  | none => .error (.unreachableThreshold v)

/-- **Solves an error model** for every configuration of a device. -/
def build (d : Device) (model : ErrorModel) (target : Float) : Except SetupFault Thresholds :=
  if isProbability target then do
    let entries ← (distinctKeys d.vectors).mapM (solve model target)
    return ⟨entries, target⟩
  else .error (.invalidTarget target)

/-- The threshold of a configuration, whatever its guard interval. -/
def lookup? (t : Thresholds) (v : TxVector) : Option Float :=
  (t.entries.find? fun e => e.1.key = v.key).map (·.2)

/-- The threshold of a configuration that has to be there. -/
def get (t : Thresholds) (v : TxVector) : Except MissingThreshold Float :=
  match t.lookup? v with
  | some snr => .ok snr
  | none => .error ⟨v.key⟩

def size (t : Thresholds) : Nat :=
  t.entries.length

end Thresholds
end LinkAdaptation

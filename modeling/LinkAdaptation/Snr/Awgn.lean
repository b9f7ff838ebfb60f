import LinkAdaptation.Phy.TxVector
/-!
# Errors over a channel with white Gaussian noise

The bit error rate of a mode is the uncoded one of its constellation at an SNR raised by the gain of its code, or, for
DSSS and CCK, at the SNR raised by the spreading gain.  The formulas are written over any type of numbers with the
elementary functions they need, so that they can be read over an ordered field as well as run on `Float`.
-/
namespace LinkAdaptation

/-- The functions, beside the four operations, that an error curve is written with. -/
class Elementary (α : Type) where
  ofNat : Nat → α
  exp : α → α
  sqrt : α → α
  log2 : α → α
  pow : α → α → α

instance : Elementary Float where
  ofNat := Float.ofNat
  exp := Float.exp
  sqrt := Float.sqrt
  log2 := Float.log2
  pow := Float.pow

namespace Awgn

open Elementary (exp sqrt log2 pow)

variable {α : Type} [Add α] [Sub α] [Mul α] [Div α] [Neg α] [LT α] [DecidableLT α] [OfScientific α] [Elementary α]

/-! ## The tail of the normal distribution -/

/-- The approximation of the complementary error function at a number that is not negative, from the powers up to the
fifth of `1 / (1 + p x)`. -/
def erfcTail (x : α) : α :=
  let t : α := 1.0 / (1.0 + 0.3275911 * x)
  let series :=
    t * (0.254829592 + t * (-0.284496736 + t * (1.421413741 + t * (-1.453152027 + t * 1.061405429))))
  series * exp (-x * x)

def erfc (x : α) : α :=
  if x < 0.0 then 2.0 - erfcTail (-x) else erfcTail x

def sqrtTwo : α :=
  1.4142135623730951

/-- The probability that a standard normal variable exceeds `x`. -/
def normalTail (x : α) : α :=
  0.5 * erfc (x / sqrtTwo)

/-! ## Bit error rates -/

/-- The uncoded bit error rate of a constellation with Gray coding at an SNR per symbol. -/
def constellationErrorRate (constellation : Nat) (snr : α) : α :=
  if constellation ≤ 2 then normalTail (sqrt (2.0 * snr))
  else if constellation = 4 then normalTail (sqrt snr)
  else
    let m : α := Elementary.ofNat constellation
    4.0 / log2 m * (1.0 - 1.0 / sqrt m) * normalTail (sqrt (3.0 * snr / (m - 1.0)))

def codingGainDb : CodeRate → α
  | .uncoded => 0.0
  | .half => 5.5
  | .twoThirds => 4.5
  | .threeQuarters => 4.0
  | .fiveSixths => 3.5

def chipRate : α :=
  11000000.0

/-- The bit error rate before it is held within its bounds, at a positive SNR. -/
def rawErrorRate (m : Mode) (snr : α) : α :=
  match m.modulation with
  | .dsss | .hrDsss =>
    let bitRate : α := Elementary.ofNat (max (m.dataRate 22 longGuardNs 1) 1)
    normalTail (sqrt (2.0 * (snr * chipRate / bitRate)))
  | _ => constellationErrorRate m.constellation (snr * pow 10.0 (codingGainDb m.codeRate / 10.0))

/-- Between no error and a coin flip. -/
def held (rate : α) : α :=
  let rate := if rate < 0.0 then 0.0 else rate
  if 0.5 < rate then 0.5 else rate

/-- **The bit error rate of a mode**; without any signal every bit is a coin flip. -/
def bitErrorRate (m : Mode) (snr : α) : α :=
  if 0.0 < snr then held (rawErrorRate m snr) else 0.5

/-- **The probability that all of `bits` bits arrive intact.** -/
def chunkSuccess (v : TxVector) (snr : α) (bits : Nat) : α :=
  pow (1.0 - bitErrorRate v.mode snr) (Elementary.ofNat bits)

end Awgn
end LinkAdaptation

/-!
# The least SNR that meets a target

An error curve gives the error probability at each SNR.  The least SNR at which a falling curve meets a target is found
by bisection on a logarithmic axis: the axis holds the powers of ten, exact rationals from -10 to 10, and a scale gives
the SNR at each of its points.  Comparisons of probabilities are those of IEEE 754, so a curve may also be undefined
(not a number) at some SNRs.
-/
namespace LinkAdaptation
namespace Search

/-- The SNR at each point of the axis. -/
abbrev Scale := Rat → Float

/-- The power of ten.  The points that a search visits have few binary digits, so the quotient is exact. -/
def decades : Scale :=
  fun h => Float.pow 10.0 (Float.ofInt h.num / Float.ofNat h.den)

/-- A stretch of the axis. -/
structure Bracket where
  low : Rat
  high : Rat
deriving DecidableEq

namespace Bracket

def whole : Bracket :=
  ⟨-10, 10⟩

def width (b : Bracket) : Rat :=
  b.high - b.low

def middle (b : Bracket) : Rat :=
  b.low + b.width / 2

def isNarrow (b : Bracket) : Bool :=
  b.width < 1 / 1000000000000

/-- The half in which the error falls to the target: the upper one while it is still above the target in the middle. -/
def halve (error : Rat → Float) (target : Float) (b : Bracket) : Bracket :=
  if target < error b.middle then ⟨b.middle, b.high⟩ else ⟨b.low, b.middle⟩

/-- Halves until the bracket is narrow, `steps` times at most. -/
def refine (error : Rat → Float) (target : Float) : Nat → Bracket → Bracket
  | 0, b => b
  | steps + 1, b => if b.isNarrow then b else refine error target steps (b.halve error target)

end Bracket

def maxSteps : Nat := 200

/-- **The least SNR that meets the target**, on any scale: nothing if the upper end of the axis misses it, the lower end
if that meets it, else the upper end of the last bracket. -/
def leastSnr (scale : Scale) (curve : Float → Float) (target : Float) : Option Float :=
  let error := fun h => curve (scale h)
  if ¬ error Bracket.whole.high ≤ target then none
  else if error Bracket.whole.low ≤ target then some (scale Bracket.whole.low)
  else some (scale (Bracket.whole.refine error target maxSteps).high)

end Search
end LinkAdaptation

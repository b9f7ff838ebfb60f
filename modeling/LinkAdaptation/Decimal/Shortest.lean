import LinkAdaptation.Decimal.Basic
/-!
# The shortest decimal that reads back

All reals strictly between the midpoints to a number's two neighbours round to that number, and the midpoints do so
when its mantissa is even.  For one, two, … digits the two neighbours of the number on that decimal grid are tried; the
first grid with one of them inside the interval wins, and of two inside the nearer one.  Two may be equally near; which
of them is taken is up to whoever writes the number.
-/
namespace LinkAdaptation
namespace Decimal

/-- The interval that rounds to a number, in quarters of the number's unit in the last place. -/
structure Interval where
  low : Nat
  value : Nat
  high : Nat
  closed : Bool

def Interval.of (x : Magnitude) : Interval where
  low := 4 * x.mantissa - if x.tight then 1 else 2
  value := 4 * x.mantissa
  high := 4 * x.mantissa + 2
  closed := x.mantissa % 2 = 0

/-- Whether the whole number `c` lies in the interval once a quarter is worth `num / den`. -/
def Interval.holds (i : Interval) (num den c : Nat) : Bool :=
  if i.closed then i.low * num ≤ c * den && c * den ≤ i.high * num
  else i.low * num < c * den && c * den < i.high * num

/-- The better neighbour of `x` on the grid with `count` digits, if one reads back. -/
def onGrid? (tie : Tie) (x : Magnitude) (count : Nat) : Option Decimal :=
  let i := Interval.of x
  let (num, den) := fractionOf x.mantissa x.exponent
  let unit := leadingPower num den - (count - 1 : Nat)
  let (quarter, one) := fractionOf 1 (x.exponent - 2)
  let (n, d) := scaleDown quarter one unit
  let below := i.value * n / d
  match i.holds n d below, i.holds n d (below + 1) with
  | true, true => some ⟨roundDiv tie (i.value * n) d, unit⟩
  | true, false => some ⟨below, unit⟩
  | false, true => some ⟨below + 1, unit⟩
  | false, false => none

/-- **The shortest decimal that reads back**; seventeen digits always do. -/
def shortest (tie : Tie) (x : Magnitude) : Decimal :=
  (((List.range 17).findSome? fun i => onGrid? tie x (i + 1)).getD (significant 17 x)).stripped

end Decimal
end LinkAdaptation

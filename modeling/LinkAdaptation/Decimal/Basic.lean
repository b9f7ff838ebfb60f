/-!
# Decimals

A decimal is a coefficient and a power of ten.  A binary64 number is read off its bits as `mantissa · 2 ^ exponent`,
and all rounding to decimals is exact arithmetic on natural numbers: a positive rational is a pair `num / den`.
-/
namespace LinkAdaptation

/-- The number `coefficient · 10 ^ exponent`. -/
structure Decimal where
  coefficient : Nat
  exponent : Int
deriving DecidableEq

/-- The number `mantissa · 2 ^ exponent`; `tight` says that the next smaller binary64 number is half as far away as the
next larger one. -/
structure Magnitude where
  mantissa : Nat
  exponent : Int
  tight : Bool
deriving DecidableEq

/-- What the bits of a binary64 number say. -/
inductive Reading where
  | notNumber
  | infinite (negative : Bool)
  | zero (negative : Bool)
  | finite (negative : Bool) (magnitude : Magnitude)
deriving DecidableEq

namespace Reading

def ofBits (bits : Nat) : Reading :=
  let negative := Nat.pow 2 63 ≤ bits
  let field : Nat := bits / Nat.pow 2 52 % 2048
  let fraction : Nat := bits % Nat.pow 2 52
  if field = 2047 then
    if fraction = 0 then .infinite negative else .notNumber
  else if field = 0 then
    if fraction = 0 then .zero negative else .finite negative ⟨fraction, -1074, false⟩
  else .finite negative ⟨Nat.pow 2 52 + fraction, (field : Int) - 1075, fraction = 0 && 1 < field⟩

def ofFloat (x : Float) : Reading :=
  ofBits x.toBits.toNat

end Reading

namespace Decimal

/-- Where a number half way between two others goes. -/
inductive Tie where
  | toEven
  | upward
deriving DecidableEq

def Tie.settle : Tie → Nat → Nat
  | .toEven, n => n + n % 2
  | .upward, n => n + 1

def roundDiv (tie : Tie) (num den : Nat) : Nat :=
  let quotient := num / den
  let twice := 2 * (num % den)
  if twice < den then quotient
  else if den < twice then quotient + 1
  else tie.settle quotient

def scaleDown (num den : Nat) (e : Int) : Nat × Nat :=
  if 0 ≤ e then (num, den * Nat.pow 10 e.toNat) else (num * Nat.pow 10 (-e).toNat, den)

def fractionOf (m : Nat) (e : Int) : Nat × Nat :=
  if 0 ≤ e then (m * Nat.pow 2 e.toNat, 1) else (m, Nat.pow 2 (-e).toNat)

def digitsOf (n : Nat) : List Char :=
  Nat.toDigits 10 n

/-- The power of ten of the leading digit of a positive `num / den`. -/
def leadingPower (num den : Nat) : Int :=
  let guess : Int := (digitsOf num).length - (digitsOf den).length
  let (n, d) := scaleDown num den guess
  if d ≤ n then guess else guess - 1

/-- A positive number to `count` significant digits, a half to the even neighbour. -/
def significant (count : Nat) (x : Magnitude) : Decimal :=
  let (num, den) := fractionOf x.mantissa x.exponent
  let unit := leadingPower num den - (count - 1 : Nat)
  let (n, d) := scaleDown num den unit
  let q := roundDiv .toEven n d
  if q = Nat.pow 10 count then ⟨Nat.pow 10 (count - 1), unit + 1⟩ else ⟨q, unit⟩

/-- A positive number to `places` digits after the point, a half to the even neighbour. -/
def rounded (places : Nat) (x : Magnitude) : Decimal :=
  let (num, den) := fractionOf x.mantissa x.exponent
  ⟨roundDiv .toEven (num * Nat.pow 10 places) den, -(places : Int)⟩

def stripped (d : Decimal) : Decimal :=
  let zeros := ((digitsOf d.coefficient).reverse.takeWhile (· == '0')).length
  if d.coefficient = 0 then ⟨0, 0⟩ else ⟨d.coefficient / Nat.pow 10 zeros, d.exponent + zeros⟩

end Decimal
end LinkAdaptation

import LinkAdaptation.Decimal.Shortest
/-!
# Decimals as text

Three ways to write a number: with all its digits in place and no exponent, with a fixed number of places, and in
scientific form.  Signs stay on zeros, and numbers that are not finite have a word each.
-/
namespace LinkAdaptation
namespace Decimal

def zeros (n : Nat) : List Char :=
  List.replicate n '0'

/-- All digits in place, a point only where digits follow it. -/
def positional (d : Decimal) : List Char :=
  let ds := digitsOf d.coefficient
  if 0 ≤ d.exponent then ds ++ zeros d.exponent.toNat
  else
    let places := (-d.exponent).toNat
    let padded := zeros (places + 1 - ds.length) ++ ds
    padded.take (padded.length - places) ++ '.' :: padded.drop (padded.length - places)

def magnitudeOf (d : Decimal) : Int :=
  d.exponent + (digitsOf d.coefficient).length - 1

/-- One digit, a point and the other digits if there are any. -/
def pointAfterFirst : List Char → List Char
  | [] => []
  | [d] => [d]
  | d :: ds => d :: '.' :: ds

def integerText (n : Int) : List Char :=
  (toString n).toList

/-- One digit before the point, then `e` and the power of ten. -/
def scientific (d : Decimal) : List Char :=
  pointAfterFirst (digitsOf d.coefficient) ++ 'e' :: integerText d.magnitudeOf

def signed (negative : Bool) (cs : List Char) : String :=
  String.ofList (if negative then '-' :: cs else cs)

/-- The text of any binary64 number, from the texts of zero and of the positive finite ones. -/
def textWith (zero : List Char) (finite : Magnitude → List Char) (x : Float) : String :=
  match Reading.ofFloat x with
  | .notNumber => "NaN"
  | .infinite negative => signed negative ['i', 'n', 'f']
  | .zero negative => signed negative zero
  | .finite negative m => signed negative (finite m)

/-- **Shortest text without an exponent**, as messages show numbers; of two equally near ones the larger. -/
def plainText : Float → String :=
  textWith ['0'] fun m => (shortest .upward m).positional

/-- **Text with a fixed number of places**, a half going to the even digit. -/
def fixedText (places : Nat) : Float → String :=
  textWith (positional ⟨0, -(places : Int)⟩) fun m => (rounded places m).positional

/-- **Scientific text with a fixed number of significant digits**, a half going to the even digit. -/
def scientificText (count : Nat) : Float → String :=
  textWith ['0'] fun m => (significant count m).scientific

/-- The binary64 number nearest to a decimal, an infinity beyond the largest one. -/
def toFloat (d : Decimal) : Float :=
  let d := d.stripped
  if 400 < d.magnitudeOf then 1.0 / 0.0
  else if d.magnitudeOf < -400 then 0.0
  else if 0 ≤ d.exponent then Float.ofScientific d.coefficient false d.exponent.toNat
  else Float.ofScientific d.coefficient true (-d.exponent).toNat

end Decimal
end LinkAdaptation

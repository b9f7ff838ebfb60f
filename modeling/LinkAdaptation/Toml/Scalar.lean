import LinkAdaptation.Decimal.Text
import LinkAdaptation.Text.Digits
import LinkAdaptation.Toml.Value
/-!
# TOML scalars without quotes

Booleans, numbers, dates and times, each read from the whole run of characters it is written with.  Digits may be
grouped by single underscores; a decimal number has no zero in front.  A document is not refused for a number that is
too large, for a base without digits, or for what stands behind the first group of digits: such a run is a value that
cannot be read.
-/
namespace LinkAdaptation
namespace Toml

/-- The digits of a number without the underscores between them. -/
def ungrouped? (isDigit : Char → Bool) : List Char → Option (List Char)
  | [] => none
  | [c] => if isDigit c then some [c] else none
  | c :: '_' :: rest => if isDigit c then (ungrouped? isDigit rest).map (c :: ·) else none
  | c :: rest => if isDigit c then (ungrouped? isDigit rest).map (c :: ·) else none

/-- Decimal digits without a zero in front. -/
def wholeDigits? (cs : List Char) : Option (List Char) := do
  let ds ← ungrouped? Char.isDigit cs
  if ds.length != 1 && ds.head? == some '0' then none else some ds

/-- A sign, if there is one, and what follows it. -/
def splitSign : List Char → Option Bool × List Char
  | '+' :: rest => (some false, rest)
  | '-' :: rest => (some true, rest)
  | rest => (none, rest)

/-! ## Whole numbers -/

def inBase (base : Nat) (ds : List Char) : Option Nat :=
  ds.foldlM (fun n c => (Text.hexValue? c).map (base * n + ·)) 0

def Value.ofInt (n : Int) : Value :=
  if -Int.pow 2 127 ≤ n ∧ n < Int.pow 2 128 then .integer n else .unreadable

/-- A number in base 16, 8 or 2, which takes no sign. -/
def based? : List Char → Option Value
  | ['0', 'x'] | ['0', 'o'] | ['0', 'b'] => some .unreadable
  | '0' :: 'x' :: rest => do return .ofInt (← inBase 16 (← ungrouped? Text.isHex rest))
  | '0' :: 'o' :: rest => do return .ofInt (← inBase 8 (← ungrouped? (fun c => '0' ≤ c && c ≤ '7') rest))
  | '0' :: 'b' :: rest => do return .ofInt (← inBase 2 (← ungrouped? (fun c => c == '0' || c == '1') rest))
  | _ => none

def decimal? (cs : List Char) : Option Value := do
  let (sign, rest) := splitSign cs
  let n := Text.ofDecimal (← wholeDigits? rest)
  return .ofInt (if sign = some true then -(n : Int) else n)

/-! ## Real numbers -/

/-- A power of ten, whose digits may start with zeros. -/
def power? (cs : List Char) : Option Int := do
  let (sign, rest) := splitSign cs
  let n := Text.ofDecimal (← ungrouped? Char.isDigit rest)
  return if sign = some true then -(n : Int) else n

def isExponentMark (c : Char) : Bool :=
  c == 'e' || c == 'E'

def Value.ofFloat (x : Float) : Value :=
  if x.isFinite then .float x else .unreadable

/-- Digits with a fraction, a power of ten or both. -/
def positiveReal? (cs : List Char) : Option Float := do
  let significand := cs.takeWhile (!isExponentMark ·)
  let whole ← wholeDigits? (significand.takeWhile (· != '.'))
  let places ← match significand.dropWhile (· != '.') with
    | _ :: rest => ungrouped? Char.isDigit rest
    | [] => some []
  let power ← match cs.dropWhile (!isExponentMark ·) with
    | _ :: rest => power? rest
    | [] => if places.isEmpty then none else some 0
  return Decimal.toFloat ⟨Text.ofDecimal (whole ++ places), power - places.length⟩

def real? (cs : List Char) : Option Value :=
  let (sign, rest) := splitSign cs
  let signed (x : Float) := if sign = some true then -x else x
  match rest with
  | ['i', 'n', 'f'] => some (.float (signed (1.0 / 0.0)))
  | ['n', 'a', 'n'] => some (.float (signed (0.0 / 0.0)))
  | _ => (positiveReal? rest).map fun x => Value.ofFloat (signed x)

/-! ## What only starts like a number -/

/-- Whether each underscore stands between two digits, those of base 16 included. -/
def isGrouped (cs : List Char) : Bool :=
  cs.head? != some '_' && cs.getLast? != some '_' &&
    (cs.zip cs.tail).all fun (a, b) => (a != '_' || Text.isHex b) && (b != '_' || Text.isHex a)

/-- Whether a run starts with a group of decimal digits and an underscore, with no blank, point or power of ten in
it. -/
def startsGrouped (cs : List Char) : Bool :=
  let (_, rest) := splitSign cs
  rest.head? != some '0' && rest.head?.any Char.isDigit && (rest.dropWhile Char.isDigit).head? == some '_' &&
    isGrouped rest && !rest.any fun c => c == ' ' || c == '.' || isExponentMark c

/-! ## Dates and times -/

def twoDigits? : List Char → Option (Nat × List Char)
  | a :: b :: rest => if a.isDigit && b.isDigit then some (Text.ofDecimal [a, b], rest) else none
  | _ => none

def isLeapYear (year : Nat) : Bool :=
  year % 4 = 0 && (year % 100 ≠ 0 || year % 400 = 0)

def daysOf (year month : Nat) : Nat :=
  if month = 2 then (if isLeapYear year then 29 else 28)
  else if month = 4 || month = 6 || month = 9 || month = 11 then 30
  else 31

/-- What follows a date. -/
def date? (cs : List Char) : Option (List Char) := do
  let (century, rest) ← twoDigits? cs
  let (years, rest) ← twoDigits? rest
  let '-' :: rest := rest | none
  let (month, rest) ← twoDigits? rest
  let '-' :: rest := rest | none
  let (day, rest) ← twoDigits? rest
  if 1 ≤ month ∧ month ≤ 12 ∧ 1 ≤ day ∧ day ≤ daysOf (100 * century + years) month then some rest else none

def time? (cs : List Char) : Option (List Char) := do
  let (hour, rest) ← twoDigits? cs
  let ':' :: rest := rest | none
  let (minute, rest) ← twoDigits? rest
  let ':' :: rest := rest | none
  let (second, rest) ← twoDigits? rest
  if 24 ≤ hour ∨ 60 ≤ minute ∨ 61 ≤ second then none
  else
    match rest with
    | '.' :: rest =>
      if (rest.takeWhile Char.isDigit).isEmpty then none else some (rest.dropWhile Char.isDigit)
    | rest => some rest

/-- Whether a text is empty or a difference from UTC. -/
def isOffset : List Char → Bool
  | [] => true
  | ['Z'] => true
  | ['z'] => true
  | sign :: rest =>
    (sign == '+' || sign == '-') &&
      match twoDigits? rest with
      | some (hour, ':' :: rest) =>
        match twoDigits? rest with
        | some (minute, []) => hour < 24 && minute < 60
        | _ => false
      | _ => false

/-- Whether a text is a date, a time, or both with an offset or without. -/
def isMoment (cs : List Char) : Bool :=
  match date? cs with
  | some [] => true
  | some (mark :: rest) => (mark == 'T' || mark == 't' || mark == ' ') && (time? rest).any isOffset
  | none => time? cs == some []

/-- **The value of a run of characters without quotes.** -/
def scalar? (cs : List Char) : Option Value :=
  match cs with
  | ['t', 'r', 'u', 'e'] => some (.boolean true)
  | ['f', 'a', 'l', 's', 'e'] => some (.boolean false)
  | _ =>
    based? cs <|> decimal? cs <|> real? cs <|>
      if isMoment cs then some .moment else if startsGrouped cs then some .unreadable else none

end Toml
end LinkAdaptation

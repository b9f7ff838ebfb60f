import LinkAdaptation.Json.Basic
import LinkAdaptation.Text.Digits
/-!
# Reading JSON

`Json.parse?` reads one JSON text.  A number with neither fraction nor exponent that fits 64 bits is whole, every other
number is real, and so is `-0`.  Of two members of one object with the same name the later one counts.
-/
namespace LinkAdaptation
namespace Json

def isSpace (c : Char) : Bool :=
  c == ' ' || c == '\t' || c == '\n' || c == '\r'

def skipSpace (cs : List Char) : List Char :=
  cs.dropWhile isSpace

/-! ## Numbers -/

def fraction? : List Char → Option (Option (List Char) × List Char)
  | '.' :: cs =>
    let ds := cs.takeWhile Char.isDigit
    if ds.isEmpty then none else some (some ds, cs.dropWhile Char.isDigit)
  | cs => some (none, cs)

def exponentDigits? (negative : Bool) (cs : List Char) : Option (Option Int × List Char) :=
  let ds := cs.takeWhile Char.isDigit
  if ds.isEmpty then none
  else some (some (if negative then -(Text.ofDecimal ds : Int) else Text.ofDecimal ds), cs.dropWhile Char.isDigit)

def exponent? : List Char → Option (Option Int × List Char)
  | c :: cs =>
    if c == 'e' || c == 'E' then
      match cs with
      | '+' :: rest => exponentDigits? false rest
      | '-' :: rest => exponentDigits? true rest
      | _ => exponentDigits? false cs
    else some (none, c :: cs)
  | [] => some (none, [])

/-- The value of a number, from its sign, digits, fraction and power of ten.  A number beyond all binary64 ones has
none. -/
def numberOf? (negative : Bool) (whole : List Char) (fraction : Option (List Char)) (power : Option Int) :
    Option Json :=
  let magnitude := Text.ofDecimal whole
  let places := fraction.getD []
  let value := Decimal.toFloat ⟨Text.ofDecimal (whole ++ places), power.getD 0 - places.length⟩
  let isWhole := fraction.isNone && power.isNone
  if isWhole && !negative && magnitude < Nat.pow 2 64 then some (.int magnitude)
  else if isWhole && negative && 0 < magnitude && magnitude ≤ Nat.pow 2 63 then some (.int (-(magnitude : Int)))
  else if value.isFinite then some (.real (if negative then -value else value))
  else none

def unsigned? (negative : Bool) (cs : List Char) : Option (Json × List Char) := do
  let whole := cs.takeWhile Char.isDigit
  if whole.isEmpty || (whole.length != 1 && whole.head? == some '0') then none
  let (fraction, rest) ← fraction? (cs.dropWhile Char.isDigit)
  let (power, rest) ← exponent? rest
  return (← numberOf? negative whole fraction power, rest)

def number? : List Char → Option (Json × List Char)
  | '-' :: cs => unsigned? true cs
  | cs => unsigned? false cs

/-! ## Strings -/

/-- The character named by one or two escapes of four digits each; the first of two is a high surrogate and the second a
low one. -/
def unicodeEscape? : List Char → Option (Char × List Char)
  | a :: b :: c :: d :: rest => do
    let first ← Text.ofHex? [a, b, c, d]
    if 0xD800 ≤ first ∧ first < 0xDC00 then
      match rest with
      | '\\' :: 'u' :: e :: f :: g :: h :: rest =>
        let second ← Text.ofHex? [e, f, g, h]
        if 0xDC00 ≤ second ∧ second < 0xE000 then
          some (Char.ofNat (0x10000 + (first - 0xD800) * 0x400 + (second - 0xDC00)), rest)
        else none
      | _ => none
    else if 0xDC00 ≤ first ∧ first < 0xE000 then none
    else some (Char.ofNat first, rest)
  | _ => none

def escape? : List Char → Option (Char × List Char)
  | '"' :: rest => some ('"', rest)
  | '\\' :: rest => some ('\\', rest)
  | '/' :: rest => some ('/', rest)
  | 'b' :: rest => some ('\x08', rest)
  | 'f' :: rest => some ('\x0c', rest)
  | 'n' :: rest => some ('\n', rest)
  | 'r' :: rest => some ('\r', rest)
  | 't' :: rest => some ('\t', rest)
  | 'u' :: rest => unicodeEscape? rest
  | _ => none

def stringBody? : Nat → List Char → Option (List Char × List Char)
  | 0, _ => none
  | _ + 1, [] => none
  | _ + 1, '"' :: rest => some ([], rest)
  | fuel + 1, '\\' :: rest => do
    let (c, rest) ← escape? rest
    let (cs, rest) ← stringBody? fuel rest
    return (c :: cs, rest)
  | fuel + 1, c :: rest =>
    if c.toNat < 32 then none
    else do
      let (cs, rest) ← stringBody? fuel rest
      return (c :: cs, rest)

/-! ## Values

The fuel bounds the number of calls that are open at once; each of them has read at least one character of its own. -/

/-- A member in front of the others, unless a later one has its name. -/
def addMember (name : String) (value : Json) (members : List (String × Json)) : List (String × Json) :=
  if members.any (·.1 == name) then members else (name, value) :: members

mutual

def value? : Nat → List Char → Option (Json × List Char)
  | 0, _ => none
  | fuel + 1, cs =>
    match skipSpace cs with
    | 'n' :: 'u' :: 'l' :: 'l' :: rest => some (.null, rest)
    | 't' :: 'r' :: 'u' :: 'e' :: rest => some (.bool true, rest)
    | 'f' :: 'a' :: 'l' :: 's' :: 'e' :: rest => some (.bool false, rest)
    | '"' :: rest => do
      let (s, rest) ← stringBody? (rest.length + 1) rest
      return (.str (String.ofList s), rest)
    | '[' :: rest =>
      match skipSpace rest with
      | ']' :: rest => some (.arr [], rest)
      | rest => do
        let (items, rest) ← items? fuel rest
        return (.arr items, rest)
    | '\x7b' :: rest =>
      match skipSpace rest with
      | '\x7d' :: rest => some (.obj [], rest)
      | rest => do
        let (members, rest) ← members? fuel rest
        return (.obj members, rest)
    | rest => number? rest

def items? : Nat → List Char → Option (List Json × List Char)
  | 0, _ => none
  | fuel + 1, cs => do
    let (item, rest) ← value? fuel cs
    match skipSpace rest with
    | ']' :: rest => return ([item], rest)
    | ',' :: rest =>
      let (items, rest) ← items? fuel rest
      return (item :: items, rest)
    | _ => none

def members? : Nat → List Char → Option (List (String × Json) × List Char)
  | 0, _ => none
  | fuel + 1, cs =>
    match skipSpace cs with
    | '"' :: rest => do
      let (name, rest) ← stringBody? (rest.length + 1) rest
      match skipSpace rest with
      | ':' :: rest =>
        let (item, rest) ← value? fuel rest
        match skipSpace rest with
        | '\x7d' :: rest => return ([(String.ofList name, item)], rest)
        | ',' :: rest =>
          let (members, rest) ← members? fuel rest
          return (addMember (String.ofList name) item members, rest)
        | _ => none
      | _ => none
    | _ => none

end

/-- **Reads a JSON text**: one value with nothing but blanks around it. -/
def parse? (text : String) : Option Json := do
  let cs := text.toList
  let (value, rest) ← value? (cs.length + 1) cs
  if (skipSpace rest).isEmpty then some value else none

end Json
end LinkAdaptation

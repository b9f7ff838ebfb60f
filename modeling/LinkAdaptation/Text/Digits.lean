/-!
# Digits

The values of decimal and hexadecimal digits, and the numbers they write.
-/
namespace LinkAdaptation
namespace Text

def decimalValue (c : Char) : Nat :=
  c.toNat - '0'.toNat

def ofDecimal (cs : List Char) : Nat :=
  cs.foldl (fun n c => 10 * n + decimalValue c) 0

def hexValue? (c : Char) : Option Nat :=
  if c.isDigit then some (decimalValue c)
  else if 'a' ≤ c ∧ c ≤ 'f' then some (c.toNat - 'a'.toNat + 10)
  else if 'A' ≤ c ∧ c ≤ 'F' then some (c.toNat - 'A'.toNat + 10)
  else none

def isHex (c : Char) : Bool :=
  (hexValue? c).isSome

def ofHex? (cs : List Char) : Option Nat :=
  cs.foldlM (fun n c => (hexValue? c).map (16 * n + ·)) 0

/-- The hexadecimal digit of a number below 16, in small letters. -/
def hexDigit (n : Nat) : Char :=
  if n < 10 then Char.ofNat ('0'.toNat + n) else Char.ofNat ('a'.toNat + (n - 10))

/-- The character with a number, if that is a scalar value of Unicode. -/
def scalar? (n : Nat) : Option Char :=
  if n.isValidChar then some (Char.ofNat n) else none

end Text
end LinkAdaptation

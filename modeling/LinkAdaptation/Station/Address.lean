import LinkAdaptation.Text.Blank
import LinkAdaptation.Text.Digits
import LinkAdaptation.Text.Quoted
import LinkAdaptation.Json.Basic
/-!
# Station addresses

An address is six octets, written as pairs of hexadecimal digits with colons between them.  Addresses are ordered by
their octets, the first one counting most.
-/
namespace LinkAdaptation

structure MacAddress where
  octets : Vector UInt8 6
deriving DecidableEq

namespace MacAddress

/-- The locally administered address that ends in a given octet. -/
def locallyAdministered (last : UInt8) : MacAddress :=
  ⟨#v[2, 0, 0, 0, 0, last]⟩

def precedes (a b : MacAddress) : Bool :=
  a.octets.toList < b.octets.toList

def sorted (addresses : List MacAddress) : List MacAddress :=
  addresses.mergeSort fun a b => !b.precedes a

/-! ## Text -/

def octetText (b : UInt8) : List Char :=
  [Text.hexDigit (b.toNat / 16), Text.hexDigit (b.toNat % 16)]

def join : List (List Char) → List Char
  | [] => []
  | [g] => g
  | g :: gs => g ++ ':' :: join gs

/-- **The text of an address.** -/
def toText (a : MacAddress) : String :=
  String.ofList (join (a.octets.toList.map octetText))

/-! ## Reading -/

/-- An octet is two digits, or one digit after a plus sign. -/
def octet? : List Char → Option UInt8
  | ['+', low] => (Text.hexValue? low).map Nat.toUInt8
  | [high, low] => do
    let h ← Text.hexValue? high
    let l ← Text.hexValue? low
    return (16 * h + l).toUInt8
  | _ => none

/-- The groups between separators, empty ones included. -/
def groups : List Char → List (List Char)
  | [] => [[]]
  | c :: cs =>
    if c = ':' ∨ c = '-' then [] :: groups cs
    else
      match groups cs with
      | g :: gs => (c :: g) :: gs
      | [] => [[c]]

structure Invalid where
  text : String
deriving DecidableEq

def Invalid.message (e : Invalid) : String :=
  "invalid MAC address " ++ Text.quoted e.text

/-- **Reads an address**: six octets with a colon or a hyphen in each gap, blanks around them allowed. -/
def parse (text : String) : Except Invalid MacAddress :=
  match (groups (Text.trim text.toList)).mapM octet? with
  | some [a, b, c, d, e, f] => .ok ⟨#v[a, b, c, d, e, f]⟩
  | _ => .error ⟨text⟩

/-! ## JSON -/

def toJson (a : MacAddress) : Json :=
  .str a.toText

def ofJson? : Json → Option MacAddress
  | .str text => (parse text).toOption
  | _ => none

end MacAddress
end LinkAdaptation

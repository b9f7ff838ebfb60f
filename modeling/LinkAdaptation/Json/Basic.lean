import LinkAdaptation.Decimal.Text
/-!
# JSON values

A JSON value keeps whole numbers and real numbers apart, and the members of an object in the order in which they were
written.  `Json.compress` writes a value without any blank.
-/
namespace LinkAdaptation

inductive Json where
  | null
  | bool (value : Bool)
  | int (value : Int)
  | real (value : Float)
  | str (value : String)
  | arr (items : List Json)
  | obj (members : List (String × Json))
deriving Inhabited

namespace Json

def get? (name : String) : Json → Option Json
  | .obj members => members.lookup name
  | _ => none

def ofOption (encode : α → Json) : Option α → Json
  | some a => encode a
  | none => .null

def nat (n : Nat) : Json :=
  .int n

/-- JSON has no numbers that are not finite; they become null. -/
def ofFloat (x : Float) : Json :=
  if x.isFinite then .real x else .null

/-! ## Text of a number

A real number keeps a mark that it is one: a point or an exponent.  All digits stand in place from `10 ^ -5` up to
`10 ^ 16`, outside of that the power of ten is written with its sign. -/

def signedInteger (n : Int) : List Char :=
  if 0 ≤ n then '+' :: Decimal.integerText n else Decimal.integerText n

def realDigits (d : Decimal) : List Char :=
  if -5 ≤ d.magnitudeOf ∧ d.magnitudeOf < 16 then
    if 0 ≤ d.exponent then d.positional ++ ['.', '0'] else d.positional
  else Decimal.pointAfterFirst (Decimal.digitsOf d.coefficient) ++ 'e' :: signedInteger d.magnitudeOf

/-- The shortest text that reads back; of two equally near ones the even one. -/
def realText (x : Float) : String :=
  if x.isFinite then Decimal.textWith ['0', '.', '0'] (fun m => realDigits (Decimal.shortest .toEven m)) x
  else "null"

/-! ## Text of a string -/

def escapeChar (c : Char) : List Char :=
  match c with
  | '"' => ['\\', '"']
  | '\\' => ['\\', '\\']
  | '\n' => ['\\', 'n']
  | '\r' => ['\\', 'r']
  | '\t' => ['\\', 't']
  | '\x08' => ['\\', 'b']
  | '\x0c' => ['\\', 'f']
  | _ =>
    if c.toNat < 16 then ['\\', 'u', '0', '0', '0'] ++ Nat.toDigits 16 c.toNat
    else if c.toNat < 32 then ['\\', 'u', '0', '0'] ++ Nat.toDigits 16 c.toNat
    else [c]

def stringText (s : String) : String :=
  String.ofList ('"' :: s.toList.flatMap escapeChar ++ ['"'])

/-! ## Text of a value -/

mutual

/-- **The text of a value**, without blanks, members in their order. -/
def compress : Json → String
  | .null => "null"
  | .bool true => "true"
  | .bool false => "false"
  | .int n => toString n
  | .real x => realText x
  | .str s => stringText s
  | .arr items => "[" ++ String.intercalate "," (compressItems items) ++ "]"
  | .obj members => "\x7b" ++ String.intercalate "," (compressMembers members) ++ "\x7d"

def compressItems : List Json → List String
  | [] => []
  | j :: rest => compress j :: compressItems rest

def compressMembers : List (String × Json) → List String
  | [] => []
  | (name, j) :: rest => (stringText name ++ ":" ++ compress j) :: compressMembers rest

end

end Json
end LinkAdaptation

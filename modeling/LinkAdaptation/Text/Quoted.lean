import LinkAdaptation.Text.Unseen
/-!
# Quoted text

How a message shows a piece of foreign text: in double quotes, with everything that would not be seen, or that would
end the quotes, written as an escape.
-/
namespace LinkAdaptation
namespace Text

/-- The digits of a number in base 16, in small letters, without leading zeros. -/
def hexDigits (n : Nat) : List Char :=
  Nat.toDigits 16 n

def quoteChar (c : Char) : List Char :=
  match c with
  | '"' => ['\\', '"']
  | '\\' => ['\\', '\\']
  | '\t' => ['\\', 't']
  | '\r' => ['\\', 'r']
  | '\n' => ['\\', 'n']
  | '\x00' => ['\\', '0']
  | _ => if isUnseen c then ['\\', 'u', '\x7b'] ++ hexDigits c.toNat ++ ['\x7d'] else [c]

/-- **A text in quotes**, as messages show it. -/
def quoted (s : String) : String :=
  String.ofList ('"' :: s.toList.flatMap quoteChar ++ ['"'])

end Text
end LinkAdaptation

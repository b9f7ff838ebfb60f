/-!
# Blank characters

The characters with the Unicode property `White_Space`, and the text that is left once the blanks at both ends are
gone.  Names typed by a person (addresses, standards, modes) are trimmed in this sense before they are looked up.
-/
namespace LinkAdaptation
namespace Text

/-- The characters with the property `White_Space`. -/
def isBlank (c : Char) : Bool :=
  let n := c.toNat
  (0x09 ≤ n && n ≤ 0x0D) || n == 0x20 || n == 0x85 || n == 0xA0 || n == 0x1680 ||
    (0x2000 ≤ n && n ≤ 0x200A) || n == 0x2028 || n == 0x2029 || n == 0x202F || n == 0x205F || n == 0x3000

/-- The text without the blanks at its two ends. -/
def trim (cs : List Char) : List Char :=
  ((cs.dropWhile isBlank).reverse.dropWhile isBlank).reverse

def trimmed (s : String) : String :=
  String.ofList (trim s.toList)

/-- Capital ASCII letters made small, everything else kept. -/
def lowered (s : String) : String :=
  s.map Char.toLower

end Text
end LinkAdaptation

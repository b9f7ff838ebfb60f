import LinkAdaptation.Text.Digits
/-!
# TOML strings

Four kinds of strings: with escapes or without, on one line or on several.  A control character other than the tab is
never text.  Each reader starts behind the opening quotes and also gives what follows the closing ones.
-/
namespace LinkAdaptation
namespace Toml

/-- Whether a character may stand for itself within a line. -/
def isTextChar (c : Char) : Bool :=
  c == '\t' || (0x20 ≤ c.toNat && c.toNat != 0x7F)

def isSpace (c : Char) : Bool :=
  c == ' ' || c == '\t'

def unicodeEscape? (count : Nat) (cs : List Char) : Option (Char × List Char) := do
  let digits := cs.take count
  if digits.length < count then none
  let c ← Text.scalar? (← Text.ofHex? digits)
  return (c, cs.drop count)

def escape? : List Char → Option (Char × List Char)
  | 'b' :: rest => some ('\x08', rest)
  | 't' :: rest => some ('\t', rest)
  | 'n' :: rest => some ('\n', rest)
  | 'f' :: rest => some ('\x0c', rest)
  | 'r' :: rest => some ('\r', rest)
  | '"' :: rest => some ('"', rest)
  | '\\' :: rest => some ('\\', rest)
  | 'u' :: rest => unicodeEscape? 4 rest
  | 'U' :: rest => unicodeEscape? 8 rest
  | _ => none

/-- Up to a double quote, with escapes. -/
def basicLine? : Nat → List Char → Option (List Char × List Char)
  | 0, _ => none
  | _ + 1, [] => none
  | _ + 1, '"' :: rest => some ([], rest)
  | fuel + 1, '\\' :: rest => do
    let (c, rest) ← escape? rest
    let (cs, rest) ← basicLine? fuel rest
    return (c :: cs, rest)
  | fuel + 1, c :: rest =>
    if isTextChar c then do
      let (cs, rest) ← basicLine? fuel rest
      return (c :: cs, rest)
    else none

/-- Up to a single quote, everything standing for itself. -/
def literalLine? (cs : List Char) : Option (List Char × List Char) :=
  let body := cs.takeWhile (· != '\'')
  match cs.dropWhile (· != '\'') with
  | _ :: rest => if body.all isTextChar then some (body, rest) else none
  | [] => none

/-- The line break right behind the opening quotes of a string on several lines is not part of it. -/
def skipLineBreak : List Char → List Char
  | '\n' :: rest => rest
  | '\r' :: '\n' :: rest => rest
  | rest => rest

/-- Everything up to the next character that is neither a blank nor a line break. -/
def skipToText : List Char → List Char
  | ' ' :: rest => skipToText rest
  | '\t' :: rest => skipToText rest
  | '\n' :: rest => skipToText rest
  | '\r' :: '\n' :: rest => skipToText rest
  | rest => rest

def isLineEnding (cs : List Char) : Bool :=
  match cs.dropWhile isSpace with
  | '\n' :: _ => true
  | '\r' :: '\n' :: _ => true
  | _ => false

/-- The quotes at the front end a string if there are three of them; two more may belong to its text. -/
def closing? (quote : Char) (cs : List Char) : Option (List Char × List Char) :=
  let count := (cs.takeWhile (· == quote)).length
  if 3 ≤ count then some (List.replicate (min count 5 - 3) quote, cs.drop (min count 5)) else none

/-- Up to three double quotes, with escapes; a backslash at the end of a line joins it to the next text. -/
def basicLines? : Nat → List Char → Option (List Char × List Char)
  | 0, _ => none
  | _ + 1, [] => none
  | fuel + 1, '\\' :: rest =>
    if isLineEnding rest then basicLines? fuel (skipToText rest)
    else do
      let (c, rest) ← escape? rest
      let (cs, rest) ← basicLines? fuel rest
      return (c :: cs, rest)
  | fuel + 1, '\r' :: '\n' :: rest => do
    let (cs, rest) ← basicLines? fuel rest
    return ('\r' :: '\n' :: cs, rest)
  | fuel + 1, c :: rest =>
    match closing? '"' (c :: rest) with
    | some closed => some closed
    | none =>
      if isTextChar c || c == '\n' then do
        let (cs, rest) ← basicLines? fuel rest
        return (c :: cs, rest)
      else none

/-- Up to three single quotes, everything standing for itself. -/
def literalLines? : Nat → List Char → Option (List Char × List Char)
  | 0, _ => none
  | _ + 1, [] => none
  | fuel + 1, '\r' :: '\n' :: rest => do
    let (cs, rest) ← literalLines? fuel rest
    return ('\r' :: '\n' :: cs, rest)
  | fuel + 1, c :: rest =>
    match closing? '\'' (c :: rest) with
    | some closed => some closed
    | none =>
      if isTextChar c || c == '\n' then do
        let (cs, rest) ← literalLines? fuel rest
        return (c :: cs, rest)
      else none

/-- **Reads a string of any kind.** -/
def string? : List Char → Option (String × List Char)
  | '"' :: '"' :: '"' :: rest => do
    let (cs, after) ← basicLines? (rest.length + 1) (skipLineBreak rest)
    return (String.ofList cs, after)
  | '\'' :: '\'' :: '\'' :: rest => do
    let (cs, after) ← literalLines? (rest.length + 1) (skipLineBreak rest)
    return (String.ofList cs, after)
  | '"' :: rest => do
    let (cs, after) ← basicLine? (rest.length + 1) rest
    return (String.ofList cs, after)
  | '\'' :: rest => do
    let (cs, after) ← literalLine? rest
    return (String.ofList cs, after)
  | _ => none

end Toml
end LinkAdaptation

import LinkAdaptation.Toml.Scalar
import LinkAdaptation.Toml.Text
/-!
# TOML documents

A document is a list of statements, one on a line: a definition, the header of a table, or the header of one of
several tables.  Definitions belong to the header above them.  The fuel of the readers is the length of what they read.
-/
namespace LinkAdaptation
namespace Toml

/-! ## Between the values -/

def skipSpace (cs : List Char) : List Char :=
  cs.dropWhile isSpace

/-- What follows a comment: the end of its line. -/
def comment? : List Char → Option (List Char)
  | [] => some []
  | '\n' :: rest => some ('\n' :: rest)
  | '\r' :: '\n' :: rest => some ('\r' :: '\n' :: rest)
  | c :: rest => if isTextChar c then comment? rest else none

/-- What follows the blanks, line breaks and comments within an array. -/
def skipGap? : Nat → List Char → Option (List Char)
  | 0, _ => none
  | fuel + 1, cs =>
    match skipToText cs with
    | '#' :: rest => do skipGap? fuel (← comment? rest)
    | rest => some rest

/-- What follows the end of a line, with a comment or without. -/
def lineEnd? (cs : List Char) : Option (List Char) := do
  let rest ← match skipSpace cs with
    | '#' :: rest => comment? rest
    | rest => some rest
  match rest with
  | [] => some []
  | '\n' :: rest => some rest
  | '\r' :: '\n' :: rest => some rest
  | _ => none

/-! ## Keys -/

/-- How many parts a key may have, and how deep arrays and inline tables may stand within each other. -/
def maxDepth : Nat := 80

def isBareKeyChar (c : Char) : Bool :=
  c.isAlphanum || c == '-' || c == '_'

/-- One part of a key: bare, or a string on one line. -/
def keyPart? : List Char → Option (String × List Char)
  | '"' :: rest => do
    let (cs, after) ← basicLine? (rest.length + 1) rest
    return (String.ofList cs, after)
  | '\'' :: rest => do
    let (cs, after) ← literalLine? rest
    return (String.ofList cs, after)
  | cs =>
    let part := cs.takeWhile isBareKeyChar
    if part.isEmpty then none else some (String.ofList part, cs.dropWhile isBareKeyChar)

/-- The parts of a dotted key: those in front, the last one, and what follows the blanks behind it. -/
def keyParts? : Nat → List Char → Option (List String × String × List Char)
  | 0, _ => none
  | fuel + 1, cs => do
    let (part, rest) ← keyPart? (skipSpace cs)
    match skipSpace rest with
    | '.' :: rest =>
      let (path, last, rest) ← keyParts? fuel rest
      return (part :: path, last, rest)
    | rest => return ([], part, rest)

/-- A key, dotted or not, of at most `maxDepth` parts. -/
def key? (cs : List Char) : Option (List String × String × List Char) := do
  let (path, last, rest) ← keyParts? (cs.length + 1) cs
  if path.length < maxDepth then some (path, last, rest) else none

/-! ## Values -/

/-- Whether a character has a meaning of its own outside of quotes. -/
def isDelimiter (c : Char) : Bool :=
  ['=', ',', '[', ']', '\x7b', '\x7d', '#', '\r', '\n'].contains c

def isQuote (c : Char) : Bool :=
  c == '"' || c == '\''

/-- Whether a word starts here. -/
def startsWord : List Char → Bool
  | c :: _ => !(isSpace c || isDelimiter c || isQuote c || c == '.')
  | [] => false

/-- The words of a value without quotes or brackets, and what follows them.  Points and blanks part the words, and
within a word a quote is a character like any other. -/
def splitRun : Bool → List Char → List Char × List Char
  | _, [] => ([], [])
  | inWord, c :: rest =>
    let goesOn := if isSpace c then startsWord (skipSpace rest) else if isQuote c then inWord else !isDelimiter c
    if goesOn then
      let (run, after) := splitRun (!(isSpace c || c == '.')) rest
      (c :: run, after)
    else ([], c :: rest)

def bareValue? (cs : List Char) : Option (Value × List Char) := do
  let (run, rest) := splitRun false cs
  return (← scalar? run, rest)

mutual

/-- A value; `room` is how many brackets may still be opened around it. -/
def value? : Nat → Nat → List Char → Option (Value × List Char)
  | 0, _, _ => none
  | fuel + 1, room, cs =>
    match cs, room with
    | '[' :: _, 0 => none
    | '\x7b' :: _, 0 => none
    | '[' :: rest, room + 1 => do
      let (items, rest) ← items? fuel room rest
      return (.array items, rest)
    | '\x7b' :: rest, room + 1 =>
      match skipSpace rest with
      | '\x7d' :: rest => some (.table .inline [], rest)
      | rest => do
        let (definitions, rest) ← definitions? fuel room rest
        return (.table .inline (← Entries.defineAll [] definitions), rest)
    | '"' :: _, _ => do
      let (s, rest) ← string? cs
      return (.string s, rest)
    | '\'' :: _, _ => do
      let (s, rest) ← string? cs
      return (.string s, rest)
    | _, _ => bareValue? cs

def items? : Nat → Nat → List Char → Option (List Value × List Char)
  | 0, _, _ => none
  | fuel + 1, room, cs => do
    match ← skipGap? (cs.length + 1) cs with
    | ']' :: rest => return ([], rest)
    | rest =>
      let (item, rest) ← value? fuel room rest
      match ← skipGap? (rest.length + 1) rest with
      | ']' :: rest => return ([item], rest)
      | ',' :: rest =>
        let (items, rest) ← items? fuel room rest
        return (item :: items, rest)
      | _ => none

/-- The definitions of an inline table up to its brace. -/
def definitions? : Nat → Nat → List Char → Option (List (List String × String × Value) × List Char)
  | 0, _, _ => none
  | fuel + 1, room, cs => do
    let (path, last, rest) ← key? cs
    let '=' :: rest := rest | none
    let (value, rest) ← value? fuel room (skipSpace rest)
    match skipSpace rest with
    | '\x7d' :: rest => return ([(path, last, value)], rest)
    | ',' :: rest =>
      let (definitions, rest) ← definitions? fuel room rest
      return ((path, last, value) :: definitions, rest)
    | _ => none

end

/-! ## Statements -/

inductive Statement where
  | define (path : List String) (key : String) (value : Value)
  | table (path : List String) (key : String)
  | element (path : List String) (key : String)

def header? (isElement : Bool) (cs : List Char) : Option (Statement × List Char) := do
  let (path, last, rest) ← key? cs
  match isElement, rest with
  | false, ']' :: rest => return (.table path last, rest)
  | true, ']' :: ']' :: rest => return (.element path last, rest)
  | _, _ => none

def definition? (cs : List Char) : Option (Statement × List Char) := do
  let (path, last, rest) ← key? cs
  let '=' :: rest := rest | none
  let (value, rest) ← value? (rest.length + 1) maxDepth (skipSpace rest)
  return (.define path last value, rest)

def statement? : List Char → Option (Statement × List Char)
  | '[' :: '[' :: rest => header? true rest
  | '[' :: rest => header? false rest
  | cs => definition? cs

def statements? : Nat → List Char → Option (List Statement)
  | 0, _ => none
  | fuel + 1, cs =>
    match skipToText cs with
    | [] => some []
    | '#' :: rest => do statements? fuel (← comment? rest)
    | cs => do
      let (statement, rest) ← statement? cs
      let rest ← lineEnd? rest
      return statement :: (← statements? fuel rest)

/-! ## The table of a document -/

/-- The definitions in front of the next header, and the statements from that header on. -/
def leading : List Statement → List (List String × String × Value) × List Statement
  | .define path key value :: rest =>
    let (definitions, others) := leading rest
    ((path, key, value) :: definitions, others)
  | rest => ([], rest)

/-- The statements from a header on. -/
def addSections : Nat → Entries → List Statement → Option Entries
  | _, es, [] => some es
  | 0, _, _ => none
  | fuel + 1, es, .table path key :: rest => do
    let (definitions, others) := leading rest
    addSections fuel (← es.addTable path key definitions) others
  | fuel + 1, es, .element path key :: rest => do
    let (definitions, others) := leading rest
    addSections fuel (← es.addElement path key definitions) others
  | _ + 1, _, .define .. :: _ => none

/-- The table that statements describe. -/
def ofStatements? (statements : List Statement) : Option Entries := do
  let (definitions, others) := leading statements
  addSections others.length (← Entries.defineAll [] definitions) others

/-- A mark of the byte order at the front is not part of the document. -/
def skipByteOrderMark : List Char → List Char
  | '\ufeff' :: rest => rest
  | rest => rest

/-- **Reads a TOML document.** -/
def parse? (text : String) : Option Entries := do
  let cs := skipByteOrderMark text.toList
  ofStatements? (← statements? (cs.length + 1) cs)

end Toml
end LinkAdaptation

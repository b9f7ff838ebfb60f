/-!
# TOML values

The values of a TOML document.  A table remembers how it came to be, because that decides what may still be added to
it: a table with a header of its own, or one that was written inline, is complete, one that a longer header or a dotted
key only passed through is not.
-/
namespace LinkAdaptation
namespace Toml

/-- How a table came to be. -/
inductive TableKind where
  /-- By its own header, or as the document. -/
  | headed
  /-- On the way of a longer header. -/
  | passed
  /-- On the way of a dotted key. -/
  | dotted
  /-- In braces. -/
  | inline
deriving DecidableEq

inductive Value where
  | string (text : String)
  | integer (value : Int)
  | float (value : Float)
  /-- A number that is too large to be held, or what only starts like one.  A document may hold it; it is a fault for
  whoever reads it. -/
  | unreadable
  | boolean (value : Bool)
  | moment
  | array (items : List Value)
  | table (kind : TableKind) (entries : List (String × Value))
  /-- The tables of one repeated header, the last one at the end. -/
  | tables (elements : List (List (String × Value)))
deriving Inhabited

mutual

/-- Whether every number inside a value can be read. -/
def Value.isReadable : Value → Bool
  | .unreadable => false
  | .array items => itemsReadable items
  | .table _ entries => entriesReadable entries
  | .tables elements => elementsReadable elements
  | _ => true

def itemsReadable : List Value → Bool
  | [] => true
  | item :: rest => item.isReadable && itemsReadable rest

def entriesReadable : List (String × Value) → Bool
  | [] => true
  | (_, value) :: rest => value.isReadable && entriesReadable rest

def elementsReadable : List (List (String × Value)) → Bool
  | [] => true
  | entries :: rest => entriesReadable entries && elementsReadable rest

end

/-- The entries of a table in the order of their first mention. -/
abbrev Entries := List (String × Value)

namespace Entries

def replace (es : Entries) (key : String) (value : Value) : Entries :=
  es.map fun e => if e.1 == key then (key, value) else e

/-- A new entry; a key is defined once. -/
def define (es : Entries) (key : String) (value : Value) : Option Entries :=
  if es.any (·.1 == key) then none else some (es ++ [(key, value)])

/-- Changes the table at the end of a path, whose kind is handed to the change.  Tables that are missing on the way
come to be; of repeated tables the last one is meant.  A dotted key does not pass through a table with a header, and
nothing passes through an inline table. -/
def changeAt (isDotted : Bool) (change : TableKind → Entries → Option Entries) :
    List String → TableKind → Entries → Option Entries
  | [], kind, es => change kind es
  | key :: path, _, es =>
    match es.lookup key with
    | none =>
      let kind := if isDotted then .dotted else .passed
      (changeAt isDotted change path kind []).map fun inner => es ++ [(key, .table kind inner)]
    | some (.table kind inner) =>
      if kind = .inline || (isDotted && kind = .headed) then none
      else (changeAt isDotted change path kind inner).map fun inner => es.replace key (.table kind inner)
    | some (.tables elements) =>
      match elements.getLast? with
      | some inner =>
        (changeAt isDotted change path .headed inner).map fun inner =>
          es.replace key (.tables (elements.dropLast ++ [inner]))
      | none => none
    | some _ => none

/-- **Defines a key, dotted or not.**  A dotted key adds only to tables that dotted keys made. -/
def defineAt (es : Entries) (path : List String) (key : String) (value : Value) : Option Entries :=
  changeAt true
    (fun kind inner => if !path.isEmpty && kind ≠ .dotted then none else inner.define key value) path .headed es

def defineAll (es : Entries) (definitions : List (List String × String × Value)) : Option Entries :=
  definitions.foldlM (fun es d => es.defineAt d.1 d.2.1 d.2.2) es

/-- **Adds a table with a header.**  A table that was only passed through before gets its header now. -/
def addTable (es : Entries) (path : List String) (key : String)
    (definitions : List (List String × String × Value)) : Option Entries :=
  changeAt false
    (fun _ inner =>
      match inner.lookup key with
      | none => do return inner ++ [(key, .table .headed (← defineAll [] definitions))]
      | some (.table .passed known) => do return inner.replace key (.table .headed (← defineAll known definitions))
      | some _ => none) path .headed es

/-- **Adds a table with a repeated header.** -/
def addElement (es : Entries) (path : List String) (key : String)
    (definitions : List (List String × String × Value)) : Option Entries :=
  changeAt false
    (fun _ inner =>
      match inner.lookup key with
      | none => do return inner ++ [(key, .tables [← defineAll [] definitions])]
      | some (.tables elements) => do
        return inner.replace key (.tables (elements ++ [← defineAll [] definitions]))
      | some _ => none) path .headed es

end Entries
end Toml
end LinkAdaptation

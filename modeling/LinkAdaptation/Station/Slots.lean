/-!
# Slots

A table of numbered cells.  A new value takes the cell that was freed last, or a new cell behind the others when none
is free, so that numbers stay small; a number may come back once its cell was freed.
-/
namespace LinkAdaptation

structure Slots (α : Type) where
  cells : Array (Option α) := #[]
  /-- The free cells, the one freed last in front. -/
  vacant : List Nat := []

namespace Slots

def get? (s : Slots α) (i : Nat) : Option α :=
  s.cells[i]?.join

/-- The cell that the next value takes. -/
def nextCell (s : Slots α) : Nat :=
  s.vacant.headD s.cells.size

def insert (s : Slots α) (a : α) : Slots α :=
  match s.vacant with
  | [] => ⟨s.cells.push (some a), []⟩
  | i :: rest => ⟨s.cells.setIfInBounds i (some a), rest⟩

/-- Changes the value of a cell, if it has one. -/
def modify (s : Slots α) (i : Nat) (f : α → α) : Slots α :=
  match s.get? i with
  | some a => { s with cells := s.cells.setIfInBounds i (some (f a)) }
  | none => s

/-- Frees a cell, if it has a value. -/
def erase (s : Slots α) (i : Nat) : Slots α :=
  match s.get? i with
  | some _ => ⟨s.cells.setIfInBounds i none, i :: s.vacant⟩
  | none => s

def toList (s : Slots α) : List (Nat × α) :=
  s.cells.toList.zipIdx.filterMap fun (cell, i) => cell.map (i, ·)

def size (s : Slots α) : Nat :=
  s.toList.length

end Slots
end LinkAdaptation

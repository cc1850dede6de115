/-!
# Runs of code points

Character properties and case mappings are tables of arithmetic runs: the code points
`first`, `first + step`, and so on up to `last`. A step of two describes the scripts that
alternate capital and small letters.
-/
namespace Bindery.Unicode

/-- The code points `first`, `first + step`, …, none above `last`. -/
structure Run where
  first : Nat
  last : Nat
  step : Nat
  deriving DecidableEq, Repr

def Run.contains (r : Run) (code : Nat) : Bool :=
  r.first ≤ code && code ≤ r.last && (code - r.first) % r.step == 0

/-- Whether some run of a table holds the character. -/
def Run.covers (table : List Run) (c : Char) : Bool :=
  table.any (·.contains c.toNat)

/-- A run whose code points all move by the same distance. -/
structure Shift where
  run : Run
  distance : Int
  deriving DecidableEq, Repr

/-- Moves a character by the first row that holds it. -/
def Shift.apply (table : List Shift) (c : Char) : Char :=
  match table.find? (·.run.contains c.toNat) with
  | some row => Char.ofNat (c.toNat + row.distance).toNat
  | none => c

end Bindery.Unicode

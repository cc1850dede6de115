import Bindery.Decimal.Binary64

/-!
# The shortest decimal that reads back

Every decimal in a certain interval around a binary number reads back as that number. The text of
the number takes the decimal with the fewest digits, that is the point of the interval on the
coarsest decimal grid, and of two such points the nearer one.
-/
namespace Bindery.Decimal

/-- The decimal `digits · 10 ^ exponent`. -/
structure Digits where
  digits : Nat
  exponent : Int
  deriving DecidableEq, Repr, Inhabited

namespace Binary64

/-- The ends and the middle of the interval of reals that round to the number, as multiples of a
quarter of its last place. Just above a power of two the lower half is shorter. -/
def quarters (x : Binary64) : Nat × Nat × Nat :=
  let m := 4 * x.mantissa
  let low := if x.mantissa = 1 <<< 52 ∧ minExponent < x.exponent then m - 1 else m - 2
  (low, m, m + 2)

/-- Whether `a / b` lies between the ends; the ends count for an even mantissa. -/
def reads (x : Binary64) (a b : Nat) : Bool :=
  let (low, _, high) := x.quarters
  let (a, b) := scaled a b (x.exponent - 2)
  if x.mantissa % 2 = 0 then low * b ≤ a && a ≤ high * b else low * b < a && a < high * b

/-- The positive multiple of `10 ^ k` nearest to the number, if one of its two neighbours on that
grid reads back. -/
def onGrid? (x : Binary64) (k : Int) : Option Digits :=
  let (num, den) := x.ratio
  let (unitNum, unitDen) : Nat × Nat :=
    if 0 ≤ k then (Nat.pow 10 k.toNat, 1) else (1, Nat.pow 10 (-k).toNat)
  let a := num * unitDen
  let b := den * unitNum
  let below := a / b
  let reading (n : Nat) : Bool := 0 < n && x.reads (n * unitNum) unitDen
  let nearer := roundDiv a b
  if reading nearer then some ⟨nearer, k⟩
  else if reading below then some ⟨below, k⟩
  else if reading (below + 1) then some ⟨below + 1, k⟩
  else none

/-- The decimal grids from coarse to fine. -/
def grids : List Int :=
  (List.range 634).map fun i : Nat => 309 - (i : Int)

/-- The decimal with the fewest digits that reads back as the number. -/
def shortest (x : Binary64) : Digits :=
  if x.mantissa = 0 then ⟨0, 0⟩ else (grids.findSome? x.onGrid?).getD ⟨0, 0⟩

end Binary64

def naturalDigits (n : Nat) : List Char := Nat.toDigits 10 n

/-- How a decimal is written: positionally when the power of ten of its leading digit lies between
`lowest` and `highest`, with at least one place after the point; otherwise with an exponent. -/
structure Style where
  lowest : Int
  highest : Int
  plus : Bool
  deriving Repr

/-- A decimal in the given style. -/
def Digits.text (style : Style) (d : Digits) : String :=
  let ds := naturalDigits d.digits
  let lead : Int := ds.length + d.exponent - 1
  let written : List Char :=
    if lead < style.lowest ∨ style.highest < lead then
      let mark := if lead < 0 then ['-'] else if style.plus then ['+'] else []
      let fraction := if ds.length ≤ 1 then [] else '.' :: ds.drop 1
      ds.take 1 ++ fraction ++ ['e'] ++ mark ++ naturalDigits lead.natAbs
    else if 0 ≤ d.exponent then
      ds ++ List.replicate d.exponent.toNat '0' ++ ['.', '0']
    else if 0 ≤ lead then
      ds.take (lead.toNat + 1) ++ ['.'] ++ ds.drop (lead.toNat + 1)
    else
      ['0', '.'] ++ List.replicate ((-lead).toNat - 1) '0' ++ ds
  String.ofList written

end Bindery.Decimal

/-!
# Binary floating point of 64 bits

The non-negative finite numbers `mantissa · 2 ^ exponent` with a mantissa of at most 53 bits and
an exponent of at least -1074. Products and quotients are exact ratios of natural numbers that
are then rounded once, to the nearest number and on a tie to the even mantissa.
-/
namespace Bindery.Decimal

/-- The number `mantissa · 2 ^ exponent`. -/
structure Binary64 where
  mantissa : Nat
  exponent : Int
  deriving DecidableEq, Repr, Inhabited

namespace Binary64

def minExponent : Int := -1074

def maxExponent : Int := 971

/-- The quotient rounded to the nearest natural number, a half to the even one. -/
def roundDiv (num den : Nat) : Nat :=
  let low := num / den
  let twice := 2 * (num % den)
  if twice < den then low
  else if den < twice then low + 1
  else if low % 2 = 0 then low
  else low + 1

/-- Numerator and denominator of the ratio divided by `2 ^ e`. -/
def scaled (num den : Nat) (e : Int) : Nat × Nat :=
  if 0 ≤ e then (num, den <<< e.toNat) else (num <<< (-e).toNat, den)

/-- The greatest `e` with `2 ^ e` at most the ratio, for positive arguments. -/
def log2Ratio (num den : Nat) : Int :=
  let guess : Int := num.log2 - den.log2
  let (n, d) := scaled num den guess
  if d ≤ n then guess else guess - 1

/-- The number nearest to a ratio, unless it lies above all finite numbers. -/
def ofRatio? (num den : Nat) : Option Binary64 :=
  if num = 0 then some ⟨0, minExponent⟩
  else
    let e := max (log2Ratio num den - 52) minExponent
    let (n, d) := scaled num den e
    let m := roundDiv n d
    let x : Binary64 := if m = 1 <<< 53 then ⟨1 <<< 52, e + 1⟩ else ⟨m, e⟩
    if maxExponent < x.exponent then none else some x

def ratio (x : Binary64) : Nat × Nat :=
  scaled x.mantissa 1 (-x.exponent)

def mul? (x y : Binary64) : Option Binary64 :=
  ofRatio? (x.ratio.1 * y.ratio.1) (x.ratio.2 * y.ratio.2)

/-- The rounded quotient, for a positive divisor. -/
def div? (x y : Binary64) : Option Binary64 :=
  ofRatio? (x.ratio.1 * y.ratio.2) (x.ratio.2 * y.ratio.1)

/-- The number nearest to a power of ten. -/
def pow10? (k : Nat) : Option Binary64 :=
  ofRatio? (Nat.pow 10 k) 1

/-- The number divided a number of times by the largest power of ten. -/
def reduce? (x : Binary64) : Nat → Option Binary64
  | 0 => some x
  | n + 1 =>
    if x.mantissa = 0 then some x
    else do (← x.div? (← pow10? 308)).reduce? n

/-- The number times `10 ^ exponent`: one product with or quotient by a rounded power of ten, after
as many quotients by the largest power as an exponent below -308 asks for. There is none when the
product lies above all finite numbers. -/
def shift? (x : Binary64) (exponent : Int) : Option Binary64 :=
  if 308 < exponent then if x.mantissa = 0 then some x else none
  else if 0 ≤ exponent then do x.mul? (← pow10? exponent.toNat)
  else
    let n := ((-exponent).toNat - 1) / 308
    do (← x.reduce? n).div? (← pow10? ((-exponent).toNat - 308 * n))

end Binary64
end Bindery.Decimal

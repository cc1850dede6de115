import Bindery.Decimal.Binary64
import Bindery.Text.Rest
import Bindery.Toml.Moment

/-!
# Bare values in a TOML document

Truth values, integers, reals and moments are written without quotes. Digits may be grouped by
single underscores, integers fit in 64 bits with their sign, and a real must not exceed the
largest finite number.
-/
namespace Bindery.Toml
open Text

/-- Digits grouped by single underscores, without the underscores. -/
def ungroup? (isDigit : Char → Bool) : List Char → Option (List Char)
  | [] => none
  | [c] => if isDigit c then some [c] else none
  | c :: '_' :: rest => if isDigit c then (ungroup? isDigit rest).map (c :: ·) else none
  | c :: rest => if isDigit c then (ungroup? isDigit rest).map (c :: ·) else none

/-- A text without its sign, and whether it is negative. -/
def unsigned (cs : List Char) : Bool × List Char :=
  match cs with
  | '-' :: rest => (true, rest)
  | '+' :: rest => (false, rest)
  | cs => (false, cs)

/-- Decimal digits without a superfluous leading zero. -/
def decimal? (cs : List Char) : Option (List Char) := do
  let ds ← ungroup? Char.isDigit cs
  if ds.length ≠ 1 ∧ ds.head? = some '0' then none else some ds

def digitOf (c : Char) : Nat :=
  if c.isDigit then c.toNat - 48 else if c.isUpper then c.toNat - 55 else c.toNat - 87

/-- The value of digits to a base. -/
def valueOf (base : Nat) (ds : List Char) : Nat :=
  ds.foldl (fun n c => n * base + digitOf c) 0

def isHexDigit (c : Char) : Bool :=
  c.isDigit || ('a' ≤ c && c ≤ 'f') || ('A' ≤ c && c ≤ 'F')

def isOctalDigit (c : Char) : Bool := '0' ≤ c && c ≤ '7'

def isBinaryDigit (c : Char) : Bool := c == '0' || c == '1'

/-- An integer that fits in 64 bits with its sign. -/
def fits? (n : Int) : Option Int :=
  if Int64.minValue.toInt ≤ n ∧ n ≤ Int64.maxValue.toInt then some n else none

def integer? (cs : List Char) : Option Int :=
  match cs with
  | '0' :: 'x' :: ds => do fits? (valueOf 16 (← ungroup? isHexDigit ds))
  | '0' :: 'o' :: ds => do fits? (valueOf 8 (← ungroup? isOctalDigit ds))
  | '0' :: 'b' :: ds => do fits? (valueOf 2 (← ungroup? isBinaryDigit ds))
  | cs => do
    let (negative, ds) := unsigned cs
    let n : Int := valueOf 10 (← decimal? ds)
    fits? (if negative then -n else n)

/-- Whether `digits · 10 ^ exponent` lies above all finite numbers. -/
def exceeds (digits : List Char) (exponent : Int) : Bool :=
  let n := valueOf 10 digits
  let size : Int := (Nat.toDigits 10 n).length
  if n = 0 ∨ size + exponent < 300 then false
  else if 310 < size + exponent then true
  else
    let ratio :=
      if 0 ≤ exponent then (n * Nat.pow 10 exponent.toNat, 1)
      else (n, Nat.pow 10 (-exponent).toNat)
    (Decimal.Binary64.ofRatio? ratio.1 ratio.2).isNone

/-- The exponent of a real, after its mark. -/
def exponent? (cs : List Char) : Option Int := do
  let (negative, ds) := unsigned cs
  let n : Int := valueOf 10 (← ungroup? Char.isDigit ds)
  return if negative then -n else n

/-- A real with a fraction or an exponent or both. -/
def real? (cs : List Char) : Option Item := do
  let (negative, body) := unsigned cs
  let isMark (c : Char) : Bool := c == 'e' || c == 'E'
  let mantissa := body.takeWhile (!isMark ·)
  let power := body.dropWhile (!isMark ·)
  let whole ← decimal? (mantissa.takeWhile (· != '.'))
  let fraction ←
    match mantissa.dropWhile (· != '.') with
    | [] => some []
    | _ :: ds => ungroup? Char.isDigit ds
  let exponent ←
    match power with
    | [] => some 0
    | _ :: ds => exponent? ds
  if fraction.isEmpty && power.isEmpty then none
  else if !negative && exceeds (whole ++ fraction) (exponent - fraction.length) then none
  else some (.real (String.ofList (cs.filter (· != '_'))))

/-- A value written without quotes. -/
def scalar? (cs : List Char) : Option Item :=
  match String.ofList cs with
  | "true" => some (.flag true)
  | "false" => some (.flag false)
  | "inf" | "+inf" | "-inf" | "nan" | "+nan" | "-nan" => some (.real (String.ofList cs))
  | _ =>
    match moment? cs with
    | some m => some (.moment m)
    | none =>
      match integer? cs with
      | some n => some (.integer n)
      | none => real? cs

/-- The characters that end a value written without quotes. -/
def endsScalar (c : Char) : Bool :=
  c == ' ' || c == '\t' || c == '\n' || c == '\r' || c == ',' || c == ']' || c == '\x7d' || c == '#'

/-- The characters of a value written without quotes, from its first one on. A day is continued by
a time after a single space. -/
def scalarSpan (first : Char) (text : List Char) : List Char × Tail text :=
  let front := first :: text.takeWhile (!endsScalar ·)
  let rest := dropWhile (!endsScalar ·) text
  match day? front, rest with
  | some (_, []), ⟨' ' :: c :: more, h⟩ =>
    if c.isDigit then
      (front ++ ' ' :: c :: more.takeWhile (!endsScalar ·),
        ⟨(dropWhile (!endsScalar ·) more).1, by
          have := (dropWhile (!endsScalar ·) more).2
          simp only [List.length_cons] at h
          omega⟩)
    else (front, rest)
  | _, _ => (front, rest)

end Bindery.Toml

import Bindery.Json.Fault
import Bindery.Text.Rest

/-!
# Numbers in a JSON text

No field of a description is a number, so a number is either skipped or reported as standing in
the wrong place. A reported number is an integer when it has neither fraction nor exponent and
fits in 64 bits with its sign, and a real otherwise. A real is built from the digits that fit in
64 bits and a power of ten.
-/
namespace Bindery.Json
open Text

def startsDigit (text : List Char) : Bool :=
  text.head?.any Char.isDigit

/-- The decimal digits at the front of a text, and what follows them. -/
def digits (text : List Char) : List Nat × List Char :=
  ((text.takeWhile Char.isDigit).map (·.toNat - 48), text.dropWhile Char.isDigit)

/-- The parts of a written number: `whole.fraction` times ten to the `exponent`. -/
structure Numeral where
  whole : List Nat
  fraction : Option (List Nat) := none
  exponent : Option Int := none
  deriving Repr

/-- The digits before the point. A leading zero stands alone. -/
def wholePart (text : List Char) : Except Fault (List Nat × List Char) :=
  match text with
  | [] => .error .early
  | '0' :: rest => if startsDigit rest then .error .malformed else .ok ([0], rest)
  | text => if startsDigit text then .ok (digits text) else .error .malformed

/-- One digit or more. -/
def someDigits (text : List Char) : Except Fault (List Nat × List Char) :=
  match text with
  | [] => .error .early
  | text => if startsDigit text then .ok (digits text) else .error .malformed

def fractionPart (text : List Char) : Except Fault (Option (List Nat) × List Char) :=
  match text with
  | '.' :: rest => do
    let (ds, rest) ← someDigits rest
    .ok (some ds, rest)
  | text => .ok (none, text)

/-- The value of decimal digits. -/
def decimalValue (ds : List Nat) : Nat :=
  ds.foldl (fun n d => n * 10 + d) 0

/-- The exponent, if there is one. -/
def exponentPart (text : List Char) : Except Fault (Option Int) :=
  match text with
  | [] => .ok none
  | c :: rest =>
    if c = 'e' ∨ c = 'E' then
      match rest with
      | '-' :: rest => do return some (-(decimalValue (← someDigits rest).1 : Int))
      | '+' :: rest => do return some (decimalValue (← someDigits rest).1 : Int)
      | rest => do return some (decimalValue (← someDigits rest).1 : Int)
    else .ok none

/-- Reads a number after its sign. -/
def numeral (text : List Char) : Except Fault Numeral := do
  let (whole, rest) ← wholePart text
  let (fraction, rest) ← fractionPart rest
  let exponent ← exponentPart rest
  return { whole, fraction, exponent }

/-- Appends digits to a significand as long as it fits in 64 bits, and counts the digits left. -/
def appendDigits (significand : Nat) : List Nat → Nat × Nat
  | [] => (significand, 0)
  | d :: ds =>
    let next := significand * 10 + d
    if next < UInt64.size then appendDigits next ds else (significand, ds.length + 1)

/-- The number nearest to `significand · 10 ^ exponent`, unless it is too large. -/
def real (negative : Bool) (significand : Nat) (exponent : Int) : Except Fault Found :=
  match (Decimal.Binary64.ofRatio? significand 1).bind (·.shift? exponent) with
  | some magnitude => .ok (.real ⟨negative, magnitude⟩)
  | none => .error .malformed

/-- What a number is reported as. -/
def Numeral.found (negative : Bool) (n : Numeral) : Except Fault Found :=
  let (whole, dropped) := appendDigits 0 n.whole
  if n.fraction.isNone && n.exponent.isNone && dropped == 0 then
    if !negative then .ok (.integer whole)
    else if 0 < whole ∧ 2 * whole ≤ UInt64.size then .ok (.integer (-whole))
    else real true whole 0
  else
    let fraction := n.fraction.getD []
    let (significand, unused) := appendDigits whole fraction
    real negative significand (dropped - ((fraction.length : Int) - unused) + n.exponent.getD 0)

/-- The number at the front of a text, after its sign. -/
def number (negative : Bool) (text : List Char) : Except Fault Found := do
  (← numeral text).found negative

/-- What follows one digit or more. -/
def skipDigits (text : List Char) : Except Fault (Rest text) :=
  match text with
  | [] => .error .malformed
  | c :: rest =>
    if c.isDigit then .ok ((Rest.ofCons c rest).tail (dropWhile Char.isDigit rest))
    else .error .malformed

def skipSign (text : List Char) : Tail text :=
  match text with
  | '-' :: rest => (Rest.ofCons '-' rest).weaken
  | '+' :: rest => (Rest.ofCons '+' rest).weaken
  | text => Tail.whole text

def skipExponent (text : List Char) : Except Fault (Tail text) :=
  match text with
  | [] => .ok (Tail.whole [])
  | c :: rest =>
    if c = 'e' ∨ c = 'E' then do
      let left ← skipDigits (skipSign rest).1
      return ((Rest.ofCons c rest).tail (skipSign rest) |>.trans left).weaken
    else .ok (Tail.whole (c :: rest))

/-- What follows a fraction and an exponent, as far as there are any. -/
def skipFraction (text : List Char) : Except Fault (Tail text) :=
  match text with
  | '.' :: rest => do
    let digits ← skipDigits rest
    return (((Rest.ofCons '.' rest).trans digits).tail (← skipExponent digits.1)).weaken
  | text => skipExponent text

/-- What follows a skipped number, after its sign. -/
def skipNumber (text : List Char) : Except Fault (Rest text) :=
  match text with
  | '0' :: rest => do
    if startsDigit rest then .error .malformed
    else .ok ((Rest.ofCons '0' rest).tail (← skipFraction rest))
  | text => do
    let after ← skipDigits text
    .ok (after.tail (← skipFraction after.1))

end Bindery.Json

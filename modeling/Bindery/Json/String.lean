import Bindery.Json.Fault
import Bindery.Text.Rest

/-!
# Strings in a JSON text

A string stands in double quotes. Control characters are escaped, and a code point outside the
basic plane is escaped as a pair of surrogates. A string that is skipped need not pair them.
-/
namespace Bindery.Json
open Text

def hexValue? (c : Char) : Option Nat :=
  if '0' ≤ c ∧ c ≤ '9' then some (c.toNat - 48)
  else if 'a' ≤ c ∧ c ≤ 'f' then some (c.toNat - 87)
  else if 'A' ≤ c ∧ c ≤ 'F' then some (c.toNat - 55)
  else none

def byteSize (text : List Char) : Nat :=
  text.foldl (fun n c => n + c.utf8Size) 0

/-- Four hexadecimal digits. A text of fewer than four bytes ends too early. -/
def hexQuad (text : List Char) : Except Fault (Nat × Rest text) :=
  match text with
  | a :: b :: c :: d :: rest =>
    match hexValue? a, hexValue? b, hexValue? c, hexValue? d with
    | some a, some b, some c, some d =>
      .ok (((a * 16 + b) * 16 + c) * 16 + d, ⟨rest, by simp only [List.length_cons]; omega⟩)
    | _, _, _, _ => .error .malformed
  | short => .error (if byteSize short < 4 then .early else .malformed)

/-- The characters with an escape of one letter. -/
def letterEscape? : Char → Option Char
  | '"' => some '"'
  | '\\' => some '\\'
  | '/' => some '/'
  | 'b' => some '\x08'
  | 'f' => some '\x0c'
  | 'n' => some '\n'
  | 'r' => some '\r'
  | 't' => some '\t'
  | _ => none

def isHighSurrogate (n : Nat) : Bool := 0xD800 ≤ n && n ≤ 0xDBFF

def isLowSurrogate (n : Nat) : Bool := 0xDC00 ≤ n && n ≤ 0xDFFF

/-- The code point of a surrogate pair. -/
def surrogatePair (high low : Nat) : Char :=
  Char.ofNat (0x10000 + (high - 0xD800) * 0x400 + (low - 0xDC00))

/-- The second half of a pair, after the first. -/
def lowSurrogate (text : List Char) : Except Fault (Nat × Rest text) :=
  match text with
  | [] => .error .early
  | '\\' :: [] => .error .early
  | '\\' :: 'u' :: rest => do
    let (low, rest') ← hexQuad rest
    if isLowSurrogate low then
      .ok (low, ⟨rest'.1, by have := rest'.2; simp only [List.length_cons]; omega⟩)
    else .error .malformed
  | _ => .error .malformed

/-- The character of an escape, after its backslash. -/
def escape (text : List Char) : Except Fault (Char × Rest text) :=
  match text with
  | [] => .error .early
  | 'u' :: rest => do
    let (n, after) ← hexQuad rest
    if isLowSurrogate n then .error .malformed
    else if isHighSurrogate n then do
      let (low, left) ← lowSurrogate after.1
      .ok (surrogatePair n low, (Rest.ofCons 'u' rest).trans (after.trans left))
    else .ok (Char.ofNat n, (Rest.ofCons 'u' rest).trans after)
  | c :: rest =>
    match letterEscape? c with
    | some d => .ok (d, Rest.ofCons c rest)
    | none => .error .malformed

/-- Whether a character may not stand in a string. -/
def isControl (c : Char) : Bool := c.toNat < 0x20

/-- The characters of a string, after its opening quote. -/
def string (text : List Char) : Except Fault (List Char × Rest text) :=
  match text with
  | [] => .error .early
  | '"' :: rest => .ok ([], Rest.ofCons '"' rest)
  | '\\' :: rest => do
    let (c, after) ← escape rest
    let (cs, left) ← string after.1
    .ok (c :: cs, (Rest.ofCons '\\' rest).trans (after.trans left))
  | c :: rest => do
    if isControl c then .error .malformed
    else
      let (cs, left) ← string rest
      .ok (c :: cs, (Rest.ofCons c rest).trans left)
termination_by text.length
decreasing_by
  all_goals first
    | exact Nat.lt_succ_of_lt after.2
    | exact Nat.lt_succ_self _

/-- An escape in a skipped string, after its backslash. -/
def skipEscape (text : List Char) : Except Fault (Rest text) :=
  match text with
  | [] => .error .early
  | 'u' :: rest => do
    let (_, after) ← hexQuad rest
    .ok ((Rest.ofCons 'u' rest).trans after)
  | c :: rest =>
    if (letterEscape? c).isSome then .ok (Rest.ofCons c rest) else .error .malformed

/-- What follows a skipped string, after its opening quote. -/
def skipString (text : List Char) : Except Fault (Rest text) :=
  match text with
  | [] => .error .early
  | '"' :: rest => .ok (Rest.ofCons '"' rest)
  | '\\' :: rest => do
    let after ← skipEscape rest
    let left ← skipString after.1
    .ok ((Rest.ofCons '\\' rest).trans (after.trans left))
  | c :: rest => do
    if isControl c then .error .malformed
    else
      let left ← skipString rest
      .ok ((Rest.ofCons c rest).trans left)
termination_by text.length
decreasing_by
  all_goals first
    | exact Nat.lt_succ_of_lt after.2
    | exact Nat.lt_succ_self _

end Bindery.Json

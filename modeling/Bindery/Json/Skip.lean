import Bindery.Json.Number
import Bindery.Json.String

/-!
# Skipping values in a JSON text

Values under unknown keys are passed over, whatever they are, as long as they are well formed.
The brackets that are still open are kept in a list, so nesting has no limit.
-/
namespace Bindery.Json
open Text

def isBlank (c : Char) : Bool :=
  c == ' ' || c == '\n' || c == '\t' || c == '\r'

/-- The first character that is not blank, and what follows it. -/
def next? (text : List Char) : Option (Char × Rest text) :=
  match dropWhile isBlank text with
  | ⟨[], _⟩ => none
  | ⟨c :: rest, h⟩ => some (c, ⟨rest, h⟩)

/-- The letters of a word, one by one. -/
def word (letters : List Char) (text : List Char) : Except Fault (Tail text) :=
  match letters, text with
  | [], text => .ok (Tail.whole text)
  | _ :: _, [] => .error .early
  | l :: letters, c :: rest =>
    if l = c then do
      let left ← word letters rest
      .ok ⟨left.1, Nat.le_succ_of_le left.2⟩
    else .error .malformed

/-- What follows a value that is no list and no object, given its first character. -/
def skipScalar (c : Char) (text : List Char) : Except Fault (Tail text) :=
  match c with
  | 'n' => word ['u', 'l', 'l'] text
  | 't' => word ['r', 'u', 'e'] text
  | 'f' => word ['a', 'l', 's', 'e'] text
  | '"' => do return (← skipString text).weaken
  | '-' => do return (← skipNumber text).weaken
  | c =>
    if c.isDigit then do return (← skipNumber (c :: text)).behind
    else .error .malformed

def colon (text : List Char) : Except Fault (Rest text) :=
  match next? text with
  | none => .error .early
  | some (':', rest) => .ok rest
  | some _ => .error .malformed

/-- What follows a skipped key and its colon. -/
def skipKey (text : List Char) : Except Fault (Rest text) :=
  match next? text with
  | none => .error .early
  | some ('"', rest) => do
    let after ← skipString rest.1
    let left ← colon after.1
    .ok (rest.trans (after.trans left))
  | some _ => .error .malformed

inductive Bracket where
  | list | object
  deriving DecidableEq, Repr

def Bracket.close : Bracket → Char
  | list => ']'
  | object => '\x7d'

/-- Where skipping stands: before a value, or after one. -/
inductive Place where
  | before | after
  deriving DecidableEq, Repr

/-- What follows the close of all opened brackets, from a place inside the innermost one. -/
def skipFrom (place : Place) (opened : List Bracket) (text : List Char) :
    Except Fault (List Char) :=
  match place with
  | .before =>
    match next? text with
    | none => .error .early
    | some ('[', rest) =>
      match next? rest.1 with
      | none => .error .early
      | some (']', after) => skipFrom .after opened after.1
      | some _ => skipFrom .before (.list :: opened) rest.1
    | some ('\x7b', rest) =>
      match next? rest.1 with
      | none => .error .early
      | some ('\x7d', after) => skipFrom .after opened after.1
      | some _ => do
        let after ← skipKey rest.1
        skipFrom .before (.object :: opened) after.1
    | some (c, rest) => do
      let after ← skipScalar c rest.1
      skipFrom .after opened after.1
  | .after =>
    match opened with
    | [] => .ok text
    | bracket :: outer =>
      match next? text with
      | none => .error .early
      | some (',', rest) =>
        match bracket with
        | .list => skipFrom .before (bracket :: outer) rest.1
        | .object => do
          let after ← skipKey rest.1
          skipFrom .before (bracket :: outer) after.1
      | some (c, rest) =>
        if c = bracket.close then skipFrom .after outer rest.1 else .error .malformed
termination_by text.length
decreasing_by
  all_goals first
    | exact Nat.lt_trans after.2 rest.2
    | exact Nat.lt_of_le_of_lt after.2 rest.2
    | exact rest.2

/-- Skipping a value shortens the text, and skipping from behind one does not lengthen it. -/
theorem skipFrom_length {place : Place} {opened : List Bracket} {text rest : List Char}
    (h : skipFrom place opened text = .ok rest) :
    rest.length ≤ text.length ∧ (place = .before → rest.length < text.length) := by
  fun_induction skipFrom place opened text with
  | case1 | case2 | case5 | case10 | case14 => cases h
  | case3 _ _ rest _ after _ ih | case6 _ _ rest _ after _ ih =>
    have := ih h
    have := after.2
    have := rest.2
    omega
  | case4 _ _ rest _ _ _ _ ih =>
    have := ih h
    have := rest.2
    omega
  | case7 _ _ rest _ _ _ _ ih =>
    cases hk : skipKey rest.1 with
    | error => simp [hk, bind, Except.bind] at h
    | ok after =>
      have := ih after (by simpa [hk, bind, Except.bind] using h)
      have := after.2
      have := rest.2
      omega
  | case8 _ _ c rest _ _ _ ih =>
    cases hk : skipScalar c rest.1 with
    | error => simp [hk, bind, Except.bind] at h
    | ok after =>
      have := ih after (by simpa [hk, bind, Except.bind] using h)
      have := after.2
      have := rest.2
      omega
  | case9 => cases h; simp
  | case11 _ _ rest _ ih | case13 _ _ _ rest _ _ ih =>
    have := ih h
    have := rest.2
    omega
  | case12 _ _ rest _ ih =>
    cases hk : skipKey rest.1 with
    | error => simp [hk, bind, Except.bind] at h
    | ok after =>
      have := ih after (by simpa [hk, bind, Except.bind] using h)
      have := after.2
      have := rest.2
      omega

/-- What follows one value of any kind. -/
def skip (text : List Char) : Except Fault (Rest text) :=
  match h : skipFrom .before [] text with
  | .ok rest => .ok ⟨rest, (skipFrom_length h).2 rfl⟩
  | .error fault => .error fault

end Bindery.Json

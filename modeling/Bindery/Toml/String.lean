import Bindery.Toml.Scalar

/-!
# Strings in a TOML document

Basic strings have escapes and literal strings have none; each kind also comes over several lines
in triple quotes, where a line break is a line feed however it is written. Up to two quotes may
stand right before the closing ones.
-/
namespace Bindery.Toml
open Text

/-- The characters allowed in comments and, quotes apart, in strings. -/
def isVisible (c : Char) : Bool :=
  c == '\t' || (0x20 ≤ c.toNat && c.toNat != 0x7F)

def isBlank (c : Char) : Bool := c == ' ' || c == '\t'

/-- A code point of so many hexadecimal digits. -/
def codePoint? (width : Nat) (text : List Char) : Option (Char × Tail text) :=
  let front := text.take width
  if front.length = width ∧ front.all isHexDigit then
    let n := valueOf 16 front
    if n.isValidChar then
      some (Char.ofNat n, ⟨text.drop width, by simp only [List.length_drop]; omega⟩)
    else none
  else none

/-- An escape, after its backslash. -/
def escape? : (text : List Char) → Option (Char × Rest text)
  | 'b' :: rest => some ('\x08', Rest.ofCons _ rest)
  | 'f' :: rest => some ('\x0c', Rest.ofCons _ rest)
  | 'n' :: rest => some ('\n', Rest.ofCons _ rest)
  | 'r' :: rest => some ('\r', Rest.ofCons _ rest)
  | 't' :: rest => some ('\t', Rest.ofCons _ rest)
  | '"' :: rest => some ('"', Rest.ofCons _ rest)
  | '\\' :: rest => some ('\\', Rest.ofCons _ rest)
  | 'u' :: rest => do
    let (c, left) ← codePoint? 4 rest
    return (c, (Rest.ofCons _ rest).tail left)
  | 'U' :: rest => do
    let (c, left) ← codePoint? 8 rest
    return (c, (Rest.ofCons _ rest).tail left)
  | _ => none

/-- A basic string on one line, after its opening quote. -/
def basic? (text : List Char) : Option (List Char × Rest text) :=
  match text with
  | [] => none
  | '"' :: rest => some ([], Rest.ofCons _ rest)
  | '\\' :: rest => do
    let (c, after) ← escape? rest
    let (cs, left) ← basic? after.1
    return (c :: cs, (Rest.ofCons _ rest).trans (after.trans left))
  | c :: rest => do
    if isVisible c then
      let (cs, left) ← basic? rest
      return (c :: cs, (Rest.ofCons _ rest).trans left)
    else none
termination_by text.length
decreasing_by
  all_goals first
    | exact Nat.lt_succ_of_lt after.2
    | exact Nat.lt_succ_self _

/-- A literal string on one line, after its opening quote. -/
def literal? : (text : List Char) → Option (List Char × Rest text)
  | [] => none
  | '\'' :: rest => some ([], Rest.ofCons _ rest)
  | c :: rest => do
    if isVisible c then
      let (cs, left) ← literal? rest
      return (c :: cs, (Rest.ofCons _ rest).trans left)
    else none

def newline? : (text : List Char) → Option (Rest text)
  | '\n' :: rest => some (Rest.ofCons _ rest)
  | '\r' :: '\n' :: rest => some ((Rest.ofCons _ ('\n' :: rest)).trans (Rest.ofCons _ rest))
  | _ => none

/-- What follows all blanks and line breaks at the front. -/
def dropSpace : (text : List Char) → Tail text
  | '\n' :: rest => ⟨(dropSpace rest).1, Nat.le_succ_of_le (dropSpace rest).2⟩
  | ' ' :: rest => ⟨(dropSpace rest).1, Nat.le_succ_of_le (dropSpace rest).2⟩
  | '\t' :: rest => ⟨(dropSpace rest).1, Nat.le_succ_of_le (dropSpace rest).2⟩
  | '\r' :: '\n' :: rest =>
    ⟨(dropSpace rest).1, Nat.le_succ_of_le (Nat.le_succ_of_le (dropSpace rest).2)⟩
  | text => Tail.whole text

/-- A line break that is escaped, together with all blanks around it, after the backslash. -/
def escapedBreak? (text : List Char) : Option (Rest text) := do
  let blanks := dropWhile isBlank text
  let after ← newline? blanks.1
  return blanks.rest (after.tail (dropSpace after.1))

/-- The end of a string over several lines: the quotes that still belong to it. -/
def closing? (quote : Char) : (text : List Char) → Option (List Char × Rest text)
  | a :: b :: c :: rest =>
    if a = quote ∧ b = quote ∧ c = quote then
      match rest with
      | d :: e :: more =>
        if d = quote ∧ e = quote then
          some ([quote, quote], ⟨more, by simp only [List.length_cons]; omega⟩)
        else if d = quote then
          some ([quote], ⟨e :: more, by simp only [List.length_cons]; omega⟩)
        else some ([], ⟨d :: e :: more, by simp only [List.length_cons]; omega⟩)
      | [d] =>
        if d = quote then some ([quote], ⟨[], by simp⟩)
        else some ([], ⟨[d], by simp⟩)
      | [] => some ([], ⟨[], by simp⟩)
    else none
  | _ => none

/-- A basic string over several lines, after its opening quotes and the line break that may follow
them. -/
def longBasic? (text : List Char) : Option (List Char × Rest text) :=
  match closing? '"' text with
  | some found => some found
  | none =>
    match text with
    | [] => none
    | '\\' :: rest =>
      match escapedBreak? rest with
      | some after => do
        let (cs, left) ← longBasic? after.1
        return (cs, (Rest.ofCons _ rest).trans (after.trans left))
      | none => do
        let (c, after) ← escape? rest
        let (cs, left) ← longBasic? after.1
        return (c :: cs, (Rest.ofCons _ rest).trans (after.trans left))
    | c :: rest =>
      match newline? (c :: rest) with
      | some after => do
        let (cs, left) ← longBasic? after.1
        return ('\n' :: cs, after.trans left)
      | none => do
        if isVisible c then
          let (cs, left) ← longBasic? rest
          return (c :: cs, (Rest.ofCons _ rest).trans left)
        else none
termination_by text.length
decreasing_by
  all_goals first
    | exact after.2
    | exact Nat.lt_succ_of_lt after.2
    | exact Nat.lt_succ_self _

/-- A literal string over several lines, after its opening quotes and the line break that may
follow them. -/
def longLiteral? (text : List Char) : Option (List Char × Rest text) :=
  match closing? '\'' text with
  | some found => some found
  | none =>
    match text with
    | [] => none
    | c :: rest =>
      match newline? (c :: rest) with
      | some after => do
        let (cs, left) ← longLiteral? after.1
        return ('\n' :: cs, after.trans left)
      | none => do
        if isVisible c then
          let (cs, left) ← longLiteral? rest
          return (c :: cs, (Rest.ofCons _ rest).trans left)
        else none
termination_by text.length
decreasing_by
  all_goals first
    | exact after.2
    | exact Nat.lt_succ_self _

def dropNewline (text : List Char) : Tail text :=
  match newline? text with
  | some rest => rest.weaken
  | none => Tail.whole text

def string? (text : List Char) : Option (String × Rest text) :=
  match text with
  | '"' :: '"' :: '"' :: rest => do
    let (cs, left) ← longBasic? (dropNewline rest).1
    return (String.ofList cs, ⟨left.1, by
      have := left.2; have := (dropNewline rest).2; simp only [List.length_cons]; omega⟩)
  | '\'' :: '\'' :: '\'' :: rest => do
    let (cs, left) ← longLiteral? (dropNewline rest).1
    return (String.ofList cs, ⟨left.1, by
      have := left.2; have := (dropNewline rest).2; simp only [List.length_cons]; omega⟩)
  | '"' :: rest => do
    let (cs, left) ← basic? rest
    return (String.ofList cs, (Rest.ofCons _ rest).trans left)
  | '\'' :: rest => do
    let (cs, left) ← literal? rest
    return (String.ofList cs, (Rest.ofCons _ rest).trans left)
  | _ => none

end Bindery.Toml

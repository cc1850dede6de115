import Bindery.Toml.String

/-!
# Reading a TOML document

A document is a sequence of lines, each empty, a key with a value, or a header that opens a table.
Only lists may go over several lines. Values and keys nest to a fixed depth.
-/
namespace Bindery.Toml
open Text

/-- Values and keys nest less deep than this. -/
def depthLimit : Nat := 80

/-- The characters of a key without quotes. -/
def isBare (c : Char) : Bool :=
  c.isAlphanum || c == '-' || c == '_'

/-- One part of a key. -/
def part? (text : List Char) : Option (String × Rest text) :=
  match text with
  | '"' :: rest => do
    let (cs, left) ← basic? rest
    return (String.ofList cs, (Rest.ofCons _ rest).trans left)
  | '\'' :: rest => do
    let (cs, left) ← literal? rest
    return (String.ofList cs, (Rest.ofCons _ rest).trans left)
  | c :: rest =>
    if isBare c then
      some (String.ofList (c :: rest.takeWhile isBare),
        (Rest.ofCons c rest).tail (dropWhile isBare rest))
    else none
  | [] => none

/-- The parts of a key, with blanks around each. -/
def parts? (text : List Char) : Option (List String × Rest text) := do
  let blanks := dropWhile isBlank text
  let (first, after) ← part? blanks.1
  let more := dropWhile isBlank after.1
  match h : more.1 with
  | '.' :: rest =>
    have shorter : rest.length < text.length := by
      have h1 := more.2; have h2 := after.2; have h3 := blanks.2
      rw [h, List.length_cons] at h1
      omega
    let (others, left) ← parts? rest
    return (first :: others, ⟨left.1, Nat.lt_trans left.2 shorter⟩)
  | _ => return ([first], blanks.rest (after.tail more))
termination_by text.length

/-- A key: the path to its table and its last part. -/
def key? (text : List Char) : Option ((List String × String) × Rest text) := do
  let (parts, left) ← parts? text
  let last ← parts.getLast?
  if parts.length < depthLimit then return ((parts.dropLast, last), left) else none

/-- What follows all blanks, line breaks and comments at the front. A comment ends with its
line. -/
def dropTrivia (text : List Char) : Tail text :=
  let space := dropSpace text
  match h : space.1 with
  | '#' :: rest =>
    have : (dropWhile isVisible rest).1.length < text.length := by
      have h1 := (dropWhile isVisible rest).2; have h2 := space.2
      rw [h, List.length_cons] at h2
      omega
    ⟨(dropTrivia (dropWhile isVisible rest).1).1,
      Nat.le_trans (dropTrivia (dropWhile isVisible rest).1).2 (Nat.le_of_lt this)⟩
  | _ => space
termination_by text.length

abbrev Reader : Type := (text : List Char) → Option (Item × Rest text)

/-- The values of a list, after its opening bracket or a comma. -/
def items? (value : Reader) (text : List Char) : Option (List Item × Rest text) := do
  let start := dropTrivia text
  match h : start.1 with
  | ']' :: rest => return ([], ⟨rest, by
      have := start.2; rw [h, List.length_cons] at this; omega⟩)
  | _ =>
    let (item, after) ← value start.1
    let more := dropTrivia after.1
    match h' : more.1 with
    | ']' :: rest => return ([item], ⟨rest, by
        have h1 := more.2; have h2 := after.2; have h3 := start.2
        rw [h', List.length_cons] at h1; omega⟩)
    | ',' :: rest =>
      have shorter : rest.length < text.length := by
        have h1 := more.2; have h2 := after.2; have h3 := start.2
        rw [h', List.length_cons] at h1; omega
      let (others, left) ← items? value rest
      return (item :: others, ⟨left.1, Nat.lt_trans left.2 shorter⟩)
    | _ => none
termination_by text.length

/-- A key with its value. -/
def pair? (value : Reader) (text : List Char) :
    Option ((List String × String × Item) × Rest text) := do
  let ((path, key), after) ← key? text
  match h : after.1 with
  | '=' :: rest =>
    let (item, left) ← value (dropWhile isBlank rest).1
    return ((path, key, item), ⟨left.1, by
      have h1 := left.2; have h2 := (dropWhile isBlank rest).2; have h3 := after.2
      rw [h, List.length_cons] at h3; omega⟩)
  | _ => none

/-- The pairs of an inline table, after its opening brace or a comma. -/
def inlinePairs? (value : Reader) (entries : Entries) (text : List Char) :
    Option (Entries × Rest text) := do
  let ((path, key, item), after) ← pair? value text
  let entries ← entries.insert path key item
  let more := dropWhile isBlank after.1
  match h : more.1 with
  | '\x7d' :: rest => return (entries, ⟨rest, by
      have h1 := more.2; have h2 := after.2; rw [h, List.length_cons] at h1; omega⟩)
  | ',' :: rest =>
    have shorter : rest.length < text.length := by
      have h1 := more.2; have h2 := after.2; rw [h, List.length_cons] at h1; omega
    let (entries, left) ← inlinePairs? value entries rest
    return (entries, ⟨left.1, Nat.lt_trans left.2 shorter⟩)
  | _ => none
termination_by text.length

/-- An inline table, after its opening brace. -/
def inlineTable? (value : Reader) (text : List Char) : Option (Entries × Rest text) :=
  let start := dropWhile isBlank text
  match h : start.1 with
  | '\x7d' :: rest => some ([], ⟨rest, by
      have := start.2; rw [h, List.length_cons] at this; omega⟩)
  | _ => inlinePairs? value [] text

def bareValue? : Reader
  | [] => none
  | c :: rest =>
    if endsScalar c then none
    else do
      let (front, left) := scalarSpan c rest
      return (← scalar? front, (Rest.ofCons c rest).tail left)

/-- A value that opens at most so many brackets inside one another. -/
def value? (depth : Nat) : Reader := fun text =>
  match text with
  | '[' :: rest =>
    match depth with
    | 0 => none
    | depth + 1 => do
      let (items, left) ← items? (value? depth) rest
      return (.list items, (Rest.ofCons _ rest).trans left)
  | '\x7b' :: rest =>
    match depth with
    | 0 => none
    | depth + 1 => do
      let (entries, left) ← inlineTable? (value? depth) rest
      return (.table .inline entries, (Rest.ofCons _ rest).trans left)
  | text =>
    if text.head? = some '"' ∨ text.head? = some '\'' then do
      let (s, left) ← string? text
      return (.text s, left)
    else bareValue? text

/-- What follows a line break, or nothing at the end of the text. -/
def break? (text : List Char) : Option (Tail text) :=
  if text.isEmpty then some (Tail.whole text)
  else do
    return (← newline? text).weaken

/-- What follows a comment and its line, after the mark of the comment. -/
def comment? (text : List Char) : Option (Tail text) := do
  let visible := dropWhile isVisible text
  return visible.trans (← break? visible.1)

/-- What follows the rest of a line: blanks and perhaps a comment. -/
def lineEnd? (text : List Char) : Option (Tail text) :=
  match dropWhile isBlank text with
  | ⟨'#' :: rest, h⟩ => do
    let left ← comment? rest
    return ⟨left.1, Nat.le_trans (Nat.le_succ_of_le left.2) h⟩
  | blanks => do return blanks.trans (← break? blanks.1)

/-- The document so far: its entries and the key of the last header. -/
structure Draft where
  entries : Entries := []
  opened : List String := []

/-- A line that holds something, and what follows it. -/
def line? (draft : Draft) (text : List Char) : Option (Draft × Rest text) :=
  match text with
  | '[' :: '[' :: rest => do
    let ((path, key), after) ← key? rest
    match h : after.1 with
    | ']' :: ']' :: more =>
      let entries ← draft.entries.openElement path key
      let left ← lineEnd? more
      return (⟨entries, path ++ [key]⟩, ⟨left.1, by
        have h1 := after.2; have h2 := left.2
        rw [h] at h1; simp only [List.length_cons] at h1 ⊢; omega⟩)
    | _ => none
  | '[' :: rest => do
    let ((path, key), after) ← key? rest
    match h : after.1 with
    | ']' :: more =>
      let entries ← draft.entries.openTable path key
      let left ← lineEnd? more
      return (⟨entries, path ++ [key]⟩, ⟨left.1, by
        have h1 := after.2; have h2 := left.2
        rw [h] at h1; simp only [List.length_cons] at h1 ⊢; omega⟩)
    | _ => none
  | text => do
    let ((path, key, item), after) ← pair? (value? (depthLimit - 1)) text
    let entries ← draft.entries.insertUnder draft.opened path key item
    let left ← lineEnd? after.1
    return ({ draft with entries }, after.tail left)

def lines? (draft : Draft) (text : List Char) : Option Draft := do
  let start := dropSpace text
  match h : start.1 with
  | [] => return draft
  | '#' :: rest =>
    let left ← comment? rest
    have : left.1.length < text.length := by
      have h1 := start.2; have h2 := left.2
      rw [h, List.length_cons] at h1
      omega
    lines? draft left.1
  | c :: rest =>
    let (draft, left) ← line? draft (c :: rest)
    have : left.1.length < text.length := by
      have h1 := start.2; have h2 := left.2
      rw [h] at h1
      omega
    lines? draft left.1
termination_by text.length

/-- Reads a document. A byte order mark may stand at its front. -/
def parse? (text : String) : Option Entries :=
  let chars := match text.toList with
    | '\ufeff' :: rest => rest
    | chars => chars
  (lines? {} chars).map (·.entries)

end Bindery.Toml

import Bindery.Json.Skip

/-!
# Reading records from a JSON text

A reader takes a value of known shape from the front of a text. A record is an object with its
fields in any order, each at most once and unknown keys skipped, or a list of its fields in
declaration order. Fields that may be left out keep the value of the blank record.
-/
namespace Bindery.Json
open Text

/-- Takes a value from the front of a text. -/
abbrev Reader (α : Type) : Type :=
  (text : List Char) → Except Fault (α × Rest text)

/-- The fault of a value that is not what was expected, given its first character. Scalars are read
to their end first, so a fault inside one comes before the misfit. -/
def misfit (expected : Expected) (c : Char) (text : List Char) : Fault :=
  let found : Except Fault Found :=
    match c with
    | 'n' => do let _ ← word ['u', 'l', 'l'] text; .ok .null
    | 't' => do let _ ← word ['r', 'u', 'e'] text; .ok (.flag true)
    | 'f' => do let _ ← word ['a', 'l', 's', 'e'] text; .ok (.flag false)
    | '"' => do let (cs, _) ← string text; .ok (.text (String.ofList cs))
    | '-' => number true text
    | '[' => .ok .sequence
    | '\x7b' => .ok .map
    | c => if c.isDigit then number false (c :: text) else .error .malformed
  match found with
  | .ok found => .misfit (.kind found expected)
  | .error fault => fault

def readString : Reader String := fun text =>
  match next? text with
  | none => .error .early
  | some ('"', rest) => do
    let (cs, left) ← string rest.1
    .ok (String.ofList cs, rest.trans left)
  | some (c, rest) => .error (misfit .text c rest.1)

def readFlag : Reader Bool := fun text =>
  match next? text with
  | none => .error .early
  | some ('t', rest) => do
    let left ← word ['r', 'u', 'e'] rest.1
    .ok (true, rest.tail left)
  | some ('f', rest) => do
    let left ← word ['a', 'l', 's', 'e'] rest.1
    .ok (false, rest.tail left)
  | some (c, rest) => .error (misfit .flag c rest.1)

/-- The items of a list that follow the first one. -/
def readMore {α : Type} (item : Reader α) (text : List Char) :
    Except Fault (List α × Rest text) :=
  match next? text with
  | none => .error .early
  | some (']', rest) => .ok ([], rest)
  | some (',', rest) => do
    let (a, after) ← item rest.1
    have : after.1.length < text.length := Nat.lt_trans after.2 rest.2
    let (as, left) ← readMore item after.1
    .ok (a :: as, rest.trans (after.trans left))
  | some _ => .error .malformed
termination_by text.length

/-- The items of a list, after its opening bracket. -/
def readItems {α : Type} (item : Reader α) (text : List Char) :
    Except Fault (List α × Rest text) :=
  match next? text with
  | none => .error .early
  | some (']', rest) => .ok ([], rest)
  | some _ => do
    let (a, after) ← item text
    let (as, left) ← readMore item after.1
    .ok (a :: as, after.trans left)

def readList {α : Type} (item : Reader α) : Reader (List α) := fun text =>
  match next? text with
  | none => .error .early
  | some ('[', rest) => do
    let (as, left) ← readItems item rest.1
    .ok (as, rest.trans left)
  | some (c, rest) => .error (misfit .sequence c rest.1)

/-- A field of a record: its key, whether it must be given, and the reader of its value, which
yields the change that the value makes to the record. -/
structure Field (α : Type) where
  key : String
  required : Bool
  load : Reader (α → α)

/-- A field whose value is read by the given reader and put in its place. -/
def Field.ofReader {α β : Type} (key : String) (required : Bool) (read : Reader β)
    (put : β → α → α) : Field α where
  key
  required
  load := fun text => do
    let (b, rest) ← read text
    .ok (put b, rest)

/-- A kind of record: its name in messages, the record before any field was read, and its fields in
declaration order. -/
structure Shape (α : Type) where
  name : String
  blank : α
  fields : List (Field α)

/-- The first field that must be given and was not. -/
def Shape.missing? {α : Type} (shape : Shape α) (seen : List String) : Option String :=
  (shape.fields.find? fun f => f.required && !seen.contains f.key).map (·.key)

/-- The record at the closing brace of its object. -/
def Shape.finish {α : Type} (shape : Shape α) (seen : List String) (record : α) :
    Except Fault α :=
  match shape.missing? seen with
  | some key => .error (.misfit (.missing key))
  | none => .ok record

/-- A member of an object, after the opening quote of its key: the fields seen and the record so
far. -/
def readMember {α : Type} (shape : Shape α) (seen : List String) (record : α)
    (text : List Char) : Except Fault ((List String × α) × Rest text) := do
  let (cs, rest) ← string text
  let key := String.ofList cs
  match shape.fields.find? (·.key == key) with
  | none =>
    let after ← colon rest.1
    let left ← skip after.1
    .ok ((seen, record), rest.trans (after.trans left))
  | some field =>
    if seen.contains key then .error (.misfit (.repeated key))
    else
      let after ← colon rest.1
      let (change, left) ← field.load after.1
      .ok ((key :: seen, change record), rest.trans (after.trans left))

/-- The members of an object that follow the first one. -/
def readMembers {α : Type} (shape : Shape α) (seen : List String) (record : α)
    (text : List Char) : Except Fault (α × Rest text) :=
  match next? text with
  | none => .error .early
  | some ('\x7d', rest) => do .ok (← shape.finish seen record, rest)
  | some (',', rest) =>
    match next? rest.1 with
    | none => .error .early
    | some ('"', opened) => do
      let ((seen, record), after) ← readMember shape seen record opened.1
      have : after.1.length < text.length :=
        Nat.lt_trans after.2 (Nat.lt_trans opened.2 rest.2)
      let (whole, left) ← readMembers shape seen record after.1
      .ok (whole, rest.trans (opened.trans (after.trans left)))
    | some _ => .error .malformed
  | some _ => .error .malformed
termination_by text.length

/-- A record written as an object, after its opening brace. -/
def readObject {α : Type} (shape : Shape α) (text : List Char) : Except Fault (α × Rest text) :=
  match next? text with
  | none => .error .early
  | some ('\x7d', rest) => do .ok (← shape.finish [] shape.blank, rest)
  | some ('"', rest) => do
    let ((seen, record), after) ← readMember shape [] shape.blank rest.1
    let (whole, left) ← readMembers shape seen record after.1
    .ok (whole, rest.trans (after.trans left))
  | some _ => .error .malformed

/-- The fields of a record written as a list, from the given position on. Every element but the
first follows a comma, and the list may end before fields that need not be given. -/
def readElements {α : Type} (shape : Shape α) (fields : List (Field α)) (position : Nat)
    (record : α) (text : List Char) : Except Fault (α × Rest text) :=
  match fields with
  | [] =>
    match next? text with
    | none => .error .early
    | some (']', rest) => .ok (record, rest)
    | some _ => .error .malformed
  | field :: fields =>
    match next? text with
    | none => .error .early
    | some (']', _) =>
      if field.required then
        .error (.misfit (.short position shape.name shape.fields.length))
      else readElements shape fields (position + 1) record text
    | some (c, rest) =>
      if position = 0 then do
        let (change, after) ← field.load text
        let (whole, left) ← readElements shape fields (position + 1) (change record) after.1
        .ok (whole, after.trans left)
      else if c = ',' then do
        let (change, after) ← field.load rest.1
        let (whole, left) ← readElements shape fields (position + 1) (change record) after.1
        .ok (whole, rest.trans (after.trans left))
      else .error .malformed

/-- Reads a record. -/
def readRecord {α : Type} (shape : Shape α) : Reader α := fun text =>
  match next? text with
  | none => .error .early
  | some ('\x7b', rest) => do
    let (record, left) ← readObject shape rest.1
    .ok (record, rest.trans left)
  | some ('[', rest) => do
    let (record, left) ← readElements shape shape.fields 0 shape.blank rest.1
    .ok (record, rest.trans left)
  | some (c, rest) => .error (misfit (.record shape.name) c rest.1)

/-- Reads a text that holds one value and nothing else but blanks. -/
def readAll {α : Type} (read : Reader α) (text : String) : Except Fault α := do
  let (value, rest) ← read text.toList
  match next? rest.1 with
  | none => .ok value
  | some _ => .error .malformed

end Bindery.Json

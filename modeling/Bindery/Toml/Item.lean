/-!
# Tables and values of a TOML document

A document is a table of items. Tables remember how they came to be, because that decides which
later lines may add to them: an inline table is closed, a table with a header of its own takes no
second header, a table implied by a longer header may still get its own, and a table made by a
dotted key grows by dotted keys only.
-/
namespace Bindery.Toml

structure Day where
  year : Nat
  month : Nat
  day : Nat
  deriving DecidableEq, Repr

structure Clock where
  hour : Nat
  minute : Nat
  second : Nat
  nanosecond : Nat := 0
  deriving DecidableEq, Repr

inductive Offset where
  | zulu
  | minutes (distance : Int)
  deriving DecidableEq, Repr

structure Moment where
  day : Option Day := none
  clock : Option Clock := none
  offset : Option Offset := none
  deriving DecidableEq, Repr

inductive Origin where
  | inline | header | implied | dotted
  deriving DecidableEq, Repr

/-- An item of a document. A list of tables that is written with headers keeps its last table
apart, since that is the one later lines add to. -/
inductive Item where
  | text (value : String)
  | integer (value : Int)
  | real (literal : String)
  | flag (value : Bool)
  | moment (value : Moment)
  | list (items : List Item)
  | table (origin : Origin) (entries : List (String × Item))
  | tables (earlier : List (List (String × Item))) (last : List (String × Item))
  deriving Repr

/-- The entries of a table, in the order in which they were made. -/
abbrev Entries := List (String × Item)

def Entries.set (entries : Entries) (key : String) (item : Item) : Entries :=
  entries.map fun e => if e.1 == key then (key, item) else e

/-- Changes the table that a path leads to. Missing tables on the way are made, dotted or implied.
A dotted key does not pass through a table with a header of its own. -/
def Entries.change (dotted : Bool) (f : Origin → Entries → Option Entries) :
    (path : List String) → Origin → Entries → Option Entries
  | [], origin, entries => f origin entries
  | key :: path, _, entries =>
    match entries.lookup key with
    | none => do
      let origin := if dotted then .dotted else .implied
      let inner ← Entries.change dotted f path origin []
      return entries ++ [(key, .table origin inner)]
    | some (.table .inline _) => none
    | some (.table origin inner) =>
      if dotted && origin == .header then none
      else do
        let inner ← Entries.change dotted f path origin inner
        return entries.set key (.table origin inner)
    | some (.tables earlier last) => do
      let last ← Entries.change dotted f path .header last
      return entries.set key (.tables earlier last)
    | some _ => none

/-- Adds an item under a dotted key, given by the path to its table and its last part. A table that
was not made by a dotted key takes no entry through one. -/
def Entries.insert (entries : Entries) (path : List String) (key : String) (item : Item) :
    Option Entries :=
  let put (origin : Origin) (inner : Entries) : Option Entries :=
    if !path.isEmpty && origin != .dotted then none
    else if (inner.lookup key).isSome then none
    else some (inner ++ [(key, item)])
  entries.change true put path .header

/-- Opens the table of a header. -/
def Entries.openTable (entries : Entries) (path : List String) (key : String) : Option Entries :=
  let put (_ : Origin) (parent : Entries) : Option Entries :=
    match parent.lookup key with
    | none => some (parent ++ [(key, .table .header [])])
    | some (.table .implied inner) => some (parent.set key (.table .header inner))
    | some _ => none
  entries.change false put path .header

/-- Opens one more table of the list of a header. -/
def Entries.openElement (entries : Entries) (path : List String) (key : String) :
    Option Entries :=
  let put (_ : Origin) (parent : Entries) : Option Entries :=
    match parent.lookup key with
    | none => some (parent ++ [(key, .tables [] [])])
    | some (.tables earlier last) => some (parent.set key (.tables (earlier ++ [last]) []))
    | some _ => none
  entries.change false put path .header

/-- Adds an item to the table that the last header opened. -/
def Entries.insertUnder (entries : Entries) (opened path : List String) (key : String)
    (item : Item) : Option Entries :=
  entries.change false (fun _ inner => inner.insert path key item) opened .header

end Bindery.Toml

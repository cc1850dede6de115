import Bindery.Unicode.Uppercase

/-!
# Written types

A type is written as a built-in name or as a capitalised name of its own, followed by `[]`
for an array. The grammar has one level of arrays and no tuples.
-/
namespace Bindery

inductive Builtin where
  | boolean | number | bigint | string | bytes | void
  deriving DecidableEq, Repr, Inhabited

namespace Builtin

/-- The built-in types in the order in which their names are looked up. -/
def all : List Builtin := [boolean, number, bigint, string, bytes, void]

def name : Builtin → String
  | boolean => "boolean"
  | number => "number"
  | bigint => "bigint"
  | string => "string"
  | bytes => "Uint8Array"
  | void => "void"

/-- The built-in type with the given name. -/
def ofName? (text : String) : Option Builtin :=
  all.find? (·.name == text)

@[simp] theorem ofName?_name (p : Builtin) : ofName? p.name = some p := by
  cases p <;> decide

theorem ofName?_eq_some_iff {text : String} {p : Builtin} :
    ofName? text = some p ↔ p.name = text := by
  constructor
  · intro h
    have := List.find?_some h
    simpa using this
  · rintro rfl
    exact ofName?_name p

end Builtin

inductive Base where
  | builtin (b : Builtin)
  | named (name : String)
  deriving DecidableEq, Repr, Inhabited

def Base.text : Base → String
  | builtin p => p.name
  | named name => name

/-- The name of a type that is not built in. -/
def Base.named? : Base → Option String
  | builtin _ => none
  | named name => some name

structure TypeExpr where
  base : Base
  array : Bool := false
  deriving DecidableEq, Repr, Inhabited

namespace TypeExpr

/-- Why a text is no type. -/
inductive Error where
  | unknown (text : String)
  | tuple (text : String)
  deriving DecidableEq, Repr

def Error.message : Error → String
  | unknown text => s!"Unknown type: {text}"
  | tuple text => s!"Tuples not supported: {text}"

def text (t : TypeExpr) : String :=
  if t.array then t.base.text ++ "[]" else t.base.text

/-- The type of functions that return nothing. -/
def isVoid (t : TypeExpr) : Bool :=
  !t.array && t.base == .builtin .void

/-- The name of a type that is neither built in nor an array. -/
def named? (t : TypeExpr) : Option String :=
  if t.array then none else t.base.named?

/-- A text without one trailing `[]`, if it has one. -/
def element? (text : String) : Option String :=
  match text.toList.reverse with
  | ']' :: '[' :: front => some (String.ofList front.reverse)
  | _ => none

/-- Whether a text starts with a character that satisfies the test. -/
def leads (test : Char → Bool) (text : String) : Bool :=
  text.toList.head?.any test

/-- Reads a type. Names that start with a small letter are reserved for the built-in types, and
a text in brackets is a tuple. -/
def parse (text : String) : Except Error TypeExpr :=
  let base := (element? text).getD text
  let array := (element? text).isSome
  match Builtin.ofName? base with
  | some p => .ok ⟨.builtin p, array⟩
  | none =>
    if leads (· == '[') text then .error (.tuple text)
    else if leads Unicode.isUppercase base then .ok ⟨.named base, array⟩
    else .error (.unknown text)

end TypeExpr
end Bindery

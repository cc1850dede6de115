import Bindery.Host.Types

/-!
# Structs in Go

A struct of the API package has a field for each field of the description. The two conversions
fill a struct of one side from a struct of the other; towards C the length of an array is filled
beside it.
-/
namespace Bindery.Host
open Text

structure Assignment where
  field : String
  value : String
  deriving DecidableEq, Repr

def Assignment.text (a : Assignment) : String :=
  s!"\t\t{a.field}: {a.value},\n"

def structDeclaration (s : Record) : Except TypeExpr.Error String := do
  let fields ← s.fields.mapM fun f => do
    return s!"\t{capitalize f.name} " ++ (← localTypes.spellText f.type)
  return s!"\ntype {s.name} struct \x7b\n" ++ lines fields ++ "\x7d\n"

/-- How a field of Go is filled from C. -/
def inwardField (f : Variable) : Except TypeExpr.Error Assignment := do
  let source := "fromC." ++ foreignField f.name
  return ⟨capitalize f.name, ← inward.convertText f.type source ""⟩

/-- How a field of C, with its length if it is an array, is filled from Go. -/
def outwardField (f : Variable) : Except TypeExpr.Error (List Assignment) := do
  let source := "fromGo." ++ capitalize f.name
  let field := foreignField f.name
  let value ← outward.convertText f.type source ""
  let length := if f.arrayTyped then [⟨field ++ "_length", s!"C.size_t(len({source}))"⟩] else []
  return ⟨field, value⟩ :: length

/-- The conversion of a struct from C. -/
def structInward (s : Record) : Except TypeExpr.Error String := do
  let fields ← s.fields.mapM inwardField
  return s!"\nfunc Go{s.name}(fromC *C.{s.name}) api.{s.name} \x7b\n\treturn api.{s.name}\x7b\n"
    ++ String.join (fields.map Assignment.text) ++ "\t\x7d\n\x7d\n"

/-- The conversion of a struct to C. -/
def structOutward (s : Record) : Except TypeExpr.Error String := do
  let fields ← s.fields.mapM outwardField
  return s!"\nfunc C{s.name}(fromGo api.{s.name}) C.{s.name} \x7b\n\treturn C.{s.name}\x7b\n"
    ++ String.join (fields.flatten.map Assignment.text) ++ "\t\x7d\n\x7d\n"

end Bindery.Host

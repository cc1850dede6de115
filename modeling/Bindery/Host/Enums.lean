import Bindery.Api.Basic
import Bindery.Text.Lines

/-!
# Enums in Go

An enum crosses the boundary as the position of its member. The positions and the constants of the
members form one table, from which the declarations of the constants and the two conversions are
written. A conversion compares with the rows in order, so the first match decides.
-/
namespace Bindery.Host
open Text

structure EnumRow where
  ordinal : Nat
  member : String
  constant : String
  deriving DecidableEq, Repr

/-- The table of an enum. -/
def enumRows (e : Record) : List EnumRow :=
  e.fields.zipIdx.map fun (member, ordinal) =>
    { ordinal, member := member.name, constant := e.name ++ member.name }

/-- The constant for a position, as the conversion from C finds it. -/
def constantAt? (rows : List EnumRow) (ordinal : Nat) : Option String :=
  (rows.find? (·.ordinal == ordinal)).map (·.constant)

/-- The position of a constant, as the conversion to C finds it. -/
def ordinalOf? (rows : List EnumRow) (constant : String) : Option Nat :=
  (rows.find? (·.constant == constant)).map (·.ordinal)

/-- Whether the constants are strings: one member backed by strings makes them so. -/
def hasTextConstants (e : Record) : Bool :=
  e.fields.any fun m => Builtin.ofName? m.type == some .string

/-- The value of a constant: its name in quotes, or its position. -/
def constantValue (e : Record) (row : EnumRow) : String :=
  if hasTextConstants e then s!"\"{row.member}\"" else s!"{row.ordinal}"

def enumDeclaration (e : Record) : String :=
  let base := if hasTextConstants e then "string" else "int64"
  let constants := (enumRows e).map fun row =>
    s!"\t{row.constant} {e.name} = {constantValue e row}"
  s!"\ntype {e.name} {base}\n\nconst (\n" ++ lines constants ++ ")\n"

/-- The conversion of an enum from C. -/
def enumInward (e : Record) : String :=
  let compare (row : EnumRow) : String :=
    s!"\tif *fromC == {row.ordinal} \x7b\n\t\treturn api.{row.constant}\n\t\x7d\n"
  s!"\nfunc Go{e.name}(fromC *C.{e.name}) api.{e.name} \x7b\n"
    ++ String.join ((enumRows e).map compare)
    ++ s!"\n\tpanic(fmt.Sprintf(\"Unknown ordinal for {e.name}: %d\", *fromC))\n\x7d\n"

/-- The conversion of an enum to C. -/
def enumOutward (e : Record) : String :=
  let compare (row : EnumRow) : String :=
    s!"\tif fromGo == api.{row.constant} \x7b\n\t\treturn {row.ordinal}\n\t\x7d\n"
  s!"\nfunc C{e.name}(fromGo api.{e.name}) C.{e.name} \x7b\n"
    ++ String.join ((enumRows e).map compare)
    ++ s!"\n\tpanic(fmt.Sprintf(\"Unknown value for {e.name}: %v\", fromGo))\n\x7d\n"

end Bindery.Host

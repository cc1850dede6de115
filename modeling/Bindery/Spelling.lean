import Bindery.TypeExpr

/-!
# Spelling types and converting values

Each side of the boundary spells types in its own way and converts values to its own
representation. A table says what happens to built-in types, to arrays and to named types; types
and values are then mapped through it.
-/
namespace Bindery

structure TypeTable where
  builtin : Builtin → String
  array : String → String
  named : String → String := id

namespace TypeTable

/-- The spelling of a type without its array mark. -/
def base (table : TypeTable) : Base → String
  | .builtin p => table.builtin p
  | .named name => table.named name

def spell (table : TypeTable) (t : TypeExpr) : String :=
  if t.array then table.array (table.base t.base) else table.base t.base

/-- The spelling of a written type. -/
def spellText (table : TypeTable) (text : String) : Except TypeExpr.Error String := do
  return table.spell (← TypeExpr.parse text)

end TypeTable

structure ValueTable where
  builtin : Builtin → String → String
  array : Base → String → String
  named : String → String → String

namespace ValueTable

/-- The conversion of a value of the given type. -/
def bare (table : ValueTable) (t : TypeExpr) (value : String) : String :=
  if t.array then table.array t.base value
  else
    match t.base with
    | .builtin p => table.builtin p value
    | .named name => table.named name value

/-- The conversion of a value after a lead such as a return keyword. A call that returns nothing
stands without the lead. -/
def convert (table : ValueTable) (t : TypeExpr) (value lead : String) : String :=
  if t.isVoid then table.bare t value else lead ++ table.bare t value

def convertText (table : ValueTable) (text value lead : String) : Except TypeExpr.Error String := do
  return table.convert (← TypeExpr.parse text) value lead

end ValueTable
end Bindery

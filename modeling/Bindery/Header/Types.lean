import Bindery.Api.Basic
import Bindery.Spelling

/-!
# Types in C

Arrays are pointers to their first element with a length beside them, and both strings and bytes
are pointers to characters.
-/
namespace Bindery.Header

def types : TypeTable where
  builtin
    | .boolean => "short"
    | .number => "double"
    | .bigint => "longlong"
    | .string | .bytes => "char*"
    | .void => ""
  array element := element ++ "*"

/-- The declaration of a length beside an array. -/
def lengthOf (name : String) : String := s!"size_t {name}_length"

/-- The declarations of a parameter or a field. -/
def declareVariable (v : Variable) : Except TypeExpr.Error (List String) := do
  let type ← types.spellText v.type
  let length := if v.arrayTyped then [lengthOf v.name] else []
  return s!"{type} {v.name}" :: length

end Bindery.Header

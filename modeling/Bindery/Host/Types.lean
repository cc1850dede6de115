import Bindery.Api.Basic
import Bindery.Spelling
import Bindery.Text.Case
import Bindery.Text.Lines

/-!
# Types and values in Go

Go spells the types of a description in its own terms, with or without the qualifier of the API
package, and it spells the types of C through the pseudo-package `C`. Values are converted in both
directions; an array from C has its length in a variable beside it.
-/
namespace Bindery.Host
open Text

def builtin : Builtin → String
  | .boolean => "bool"
  | .number => "float64"
  | .bigint => "int64"
  | .string => "string"
  | .bytes => "[]byte"
  | .void => ""

/-- How Go spells types within the API package. -/
def localTypes : TypeTable where
  builtin := builtin
  array element := "[]" ++ element

/-- How Go spells types outside the API package. -/
def apiTypes : TypeTable where
  builtin := builtin
  array element := "[]" ++ element
  named name := "api." ++ name

/-- The built-in types of C, seen from Go. -/
def foreignBuiltin : Builtin → String
  | .boolean => "C.short"
  | .number => "C.double"
  | .bigint => "C.longlong"
  | .string | .bytes => "*C.char"
  | .void => ""

/-- How Go spells the types of C. -/
def foreignTypes : TypeTable where
  builtin := foreignBuiltin
  array element := "*" ++ element
  named name := "C." ++ name

/-- A value of a built-in type of C as a value of Go. -/
def fromForeign (p : Builtin) (value : String) : String :=
  match p with
  | .boolean => s!"bool({value} == 1)"
  | .number => s!"float64({value})"
  | .bigint => s!"int64({value})"
  | .string => s!"C.GoString({value})"
  | .bytes => s!"C.GoBytes(unsafe.Pointer({value}), C.int(C.strlen({value})))"
  | .void => value

def inward : ValueTable where
  builtin := fromForeign
  array element value :=
    match element with
    | .builtin .string => s!"GoStringSlice({value}, int({value}_length))"
    | .named name => s!"GoMapSlice({value}, int({value}_length), Go{name})"
    | .builtin p =>
      let convert := fromForeign p "*e"
      s!"GoMapSlice({value}, int({value}_length), func(e *{foreignBuiltin p}) {builtin p} "
        ++ s!"\x7b return {convert} \x7d)"
  named name value := s!"Go{name}(&{value})"

/-- A value of a built-in type of Go as a value of C. -/
def toForeign (p : Builtin) (value : String) : String :=
  match p with
  | .boolean => s!"CBool({value})"
  | .number => s!"C.double({value})"
  | .bigint => s!"C.longlong({value})"
  | .string => s!"C.CString({value})"
  | .bytes => s!"(*C.char)(C.CBytes({value}))"
  | .void => value

def outward : ValueTable where
  builtin := toForeign
  array element value :=
    match element with
    | .builtin .string => s!"CStringSlice({value})"
    | .named name => s!"CMapSlice({value}, C{name})"
    | .builtin p =>
      let convert := toForeign p "e"
      s!"CMapSlice({value}, func(e {builtin p}) {foreignBuiltin p} "
        ++ s!"\x7b return {convert} \x7d)"
  named name value := s!"C{name}({value})"

/-- The reserved words of Go. -/
def reservedWords : List String := [
  "break", "case", "chan", "const", "continue", "default", "defer", "else", "fallthrough",
  "for", "func", "go", "goto", "if", "import", "interface", "map", "package", "range",
  "return", "select", "struct", "switch", "type", "var"]

/-- How Go names a field of C: a reserved word gets an underscore. -/
def foreignField (name : String) : String :=
  if reservedWords.contains name then "_" ++ name else name

/-- The results of a method: its value unless it returns nothing, and the reports of absence and
failure. -/
def resultTypes (types : TypeTable) (m : Method) (t : TypeExpr) : List String :=
  (if t.isVoid then [] else [types.spell t])
    ++ (if m.optional then ["bool"] else [])
    ++ (if m.throws then ["error"] else [])

def resultText : List String → String
  | [] => ""
  | [result] => " " ++ result
  | results => s!" ({commas results})"

def signature (types : TypeTable) (m : Method) : Except TypeExpr.Error String := do
  let params ← m.params.mapM fun p => do
    return p.name ++ " " ++ (← types.spellText p.type)
  let results := resultTypes types m (← m.resultType)
  return s!"{capitalize m.name}({commas params}){resultText results}"

end Bindery.Host

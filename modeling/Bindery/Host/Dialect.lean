import Bindery.Export.Assembly
import Bindery.Header.Prototypes
import Bindery.Host.Types

/-!
# The dialect of the wrapper

An export converts its arguments from C, calls the method, and converts the result back.
Objects of handle interfaces live in a table and cross the boundary as indices. Absence and failure
are reported through pointers.
-/
namespace Bindery.Host
open Text Export

/-- The table that holds the objects of a handle interface. -/
def tableOf (interface : String) : String :=
  decapitalize interface ++ "_handles"

/-- The variables that take the results of a call that may fail. -/
def resultVariables (m : Method) (t : TypeExpr) : List String :=
  (if t.isVoid then [] else ["result"])
    ++ (if m.optional then ["ok"] else [])
    ++ (if m.throws then ["err"] else [])

/-- The body of a method that reports absence or failure. -/
def reporting (m : Method) (call : String) : Except TypeExpr.Error (List String) := do
  let t ← m.resultType
  return [commas (resultVariables m t) ++ " := " ++ call]
    ++ (if m.optional then ["if ok \x7b\n\t\t*cok = 1\n\t\x7d"] else [])
    ++ (if m.throws then ["if err != nil \x7b\n\t\t*cerr = C.CString(err.Error())\n\t\x7d"] else [])
    ++ (if t.isVoid then [] else [outward.convert t "result" "return "])

def dialect : Dialect where
  name := "cgo"
  exportName := Header.exportName
  methodName := capitalize
  instanceName := decapitalize
  indexParam index := return s!"{index} int64"
  objectAt interface index := return s!"{tableOf interface}[{index}]"
  forget object := return s!"{object} = nil"
  chainEnd := return "folded"
  bindChain chain := return s!"folded := {chain}"
  declare v := ofType do
    let type ← foreignTypes.spellText v.type
    let length := if v.arrayTyped then [s!"{v.name}_length C.size_t"] else []
    return s!"{v.name} {type}" :: length
  argument v := ofType (inward.convertText v.type v.name "")
  call object name args := s!"{object}.{name}({commas args})"
  reports m :=
    (if m.optional then ["cok *C.short"] else []) ++ (if m.throws then ["cerr **C.char"] else [])
  result m newHandle :=
    if newHandle then return "int64" else ofType (foreignTypes.spellText m.returns)
  storing interface call :=
    let table := tableOf interface
    return [s!"{table} = append({table}, {call})", s!"return int64(len({table}) - 1)"]
  reporting m call := ofType (reporting m call)
  returning m call := ofType do return [← outward.convertText m.returns call "return "]
  text e :=
    let result := if e.result = "" then "" else " " ++ e.result
    let body := "\n\t".intercalate e.body
    s!"//export {e.name}\nfunc {e.name}({commas e.params}){result} \x7b\n\t{body}\n\x7d\n"

end Bindery.Host

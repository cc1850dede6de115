import Bindery.Export.Assembly
import Bindery.Header.Declarations
import Bindery.Text.Case
import Bindery.Text.Lines

/-!
# The C header

The header declares the types of a description and the exports of its interfaces. Bodies live on the
other side of the boundary, so the dialect of the header leaves them empty.
-/
namespace Bindery.Header
open Text Export

def exportName (interface method : String) : String :=
  s!"{capitalize interface}_{capitalize method}"

/-- How the header spells exports. -/
def dialect : Dialect where
  name := "c-header"
  exportName := exportName
  methodName := capitalize
  instanceName := decapitalize
  indexParam index := return s!"longlong {index}"
  objectAt interface index := return s!"{decapitalize interface}_handles[{index}]"
  forget object := return s!"{object} = NULL"
  chainEnd := return "folded"
  bindChain chain := return s!"folded = {chain}"
  declare v := ofType (declareVariable v)
  argument v := return v.name
  call object name args := s!"{object}.{name}({commas args})"
  reports m :=
    (if m.optional then ["short* cok"] else []) ++ (if m.throws then ["char** cerr"] else [])
  result m newHandle :=
    if newHandle then return "longlong"
    else do
      let type ← ofType (types.spellText m.returns)
      return if type = "" then "void" else type
  storing _ _ := return []
  reporting _ _ := return []
  returning _ _ := return []
  text e :=
    let params := if e.params.isEmpty then "void" else commas e.params
    s!"{e.result} {e.name}({params});"

/-- The prototypes of an interface, under its name. -/
def prototypes (c : Chapter) : String :=
  if c.exports.isEmpty then ""
  else s!"\n/* {c.name} */\n" ++ lines (c.exports.map dialect.text)

/-- The text of the header, within the given guard. -/
def document (api : Api) (guard : String) : Except Error String := do
  let chapters ← dialect.chapters api
  let declared ← ofType (declarations api)
  return s!"#ifndef {guard}\n#define {guard}\n\n#include <stddef.h>\n\n"
    ++ declared
    ++ "\nvoid InitLibrary(void);\n"
    ++ String.join (chapters.map prototypes)
    ++ s!"\n#endif /* {guard} */\n"

end Bindery.Header

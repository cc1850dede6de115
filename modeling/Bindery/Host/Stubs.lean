import Bindery.Export.Basic
import Bindery.GeneratedFile
import Bindery.Host.Types
import Bindery.Layout

/-!
# The stubs

A first implementation of every interface, to be filled in: each method panics. One type hands out
the singletons.
-/
namespace Bindery.Host
open Text Export

/-- The method that hands out a singleton. -/
def provider (i : Interface) : String :=
  s!"\nfunc (i *Init) {i.name}() api.{i.name} \x7b\n\treturn New{i.name}()\n\x7d\n"

def stubMethod (i : Interface) (m : Method) : Except TypeExpr.Error String := do
  let head ← signature apiTypes m
  return s!"\nfunc (s *{i.name}) {head} \x7b\n\tpanic(\"not implemented yet\")\n\x7d\n"

def stub (i : Interface) : Except TypeExpr.Error String := do
  let methods ← i.methods.mapM (stubMethod i)
  return s!"\n//=== {i.name} ===\n\ntype {i.name} struct \x7b\n\x7d\n"
    ++ s!"\nfunc New{i.name}() *{i.name} \x7b\n\treturn &{i.name}\x7b\x7d\n\x7d\n"
    ++ String.join methods

def stubs (api : Api) (layout : Layout) : Except Error String := do
  api.validate.mapError Error.invalid
  let interfaces ← ofType (api.interfaces.mapM stub)
  return lines [s!"package {GeneratedFile.leafName layout.library}", "",
      s!"import api \"{layout.qualified layout.api}\"", "", "type Init struct \x7b", "\x7d", "",
      "func NewInit() *Init \x7b", "\treturn &Init\x7b\x7d", "\x7d"]
    ++ String.join (api.singletons.map provider)
    ++ String.join interfaces

end Bindery.Host

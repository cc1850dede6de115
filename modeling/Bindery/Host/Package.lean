import Bindery.Export.Basic
import Bindery.Host.Enums
import Bindery.Host.Structs

/-!
# The API package

The package declares the enums, the structs and the interfaces of a description for those who
implement it.
-/
namespace Bindery.Host
open Text Export

def interfaceDeclaration (i : Interface) : Except TypeExpr.Error String := do
  let methods ← i.methods.mapM fun m => do
    return "\t" ++ (← signature localTypes m)
  return s!"\ntype {i.name} interface \x7b\n" ++ lines methods ++ "\x7d\n"

/-- The text of the API package under the given name. -/
def package (api : Api) (name : String) : Except Error String := do
  api.validate.mapError Error.invalid
  let structs ← ofType (api.structs.mapM structDeclaration)
  let interfaces ← ofType (api.interfaces.mapM interfaceDeclaration)
  return lines ["// Code generated by portal. DO NOT EDIT.", "", s!"package {name}"]
    ++ String.join (api.enums.map enumDeclaration)
    ++ String.join structs
    ++ String.join interfaces

end Bindery.Host

import Bindery.Export.Basic

/-!
# Dialects

A dialect is how one side of the boundary spells the parts of an export: parameters, objects, calls
and bodies. A dialect that lacks one of the capabilities for handles and folds fails where a
description needs it.
-/
namespace Bindery

open Export in
/-- How one side of the boundary spells the parts of an export. -/
structure Dialect where
  /-- The name of the dialect. -/
  name : String
  /-- The name of an export, from an interface and a method. -/
  exportName : String → String → String
  /-- The name of a method at its call. -/
  methodName : String → String
  /-- The variable that holds the instance of an interface. -/
  instanceName : String → String
  /-- The parameter that passes an index into a table of objects. -/
  indexParam : String → Except Error String
  /-- The object of an interface at an index. -/
  objectAt : String → String → Except Error String
  /-- Forgets an object. -/
  forget : String → Except Error String
  /-- The object that a chain of calls leads to. -/
  chainEnd : Except Error String
  /-- Makes the calls of a chain. -/
  bindChain : String → Except Error String
  /-- The declarations of a parameter. -/
  declare : Variable → Except Error (List String)
  /-- The argument that a parameter becomes. -/
  argument : Variable → Except Error String
  /-- A call of a method on an object. -/
  call : String → String → List String → String
  /-- The parameters through which absence and failure are reported. -/
  reports : Method → List String
  /-- The result of an export; the flag tells that it is a new object of a handle interface. -/
  result : Method → Bool → Except Error String
  /-- The body that stores a new object of an interface. -/
  storing : String → String → Except Error (List String)
  /-- The body of a method that reports absence or failure. -/
  reporting : Method → String → Except Error (List String)
  /-- The body of any other method. -/
  returning : Method → String → Except Error (List String)
  /-- The text of an export. -/
  text : Export → String

namespace Dialect

/-- The failure of a capability that a dialect lacks. -/
def lacking {α : Type} (name : String) (capability : Capability) : Except Export.Error α :=
  .error (.missingCapability name capability)

/-- The same dialect under another name, with only the capabilities that are kept. -/
def restrict (d : Dialect) (name : String) (keeps : Capability → Bool) : Dialect :=
  { d with
    name
    indexParam := fun index =>
      if keeps .indexParam then d.indexParam index else lacking name .indexParam
    objectAt := fun interface index =>
      if keeps .objectAt then d.objectAt interface index else lacking name .objectAt
    forget := fun object =>
      if keeps .forget then d.forget object else lacking name .forget
    chainEnd :=
      if keeps .chainEnd then d.chainEnd else lacking name .chainEnd
    bindChain := fun chain =>
      if keeps .bindChain then d.bindChain chain else lacking name .bindChain
    storing := fun interface call =>
      if keeps .storing then d.storing interface call else lacking name .storing }

end Dialect
end Bindery

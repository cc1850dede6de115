import Bindery.Api.Validation

/-!
# Exports

An export is a function at the boundary: what callers on the far side see of a method. Exporting a
description fails when a type cannot be read, when the description has a flaw, when the dialect of
a side lacks a capability that the description needs, or when a fold is used before any method has
led to it.
-/
namespace Bindery

structure Export where
  name : String
  params : List String
  result : String
  body : List String
  deriving DecidableEq, Repr, Inhabited

/-- The capabilities that a dialect may lack: they serve handles and folds only. -/
inductive Capability where
  | indexParam | objectAt | forget | chainEnd | bindChain | storing
  deriving DecidableEq, Repr

namespace Capability

def text : Capability → String
  | indexParam => "handle_param"
  | objectAt => "handle_value"
  | forget => "cleanup"
  | chainEnd => "fold_receiver"
  | bindChain => "fold_prelude"
  | storing => "new_handle_body"

def all : List Capability := [indexParam, objectAt, forget, chainEnd, bindChain, storing]

end Capability

namespace Export

inductive Error where
  | type (cause : TypeExpr.Error)
  | invalid (flaw : Api.Flaw)
  | missingCapability (dialect : String) (capability : Capability)
  | unseededFold (interface : String)
  deriving DecidableEq, Repr

def Error.message : Error → String
  | type cause => cause.message
  | invalid flaw => flaw.message
  | missingCapability dialect capability =>
    s!"target {dialect} is missing bridging capability: {capability.text}"
  | unseededFold name => s!"fold interface {name} is used before any function returns it"

/-- A type that cannot be read ends the export. -/
def ofType {α : Type} (result : Except TypeExpr.Error α) : Except Error α :=
  result.mapError .type

end Export
end Bindery

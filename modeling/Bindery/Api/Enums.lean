import Bindery.Api.Basic

/-!
# Enum-typed variables

Struct fields and parameters are marked when their type, or the element type of their array,
is the name of an enum of the same description. Marks that were written by hand are replaced.
Members of enums are left alone.
-/
namespace Bindery

/-- The variable with its mark recomputed from the names of the enums. -/
def Variable.marked (enums : List String) (v : Variable) : Variable :=
  { v with enumTyped := enums.contains ((TypeExpr.element? v.type).getD v.type) }

def Method.marked (enums : List String) (m : Method) : Method :=
  { m with params := m.params.map (·.marked enums) }

def Interface.marked (enums : List String) (i : Interface) : Interface :=
  { i with methods := i.methods.map (·.marked enums) }

/-- The struct with its fields marked. -/
def Record.marked (enums : List String) (r : Record) : Record :=
  { r with fields := r.fields.map (·.marked enums) }

def Api.enumNames (api : Api) : List String :=
  api.enums.map (·.name)

/-- The description with every struct field and every parameter marked. -/
def Api.markEnums (api : Api) : Api :=
  { api with
    interfaces := api.interfaces.map (·.marked api.enumNames)
    structs := api.structs.map (·.marked api.enumNames) }

end Bindery

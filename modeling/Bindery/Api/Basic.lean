import Bindery.TypeExpr

/-!
# Descriptions of an API

A description lists interfaces with their methods, structs with their fields and enums with
their members. An interface is plain, or it follows one of three models: a singleton has one
instance, a handle is passed across the boundary as an index into a table, and a fold is only
ever reached through a chain of calls.
-/
namespace Bindery

/-- A parameter, a struct field or an enum member: a name with a type as it was written. -/
structure Variable where
  name : String
  type : String
  enumTyped : Bool := false
  deriving DecidableEq, Repr, Inhabited

namespace Variable

def typeExpr (v : Variable) : Except TypeExpr.Error TypeExpr :=
  TypeExpr.parse v.type

/-- Whether the type is written as an array. -/
def arrayTyped (v : Variable) : Bool :=
  (TypeExpr.element? v.type).isSome

end Variable

/-- A method of an interface. It may return a second result that says whether there is a value,
and it may fail. -/
structure Method where
  name : String
  params : List Variable := []
  returns : String
  optional : Bool := false
  throws : Bool := false
  deriving DecidableEq, Repr, Inhabited

def Method.resultType (m : Method) : Except TypeExpr.Error TypeExpr :=
  TypeExpr.parse m.returns

/-- Whether the method reports an absent value or a failure beside its result. -/
def Method.fallible (m : Method) : Bool :=
  m.optional || m.throws

structure Interface where
  name : String
  singleton : Bool := false
  handle : Bool := false
  fold : Bool := false
  methods : List Method := []
  deriving DecidableEq, Repr, Inhabited

/-- A struct with its fields or an enum with its members. -/
structure Record where
  name : String
  fields : List Variable := []
  deriving DecidableEq, Repr, Inhabited

structure Api where
  interfaces : List Interface := []
  structs : List Record := []
  enums : List Record := []
  deriving DecidableEq, Repr, Inhabited

namespace Api

def interface? (api : Api) (name : String) : Option Interface :=
  api.interfaces.find? (·.name == name)

/-- The first struct with the given name. -/
def struct? (api : Api) (name : String) : Option Record :=
  api.structs.find? (·.name == name)

/-- The interfaces with a single instance. -/
def singletons (api : Api) : List Interface :=
  api.interfaces.filter (·.singleton)

/-- The interfaces whose objects are kept in a table. -/
def handles (api : Api) : List Interface :=
  api.interfaces.filter (·.handle)

/-- The interfaces that are reached through chains of calls. -/
def folds (api : Api) : List Interface :=
  api.interfaces.filter (·.fold)

end Api
end Bindery

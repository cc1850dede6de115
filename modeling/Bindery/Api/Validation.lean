import Bindery.Api.Basic

/-!
# Validation

A description is sound when names are unique within their category, enum members are backed by
strings or numbers, every written type can be read and names something that the description
holds, and no interface follows two models. The first flaw in that order is reported.
-/
namespace Bindery.Api

inductive Category where
  | interface | struct | enum
  deriving DecidableEq, Repr

def Category.text : Category → String
  | .interface => "interface"
  | .struct => "struct"
  | .enum => "enum"

inductive Flaw where
  | duplicateName (category : Category) (name : String)
  | invalidType (owner : String) (cause : TypeExpr.Error)
  | unresolvedType (owner name : String)
  | conflictingModel (interface : String)
  | invalidEnumMember (owner member type : String)
  deriving DecidableEq, Repr

def Flaw.message : Flaw → String
  | duplicateName category name => s!"duplicate {category.text} name: {name}"
  | invalidType owner cause => s!"{cause.message} (at {owner})"
  | unresolvedType owner name => s!"{owner}: unresolved type reference: {name}"
  | conflictingModel name =>
    s!"interface {name} must be at most one of singleton, handle, fold"
  | invalidEnumMember owner member type =>
    s!"enum {owner}: member {member} must be backed by string or number, got {type}"

/-- The first name that stands a second time. -/
def repeated? : (seen names : List String) → Option String
  | _, [] => none
  | seen, name :: names =>
    if seen.contains name then some name else repeated? (name :: seen) names

/-- The names that a type may refer to. -/
def names (api : Api) : List String :=
  api.interfaces.map (·.name) ++ api.structs.map (·.name) ++ api.enums.map (·.name)

/-- Names of a category are pairwise distinct. -/
def requireUnique (category : Category) (names : List String) : Except Flaw Unit :=
  match repeated? [] names with
  | some name => .error (.duplicateName category name)
  | none => .ok ()

/-- Whether enum members may have the type. -/
def backsEnum (type : String) : Bool :=
  match Builtin.ofName? type with
  | some .string | some .number => true
  | _ => false

/-- A member of an enum is backed by strings or numbers. -/
def requireBacked (enum : Record) (member : Variable) : Except Flaw Unit :=
  if backsEnum member.type then .ok ()
  else .error (.invalidEnumMember enum.name member.name member.type)

/-- A type can be read and refers to a known name. -/
def requireType (known : List String) (owner type : String) : Except Flaw Unit :=
  match TypeExpr.parse type with
  | .error cause => .error (.invalidType owner cause)
  | .ok ⟨.named name, _⟩ =>
    if known.contains name then .ok () else .error (.unresolvedType owner name)
  | .ok ⟨.builtin _, _⟩ => .ok ()

def requireFieldType (known : List String) (struct : Record) (field : Variable) :
    Except Flaw Unit :=
  requireType known s!"{struct.name}.{field.name}" field.type

/-- An interface follows at most one model. -/
def requireOneModel (i : Interface) : Except Flaw Unit :=
  if [i.singleton, i.handle, i.fold].count true > 1 then .error (.conflictingModel i.name)
  else .ok ()

def requireMethodTypes (known : List String) (i : Interface) (m : Method) : Except Flaw Unit := do
  let owner := s!"{i.name}.{m.name}"
  m.params.forM fun p => requireType known s!"{owner}({p.name})" p.type
  requireType known owner m.returns

def requireInterface (known : List String) (i : Interface) : Except Flaw Unit := do
  requireOneModel i
  i.methods.forM (requireMethodTypes known i)

/-- Reports the first flaw of a description. -/
def validate (api : Api) : Except Flaw Unit := do
  requireUnique .interface (api.interfaces.map (·.name))
  requireUnique .struct (api.structs.map (·.name))
  requireUnique .enum (api.enums.map (·.name))
  api.enums.forM fun e => e.fields.forM (requireBacked e)
  api.structs.forM fun s => s.fields.forM (requireFieldType api.names s)
  api.interfaces.forM (requireInterface api.names)

end Bindery.Api

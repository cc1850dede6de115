import Bindery.Header.Types

/-!
# Declarations of enums and structs in C

Enums come first, then every struct is announced, and then every struct is defined once. A struct
that is embedded by value has to be complete before its user, so definitions are ordered by a
depth-first search along embedded fields. Structs that embed each other in a circle are defined in
the order in which the search leaves them.
-/
namespace Bindery.Header

def enumerator (e : Record) (member : Variable) : String :=
  s!"{e.name}_{member.name}"

/-- The struct that a field embeds by value. Arrays are pointers, and enums have no fields. -/
def embedded? (api : Api) (field : Variable) : Except TypeExpr.Error (Option Record) := do
  let t ← field.typeExpr
  return if t.array || field.enumTyped then none else t.named?.bind api.struct?

structure Definition where
  name : String
  fields : List String
  deriving DecidableEq, Repr

/-- How far the search has come: the names it has reached, and the definitions it has left. -/
structure Search where
  reached : List String := []
  defined : List Definition := []
  deriving DecidableEq, Repr

/-- The declarations of all fields of a struct. -/
def declareFields (s : Record) : Except TypeExpr.Error (List String) := do
  return (← s.fields.mapM declareVariable).flatten

/-- Defines a struct after all that it embeds. A struct that was reached before is left alone, so
the search nests no deeper than there are structs. -/
def Search.define (api : Api) : (depth : Nat) → Search → Record → Except TypeExpr.Error Search
  | depth, search, s =>
    if search.reached.contains s.name then .ok search
    else
      let entered : Search := { search with reached := s.name :: search.reached }
      match depth with
      | 0 => .ok entered
      | depth + 1 => do
        let inner ← s.fields.foldlM (fun search field => do
          match ← embedded? api field with
          | none => return search
          | some t => Search.define api depth search t) entered
        let fields ← declareFields s
        return { inner with defined := inner.defined ++ [⟨s.name, fields⟩] }

/-- The definitions of all structs, each after the ones it embeds. -/
def definitions (api : Api) : Except TypeExpr.Error (List Definition) := do
  let search ← api.structs.foldlM (Search.define api api.structs.length) {}
  return search.defined

def enumText (e : Record) : String :=
  let members := ",\n  ".intercalate (e.fields.map (enumerator e))
  s!"\ntypedef enum {e.name} \x7b\n  {members}\n\x7d {e.name};\n"

/-- The announcement of a struct. -/
def announcement (s : Record) : String :=
  s!"typedef struct {s.name} {s.name};\n"

def Definition.text (d : Definition) : String :=
  let fields := String.join (d.fields.map fun f => s!"  {f};\n")
  s!"\nstruct {d.name} \x7b\n{fields}\x7d;\n"

def declarations (api : Api) : Except TypeExpr.Error String := do
  let defined ← definitions api
  let gap := if api.structs.isEmpty then "" else "\n"
  return "typedef long long longlong;\n"
    ++ String.join (api.enums.map enumText)
    ++ gap
    ++ String.join (api.structs.map announcement)
    ++ String.join (defined.map Definition.text)

end Bindery.Header

import Bindery.Export.Chains
import Bindery.Export.Dialect

/-!
# From methods to exports

Every method of an interface becomes an export, except for one that returns a fold: that one
extends a chain, and the chains pass from method to method in declaration order. The exports of a
fold make its chain first and call its method on the result.
-/
namespace Bindery

inductive ExportKind where
  | closer | newHandle | fallible | direct
  deriving DecidableEq, Repr

namespace ExportKind

/-- The parameter that a method closes: it is the only one, it is a handle, and nothing is
returned. -/
def closed? (roles : Roles) (m : Method) : Option Variable :=
  match m.params with
  | [p] => if roles.hasHandle p.type && m.returns == "void" then some p else none
  | _ => none

/-- A method closes a handle, or returns a new one, or may fail, or none of these. -/
def ofMethod (roles : Roles) (m : Method) : ExportKind :=
  if (closed? roles m).isSome then closer
  else if roles.hasHandle m.returns then newHandle
  else if m.fallible then fallible
  else direct

end ExportKind

/-- What a method contributes: an export or none, and the chains after it. -/
structure Contribution where
  made : Option Export
  chains : Chains
  deriving DecidableEq, Repr

structure Chapter where
  name : String
  exports : List Export
  deriving DecidableEq, Repr, Inhabited

namespace Dialect
open Export

/-- The parameter that holds the index of a method's own object. -/
def ownIndex : String := "handle"

/-- The parameter that holds the index of the object to close. The owner's own index has the usual
name already when the owner is a handle or is reached through a chain. -/
def closedIndex (i : Interface) (p : Variable) : String :=
  if i.handle || i.fold then p.name else ownIndex

/-- The declarations of parameters and the arguments that they become, one parameter after the
other. -/
def passParams (d : Dialect) : List Variable → Except Error (List String × List String)
  | [] => return ([], [])
  | p :: ps => do
    let declarations ← d.declare p
    let argument ← d.argument p
    let (moreDeclarations, arguments) ← d.passParams ps
    return (declarations ++ moreDeclarations, argument :: arguments)

/-- The declarations and arguments of a method. -/
def inputs (d : Dialect) (roles : Roles) (i : Interface) (m : Method) :
    Except Error (List String × List String) :=
  match ExportKind.closed? roles m with
  | some p => do
    let object ← d.objectAt p.type (closedIndex i p)
    let param ← d.indexParam (closedIndex i p)
    return ([param], [object])
  | none => d.passParams m.params

def ownerParams (d : Dialect) (i : Interface) : Except Error (List String) :=
  if i.handle then do return [← d.indexParam ownIndex] else return []

/-- The chain that leads to an interface, if it is a fold. -/
def chainOf (chains : Chains) (i : Interface) : Except Error (Option Link) :=
  if i.fold then
    match chains.get? i.name with
    | some link => .ok (some link)
    | none => .error (.unseededFold i.name)
  else .ok none

/-- The object that a method is called on. -/
def owner (d : Dialect) (i : Interface) : Except Error String :=
  if i.handle then d.objectAt i.name ownIndex
  else if i.fold then d.chainEnd
  else return d.instanceName i.name

/-- The chain before a method that returns a fold: the chain of its interface, or its object. -/
def chainHead (d : Dialect) (i : Interface) (chain : Option Link) (ownParams : List String) :
    Except Error Link :=
  match chain with
  | some link => return link
  | none => do return ⟨ownParams, ← d.owner i⟩

/-- Makes the chain of an interface, if it has one. -/
def opening (d : Dialect) (chain : Option Link) : Except Error (List String) :=
  match chain with
  | some link => do return [← d.bindChain link.expr]
  | none => return []

/-- The parameters through which a method reports, and the statements of its call. -/
def delivery (d : Dialect) (kind : ExportKind) (m : Method) (call : String) :
    Except Error (List String × List String) :=
  if kind = .newHandle then do return ([], ← d.storing m.returns call)
  else if m.fallible then do return (d.reports m, ← d.reporting m call)
  else do return ([], ← d.returning m call)

/-- Forgets the object that a method closes. -/
def closing (d : Dialect) (roles : Roles) (i : Interface) (m : Method) :
    Except Error (List String) :=
  match ExportKind.closed? roles m with
  | some p => do
    let object ← d.objectAt p.type (closedIndex i p)
    return [← d.forget object]
  | none => return []

def exportMethod (d : Dialect) (roles : Roles) (chains : Chains) (i : Interface) (m : Method) :
    Except Error Contribution := do
  let (declarations, arguments) ← d.inputs roles i m
  let ownParams ← d.ownerParams i
  let chain ← chainOf chains i
  if roles.hasFold m.returns then
    let head ← d.chainHead i chain ownParams
    let expr := d.call head.expr (d.methodName m.name) arguments
    return ⟨none, chains.insert m.returns ⟨head.params ++ declarations, expr⟩⟩
  else
    let kind := ExportKind.ofMethod roles m
    let call := d.call (← d.owner i) (d.methodName m.name) arguments
    let before ← d.opening chain
    let (reports, statements) ← d.delivery kind m call
    let after ← d.closing roles i m
    let result ← d.result m (kind == .newHandle)
    let chainParams := (chain.map (·.params)).getD []
    let made : Export :=
      { name := d.exportName i.name m.name
        params := chainParams ++ ownParams ++ declarations ++ reports
        result
        body := before ++ statements ++ after }
    return ⟨some made, chains⟩

/-- Exports methods in order, passing the chains on. -/
def exportMethods (d : Dialect) (roles : Roles) (i : Interface) (chains : Chains) :
    List Method → Except Error (List Export × Chains)
  | [] => return ([], chains)
  | m :: ms => do
    let first ← d.exportMethod roles chains i m
    let (rest, chains) ← d.exportMethods roles i first.chains ms
    return (first.made.toList ++ rest, chains)

def exportInterface (d : Dialect) (roles : Roles) (chains : Chains) (i : Interface) :
    Except Error (List Export × Chains) :=
  d.exportMethods roles i chains i.methods

/-- Exports interfaces in order, passing the chains on. -/
def exportInterfaces (d : Dialect) (roles : Roles) (chains : Chains) :
    List Interface → Except Error (List Chapter)
  | [] => return []
  | i :: is => do
    let (exports, chains) ← d.exportInterface roles chains i
    return ⟨i.name, exports⟩ :: (← d.exportInterfaces roles chains is)

/-- The chapters of a description with the given roles, once it is found valid. -/
def chaptersWith (d : Dialect) (roles : Roles) (api : Api) : Except Error (List Chapter) := do
  api.validate.mapError Error.invalid
  d.exportInterfaces roles {} api.interfaces

/-- The chapters of a description: the exports of each interface in order. -/
def chapters (d : Dialect) (api : Api) : Except Error (List Chapter) :=
  d.chaptersWith (Roles.ofApi api) api

end Dialect
end Bindery

import Bindery.Api.Basic

/-!
# Roles of interfaces and chains of calls

Which names are handles and which are folds is fixed for a run. A method that returns a fold is no
export of its own: its call is kept as a link, and the methods of the fold make the calls of
the whole chain.
-/
namespace Bindery

structure Roles where
  handles : List String := []
  folds : List String := []
  deriving DecidableEq, Repr, Inhabited

namespace Roles

def ofApi (api : Api) : Roles where
  handles := api.handles.map (·.name)
  folds := api.folds.map (·.name)

/-- Whether a written type is the name of a handle interface. -/
def hasHandle (roles : Roles) (name : String) : Bool :=
  roles.handles.contains name

/-- Whether a written type is the name of a fold interface. -/
def hasFold (roles : Roles) (name : String) : Bool :=
  roles.folds.contains name

theorem hasHandle_ofApi {api : Api} {name : String} :
    (ofApi api).hasHandle name = true ↔
      ∃ i ∈ api.interfaces, i.handle = true ∧ i.name = name := by
  simp [ofApi, hasHandle, Api.handles, and_assoc]

theorem hasFold_ofApi {api : Api} {name : String} :
    (ofApi api).hasFold name = true ↔
      ∃ i ∈ api.interfaces, i.fold = true ∧ i.name = name := by
  simp [ofApi, hasFold, Api.folds, and_assoc]

end Roles

/-- A chain of calls: the parameters that it needs, and the expression that makes it. -/
structure Link where
  params : List String := []
  expr : String := ""
  deriving DecidableEq, Repr, Inhabited

/-- The chain that leads to each fold, by increasing name. -/
structure Chains where
  links : List (String × Link) := []
  deriving DecidableEq, Repr, Inhabited

namespace Chains

/-- Puts a link in its place by name, instead of an earlier one of the same name. -/
def insertLink (fold : String) (link : Link) : List (String × Link) → List (String × Link)
  | [] => [(fold, link)]
  | (name, other) :: rest =>
    if fold < name then (fold, link) :: (name, other) :: rest
    else if fold = name then (fold, link) :: rest
    else (name, other) :: insertLink fold link rest

/-- The chain that leads to a fold. -/
def get? (chains : Chains) (fold : String) : Option Link :=
  chains.links.lookup fold

/-- The chains with a new chain for a fold. -/
def insert (chains : Chains) (fold : String) (link : Link) : Chains :=
  ⟨insertLink fold link chains.links⟩

def size (chains : Chains) : Nat := chains.links.length

def isEmpty (chains : Chains) : Bool := chains.links.isEmpty

@[simp] theorem get?_empty (fold : String) : ({} : Chains).get? fold = none := rfl

theorem lookup_insertLink_self (fold : String) (link : Link) (links : List (String × Link)) :
    (insertLink fold link links).lookup fold = some link := by
  induction links with
  | nil => simp [insertLink]
  | cons head rest ih =>
    obtain ⟨name, other⟩ := head
    unfold insertLink
    split
    · simp
    · split
      · simp
      · rename_i hne
        rw [List.lookup_cons]
        simp [beq_eq_false_iff_ne.mpr hne, ih]

theorem lookup_insertLink_of_ne {fold name : String} (h : name ≠ fold) (link : Link)
    (links : List (String × Link)) :
    (insertLink fold link links).lookup name = links.lookup name := by
  induction links with
  | nil => simp [insertLink, List.lookup_cons, beq_eq_false_iff_ne.mpr h]
  | cons head rest ih =>
    obtain ⟨other, old⟩ := head
    unfold insertLink
    split
    · simp [List.lookup_cons, beq_eq_false_iff_ne.mpr h]
    · split
      · rename_i heq
        subst heq
        simp [List.lookup_cons, beq_eq_false_iff_ne.mpr h]
      · simp [List.lookup_cons, ih]

@[simp] theorem get?_insert_self (chains : Chains) (fold : String) (link : Link) :
    (chains.insert fold link).get? fold = some link :=
  lookup_insertLink_self fold link chains.links

theorem get?_insert_of_ne {fold name : String} (h : name ≠ fold) (chains : Chains) (link : Link) :
    (chains.insert fold link).get? name = chains.get? name :=
  lookup_insertLink_of_ne h link chains.links

end Chains
end Bindery

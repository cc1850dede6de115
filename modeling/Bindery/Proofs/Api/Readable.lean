import Bindery.Proofs.Api.Sound

/-!
# Readable descriptions

A type in a description is read again at every place where it is spelled or where a value of it
is converted. In a valid description every struct field, every parameter and every result can be
read, so none of these places can fail.
-/
namespace Bindery
open Outcome

theorem Resolves.readable {known : List String} {type : String} (h : Resolves known type) :
    Succeeds (TypeExpr.parse type) := by
  obtain ⟨t, ht, -⟩ := h
  exact ⟨t, ht⟩

/-- The type that a text is read as. A text that cannot be read counts as `void`; a valid
description has none. -/
def TypeExpr.read (text : String) : TypeExpr :=
  (TypeExpr.parse text).toOption.getD ⟨.builtin .void, false⟩

theorem TypeExpr.read_of_parse {text : String} {t : TypeExpr} (h : TypeExpr.parse text = .ok t) :
    TypeExpr.read text = t := by
  simp [TypeExpr.read, h, Except.toOption]

def Variable.Readable (v : Variable) : Prop := Succeeds v.typeExpr

def Record.Readable (r : Record) : Prop := ∀ f ∈ r.fields, f.Readable

structure Method.Readable (m : Method) : Prop where
  params : ∀ p ∈ m.params, p.Readable
  result : Succeeds m.resultType

def Interface.Readable (i : Interface) : Prop := ∀ m ∈ i.methods, m.Readable

namespace Api

/-- The types of all struct fields and of all methods can be read. -/
structure Readable (api : Api) : Prop where
  structs : ∀ s ∈ api.structs, s.Readable
  interfaces : ∀ i ∈ api.interfaces, i.Readable

/-- The types of a valid description can be read. -/
theorem readable_of_validate {api : Api} (h : api.validate = .ok ()) : api.Readable := by
  have hsound := validate_eq_ok_iff.mp h
  constructor
  · intro s hs f hf
    exact (hsound.fields s hs f hf).readable
  · intro i hi m hm
    have hm := (hsound.interfaces i hi).methods m hm
    exact ⟨fun p hp => (hm.params p hp).readable, hm.result.readable⟩

end Api
end Bindery

import Bindery.Api.Validation
import Bindery.Proofs.Outcome

/-!
# Sound descriptions

What a description has to satisfy, without the order in which it is checked: `Api.Sound`.
Validation passes exactly the sound descriptions, which is `Api.validate_eq_ok_iff`. Whether a
description is sound depends on which names it holds and not on where they stand, and no method is
needed for the sake of another.
-/
namespace Bindery
open Outcome

/-- A written type can be read, and if it has a name of its own, the name is known. -/
def Resolves (known : List String) (type : String) : Prop :=
  ∃ t, TypeExpr.parse type = .ok t ∧ ∀ name, t.base = .named name → name ∈ known

theorem Resolves.mono {known more : List String} {type : String} (h : Resolves known type)
    (hsub : known ⊆ more) : Resolves more type := by
  obtain ⟨t, ht, hname⟩ := h
  exact ⟨t, ht, fun name hn => hsub (hname name hn)⟩

structure Method.Sound (known : List String) (m : Method) : Prop where
  params : ∀ p ∈ m.params, Resolves known p.type
  result : Resolves known m.returns

/-- The interface follows one model at most, and the types of its methods resolve. -/
structure Interface.Sound (known : List String) (i : Interface) : Prop where
  model : [i.singleton, i.handle, i.fold].count true ≤ 1
  methods : ∀ m ∈ i.methods, m.Sound known

theorem Method.Sound.mono {known more : List String} {m : Method} (h : m.Sound known)
    (hsub : known ⊆ more) : m.Sound more :=
  ⟨fun p hp => (h.params p hp).mono hsub, h.result.mono hsub⟩

theorem Interface.Sound.mono {known more : List String} {i : Interface} (h : i.Sound known)
    (hsub : known ⊆ more) : i.Sound more :=
  ⟨h.model, fun m hm => (h.methods m hm).mono hsub⟩

theorem Interface.Sound.fold_of_handle {known : List String} {i : Interface} (h : i.Sound known)
    (hh : i.handle = true) : i.fold = false := by
  have hmodel := h.model
  cases hf : i.fold with
  | false => rfl
  | true =>
    rw [hh, hf] at hmodel
    cases hs : i.singleton <;> rw [hs] at hmodel <;> exact absurd hmodel (by decide)

theorem Interface.Sound.handle_of_fold {known : List String} {i : Interface} (h : i.Sound known)
    (hf : i.fold = true) : i.handle = false := by
  cases hh : i.handle with
  | false => rfl
  | true => exact absurd hf (by simp [h.fold_of_handle hh])

namespace Api

/-- What is asked of a description. -/
structure Sound (api : Api) : Prop where
  interfaceNames : (api.interfaces.map (·.name)).Nodup
  structNames : (api.structs.map (·.name)).Nodup
  enumNames : (api.enums.map (·.name)).Nodup
  members : ∀ e ∈ api.enums, ∀ v ∈ e.fields, v.type = "string" ∨ v.type = "number"
  fields : ∀ s ∈ api.structs, ∀ f ∈ s.fields, Resolves api.names f.type
  interfaces : ∀ i ∈ api.interfaces, i.Sound api.names

/-! ## The checks one by one -/

theorem repeated?_eq_none_iff {seen names : List String} :
    repeated? seen names = none ↔ names.Nodup ∧ ∀ name ∈ names, name ∉ seen := by
  induction names generalizing seen with
  | nil => simp [repeated?]
  | cons name names ih =>
    by_cases hseen : name ∈ seen
    · simp [repeated?, hseen]
    · have hskip : repeated? seen (name :: names) = repeated? (name :: seen) names := by
        simp [repeated?, hseen]
      rw [hskip, ih, List.nodup_cons, List.forall_mem_cons]
      constructor
      · rintro ⟨hnodup, hnew⟩
        have hname : name ∉ names := fun hmem => hnew name hmem List.mem_cons_self
        exact ⟨⟨hname, hnodup⟩, hseen, fun n hn hs => hnew n hn (List.mem_cons_of_mem name hs)⟩
      · rintro ⟨⟨hname, hnodup⟩, _, hnew⟩
        refine ⟨hnodup, fun n hn hs => ?_⟩
        rcases List.mem_cons.mp hs with rfl | hs
        · exact hname hn
        · exact hnew n hn hs

theorem requireUnique_eq_ok_iff {category : Category} {names : List String} :
    requireUnique category names = .ok () ↔ names.Nodup := by
  have hnone : repeated? [] names = none ↔ names.Nodup := by simp [repeated?_eq_none_iff]
  rw [← hnone, requireUnique]
  cases repeated? [] names <;> simp

theorem backsEnum_iff {type : String} :
    backsEnum type = true ↔ type = "string" ∨ type = "number" := by
  have hname (p : Builtin) : Builtin.ofName? type = some p ↔ type = p.name := by
    rw [Builtin.ofName?_eq_some_iff, eq_comm]
  calc backsEnum type = true
      ↔ Builtin.ofName? type = some .string ∨ Builtin.ofName? type = some .number := by
        unfold backsEnum
        split <;> simp_all
    _ ↔ type = "string" ∨ type = "number" := by
        rw [hname, hname]
        rfl

theorem requireBacked_eq_ok_iff {enum : Record} {member : Variable} :
    requireBacked enum member = .ok () ↔ member.type = "string" ∨ member.type = "number" := by
  rw [requireBacked, ← backsEnum_iff]
  split <;> simp_all

theorem requireType_eq_ok_iff {known : List String} {owner type : String} :
    requireType known owner type = .ok () ↔ Resolves known type := by
  unfold requireType Resolves
  split
  · rename_i cause h
    simp [h]
  · rename_i name array h
    simp [h]
  · rename_i b array h
    simp [h]

theorem requireMethodTypes_eq_ok_iff {known : List String} {i : Interface} {m : Method} :
    requireMethodTypes known i m = .ok () ↔ m.Sound known := by
  simp only [requireMethodTypes, check_bind_eq_ok, forM_eq_ok, requireType_eq_ok_iff]
  exact ⟨fun ⟨hp, hr⟩ => ⟨hp, hr⟩, fun h => ⟨h.params, h.result⟩⟩

theorem requireOneModel_eq_ok_iff {i : Interface} :
    requireOneModel i = .ok () ↔ [i.singleton, i.handle, i.fold].count true ≤ 1 := by
  unfold requireOneModel
  split
  · rename_i hgt
    simpa using hgt
  · rename_i hle
    simpa using hle

theorem requireInterface_eq_ok_iff {known : List String} {i : Interface} :
    requireInterface known i = .ok () ↔ i.Sound known := by
  simp only [requireInterface, check_bind_eq_ok, forM_eq_ok, requireOneModel_eq_ok_iff,
    requireMethodTypes_eq_ok_iff]
  exact ⟨fun ⟨hone, hm⟩ => ⟨hone, hm⟩, fun h => ⟨h.model, h.methods⟩⟩

/-- Validation passes exactly the sound descriptions. -/
theorem validate_eq_ok_iff {api : Api} : api.validate = .ok () ↔ api.Sound := by
  simp only [validate, check_bind_eq_ok, forM_eq_ok, requireUnique_eq_ok_iff,
    requireBacked_eq_ok_iff, requireFieldType, requireType_eq_ok_iff, requireInterface_eq_ok_iff]
  constructor
  · rintro ⟨hi, hs, he, hmembers, hfields, hinterfaces⟩
    exact ⟨hi, hs, he, hmembers, hfields, hinterfaces⟩
  · intro h
    exact ⟨h.interfaceNames, h.structNames, h.enumNames, h.members, h.fields, h.interfaces⟩

/-- The order of interfaces does not matter. -/
theorem Sound.reorder {api : Api} (h : api.Sound) {is : List Interface}
    (hp : api.interfaces.Perm is) : ({ api with interfaces := is } : Api).Sound := by
  have hnames : api.names ⊆ ({ api with interfaces := is } : Api).names := by
    have hperm := ((hp.map (·.name)).append_right (api.structs.map (·.name))).append_right
      (api.enums.map (·.name))
    exact hperm.subset
  exact {
    interfaceNames := (hp.map (·.name)).nodup_iff.mp h.interfaceNames
    structNames := h.structNames
    enumNames := h.enumNames
    members := h.members
    fields := fun s hs f hf => (h.fields s hs f hf).mono hnames
    interfaces := fun i hi => (h.interfaces i (hp.mem_iff.mpr hi)).mono hnames }

end Api
end Bindery

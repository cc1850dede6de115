import Bindery.Proofs.Api.FirstFlaw
import Bindery.Proofs.Api.Readable
import Bindery.Proofs.Api.RoundTrip
import Bindery.Proofs.Export.Capabilities
import Bindery.Proofs.TypeGrammar

/-!
# Written types and declared names

Whether a written type stands for a handle, a fold or an enum is found by comparing its text with
the declared names, while its spelling in another language comes from reading it. The two fit
together as long as the text is a name. But nothing is asked of the form of a declared name, and a
text that is read as a built-in type or as an array may be a declared name, too.
`comparisons_follow_grammar` says what the comparisons find for every written type, and that they
find what reading does when no name is disguised in this way.
-/
namespace Bindery
open Outcome Export

namespace TypeExpr

/-- The name is that of a built-in type. -/
def SpellsBuiltin (name : String) : Prop := ∃ p : Builtin, p.name = name

instance : DecidablePred SpellsBuiltin := fun name =>
  decidable_of_iff ((Builtin.ofName? name).isSome = true) (by
    simp only [Option.isSome_iff_exists, Builtin.ofName?_eq_some_iff, SpellsBuiltin])

/-- The name is read as something else than a name: a built-in type or an array. -/
def Disguised (name : String) : Prop := SpellsBuiltin name ∨ ∃ front, name = front ++ "[]"

instance : DecidablePred Disguised := fun name =>
  decidable_of_iff (SpellsBuiltin name ∨ (element? name).isSome = true) (by
    simp only [Option.isSome_iff_exists, element?_eq_some_iff, Disguised])

variable {text name : String} {t : TypeExpr}

theorem eq_of_named? (ht : parse text = .ok t) (hname : t.named? = some name) : text = name := by
  obtain ⟨-, rfl⟩ := parse_eq_ok_iff.mp ht
  obtain ⟨base, array⟩ := t
  cases array with
  | true => cases hname
  | false =>
    cases base with
    | builtin p => cases hname
    | named other => exact Option.some.inj hname

theorem disguised_of_named? (ht : parse text = .ok t) (hname : t.named? = none) :
    Disguised text := by
  obtain ⟨-, rfl⟩ := parse_eq_ok_iff.mp ht
  obtain ⟨base, array⟩ := t
  cases array with
  | true => exact .inr ⟨base.text, rfl⟩
  | false =>
    cases base with
    | builtin p => exact .inl ⟨p, rfl⟩
    | named other => cases hname

/-- A comparison with the text is one with the name that the text is read as, if it is read as a
name. -/
theorem compared_iff (ht : parse text = .ok t) (P : String → Prop) :
    P text ↔ (∃ name, t.named? = some name ∧ P name) ∨ (t.named? = none ∧ P text) := by
  cases hname : t.named? with
  | none => simp
  | some name => simp [eq_of_named? ht hname]

/-- What is left when the array mark is cut off is the text of the base. -/
theorem base_text (ht : parse text = .ok t) : (element? text).getD text = t.base.text :=
  (split_iff.mp (writable_of_parse ht).2).1.symm

end TypeExpr

theorem Base.text_mem_iff {base : Base} {names : List String} :
    base.text ∈ names ↔ (∃ name, base = .named name ∧ name ∈ names) ∨
      ∃ p, base = .builtin p ∧ p.name ∈ names := by
  cases base <;> simp [Base.text]

namespace Api
variable {api : Api}

/-- The name is that of an interface that follows the given model. -/
def NamesInterface (api : Api) (model : Interface → Bool) (name : String) : Prop :=
  ∃ i ∈ api.interfaces, model i = true ∧ i.name = name

/-- The variable is a struct field or a parameter of the description. -/
inductive HasVariable (api : Api) : Variable → Prop
  | field {s : Record} {f : Variable} : s ∈ api.structs → f ∈ s.fields → HasVariable api f
  | param {i : Interface} {m : Method} {p : Variable} :
      i ∈ api.interfaces → m ∈ i.methods → p ∈ m.params → HasVariable api p

/-- Comparing written types with declared names finds what reading them finds. So no result that is
built in or an array is stored in a table or made a link of a chain. -/
structure Faithful (api : Api) : Prop where
  handles : ∀ {owner type t}, api.Written owner type → TypeExpr.parse type = .ok t →
    ((Roles.ofApi api).hasHandle type = true ↔
      ∃ name, t.named? = some name ∧ api.NamesInterface (·.handle) name)
  folds : ∀ {owner type t}, api.Written owner type → TypeExpr.parse type = .ok t →
    ((Roles.ofApi api).hasFold type = true ↔
      ∃ name, t.named? = some name ∧ api.NamesInterface (·.fold) name)
  marks : ∀ {v t}, api.HasVariable v → v.typeExpr = .ok t →
    (v.enumTyped = true ↔ ∃ name, t.base = .named name ∧ name ∈ api.enumNames)
  results : ∀ i ∈ api.interfaces, ∀ m ∈ i.methods, ∀ t, m.resultType = .ok t → t.named? = none →
    ExportKind.ofMethod (Roles.ofApi api) m ≠ .newHandle ∧
      (Roles.ofApi api).hasFold m.returns = false

theorem Written.readable {owner type : String} (h : api.Written owner type)
    (hreadable : api.Readable) : Succeeds (TypeExpr.parse type) := by
  cases h with
  | field hs hf => exact hreadable.structs _ hs _ hf
  | param hi hm hp => exact (hreadable.interfaces _ hi _ hm).params _ hp
  | result hi hm => exact (hreadable.interfaces _ hi _ hm).result

theorem HasVariable.readable {v : Variable} (h : api.HasVariable v) (hreadable : api.Readable) :
    Succeeds v.typeExpr := by
  cases h with
  | field hs hf => exact hreadable.structs _ hs _ hf
  | param hi hm hp => exact (hreadable.interfaces _ hi _ hm).params _ hp

theorem HasVariable.markedBy {v : Variable} (h : api.HasVariable v) (hmarked : api.Marked) :
    v.MarkedBy api.enumNames := by
  cases h with
  | field hs hf => exact hmarked.fields _ hs _ hf
  | param hi hm hp => exact hmarked.params _ hi _ hm _ hp

section Comparisons
variable {type : String} {t : TypeExpr}

theorem hasHandle_iff (ht : TypeExpr.parse type = .ok t) :
    (Roles.ofApi api).hasHandle type = true ↔
      (∃ name, t.named? = some name ∧ api.NamesInterface (·.handle) name) ∨
      (t.named? = none ∧ api.NamesInterface (·.handle) type) := by
  rw [Roles.hasHandle_ofApi]
  exact TypeExpr.compared_iff ht (api.NamesInterface (·.handle))

theorem hasFold_iff (ht : TypeExpr.parse type = .ok t) :
    (Roles.ofApi api).hasFold type = true ↔
      (∃ name, t.named? = some name ∧ api.NamesInterface (·.fold) name) ∨
      (t.named? = none ∧ api.NamesInterface (·.fold) type) := by
  rw [Roles.hasFold_ofApi]
  exact TypeExpr.compared_iff ht (api.NamesInterface (·.fold))

theorem enumTyped_iff {v : Variable} (hv : v.MarkedBy api.enumNames) (ht : v.typeExpr = .ok t) :
    v.enumTyped = true ↔ (∃ name, t.base = .named name ∧ name ∈ api.enumNames) ∨
      ∃ p, t.base = .builtin p ∧ p.name ∈ api.enumNames := by
  have hmark : v.enumTyped = true ↔ (TypeExpr.element? v.type).getD v.type ∈ api.enumNames := hv
  rw [hmark, TypeExpr.base_text ht, Base.text_mem_iff]

/-- What is done with a result that is read as a built-in type or as an array. -/
theorem kind_of_result (api : Api) {m : Method} (ht : m.resultType = .ok t)
    (hname : t.named? = none) :
    (ExportKind.ofMethod (Roles.ofApi api) m = .newHandle ↔
      ExportKind.closed? (Roles.ofApi api) m = none ∧
        api.NamesInterface (·.handle) m.returns) ∧
    ((Roles.ofApi api).hasFold m.returns = true ↔ api.NamesInterface (·.fold) m.returns) := by
  rw [ExportKind.ofMethod_eq_newHandle_iff, hasHandle_iff ht, hasFold_iff ht]
  simp [hname]

end Comparisons

/-- Without disguised names the comparisons are faithful. -/
theorem faithful_of_plain (hmarked : api.Marked)
    (hinterfaces : ∀ i ∈ api.interfaces, i.handle = true ∨ i.fold = true →
      ¬ TypeExpr.Disguised i.name)
    (henums : ∀ name ∈ api.enumNames, ¬ TypeExpr.SpellsBuiltin name) : api.Faithful := by
  have hplain {type : String} {t : TypeExpr} {model : Interface → Bool}
      (hmodel : ∀ i, model i = true → i.handle = true ∨ i.fold = true)
      (ht : TypeExpr.parse type = .ok t) :
      ¬ (t.named? = none ∧ api.NamesInterface model type) := by
    rintro ⟨hname, i, hi, hfollows, rfl⟩
    exact hinterfaces i hi (hmodel i hfollows) (TypeExpr.disguised_of_named? ht hname)
  constructor
  · intro owner type t _ ht
    rw [hasHandle_iff ht, or_iff_left (hplain (fun _ => .inl) ht)]
  · intro owner type t _ ht
    rw [hasFold_iff ht, or_iff_left (hplain (fun _ => .inr) ht)]
  · intro v t hv ht
    rw [enumTyped_iff (hv.markedBy hmarked) ht, or_iff_left]
    rintro ⟨p, -, hp⟩
    exact henums p.name hp ⟨p, rfl⟩
  · intro i _ m _ t ht hname
    obtain ⟨hnew, hlink⟩ := kind_of_result api ht hname
    constructor
    · intro hkind
      exact hplain (fun _ => .inl) ht ⟨hname, (hnew.mp hkind).2⟩
    · rw [Bool.eq_false_iff]
      intro hfold
      exact hplain (fun _ => .inr) ht ⟨hname, hlink.mp hfold⟩

/-- Every written type of a valid description can be read. It is taken for a handle or a fold when
the name that it is read as is one, and otherwise only when it is read as no name and is itself the
name of one; a variable is marked when its base names an enum, and otherwise only when a built-in
base has the name of one. Where no declared name is disguised, the comparisons are faithful. -/
theorem comparisons_follow_grammar {a : Api} (h : a.markEnums.validate = .ok ()) :
    (∀ owner type, a.markEnums.Written owner type → ∃ t, TypeExpr.parse type = .ok t ∧
      ((Roles.ofApi a.markEnums).hasHandle type = true ↔
        (∃ name, t.named? = some name ∧ a.markEnums.NamesInterface (·.handle) name) ∨
        (t.named? = none ∧ a.markEnums.NamesInterface (·.handle) type)) ∧
      ((Roles.ofApi a.markEnums).hasFold type = true ↔
        (∃ name, t.named? = some name ∧ a.markEnums.NamesInterface (·.fold) name) ∨
        (t.named? = none ∧ a.markEnums.NamesInterface (·.fold) type))) ∧
    (∀ v, a.markEnums.HasVariable v → ∃ t, v.typeExpr = .ok t ∧
      (v.enumTyped = true ↔ (∃ name, t.base = .named name ∧ name ∈ a.enumNames) ∨
        ∃ p, t.base = .builtin p ∧ p.name ∈ a.enumNames)) ∧
    (∀ i ∈ a.markEnums.interfaces, ∀ m ∈ i.methods, ∃ t, m.resultType = .ok t ∧
      (t.named? = none →
        (ExportKind.ofMethod (Roles.ofApi a.markEnums) m = .newHandle ↔
          ExportKind.closed? (Roles.ofApi a.markEnums) m = none ∧
            a.markEnums.NamesInterface (·.handle) m.returns) ∧
        ((Roles.ofApi a.markEnums).hasFold m.returns = true ↔
          a.markEnums.NamesInterface (·.fold) m.returns))) ∧
    ((∀ i ∈ a.markEnums.interfaces, i.handle = true ∨ i.fold = true →
        ¬ TypeExpr.Disguised i.name) →
      (∀ name ∈ a.enumNames, ¬ TypeExpr.SpellsBuiltin name) → a.markEnums.Faithful) := by
  have hreadable := readable_of_validate h
  have hmarked := a.marked_markEnums
  refine ⟨?_, ?_, ?_, faithful_of_plain hmarked⟩
  · intro owner type hwritten
    obtain ⟨t, ht⟩ := hwritten.readable hreadable
    exact ⟨t, ht, hasHandle_iff ht, hasFold_iff ht⟩
  · intro v hv
    obtain ⟨t, ht⟩ := hv.readable hreadable
    exact ⟨t, ht, enumTyped_iff (hv.markedBy hmarked) ht⟩
  · intro i hi m hm
    obtain ⟨t, ht⟩ := (hreadable.interfaces i hi m hm).result
    exact ⟨t, ht, kind_of_result _ ht⟩

/-- In the store of blobs handles, folds and enums are found by name as they are by reading. -/
theorem comparisons_follow_grammar_stores :
    stores.markEnums.validate = .ok () ∧ (Roles.ofApi stores.markEnums).hasHandle "Store" = true ∧
    (Roles.ofApi stores.markEnums).hasFold "BlobReader" = true ∧
    "SourceType" ∈ stores.markEnums.enumNames ∧ stores.markEnums.Faithful := by
  refine ⟨by decide +kernel, by decide +kernel, by decide +kernel, by decide +kernel, ?_⟩
  exact (comparisons_follow_grammar (by decide +kernel)).2.2.2 (by decide +kernel)
    (by decide +kernel)

/-- A handle interface that has the name of a built-in type. -/
def handleString : Api :=
  { interfaces := [
      { name := "Stores", singleton := true
        methods := [{ name := "label", returns := "string" }] },
      { name := "string", handle := true }] }

/-- A label is read as a string and yet stored as an object. -/
theorem handleString_stores_label :
    handleString.markEnums.validate = .ok () ∧
    TypeExpr.parse "string" = .ok ⟨.builtin .string, false⟩ ∧
    Host.dialect.chapters handleString.markEnums = .ok
      [⟨"Stores", [
        { name := "Stores_Label", params := [], result := "int64"
          body := ["string_handles = append(string_handles, stores.Label())",
            "return int64(len(string_handles) - 1)"] }]⟩,
      ⟨"string", []⟩] ∧
    ¬ handleString.markEnums.Faithful := by
  refine ⟨by decide +kernel, by decide +kernel, by decide +kernel, ?_⟩
  intro hfaithful
  have hnew := (hfaithful.results _ List.mem_cons_self { name := "label", returns := "string" }
    List.mem_cons_self ⟨.builtin .string, false⟩ (by decide +kernel) rfl).1
  exact hnew (by decide +kernel)

end Api
end Bindery

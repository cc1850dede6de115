import Bindery.Proofs.Export.Seeding
import Bindery.Proofs.Header.Search
import Bindery.Target

/-!
# Failures of generation

Validation reads every type that a later stage reads again: struct fields, parameters and results.
After it, no stage can stop at a type, and both dialects have all capabilities. What is left are
the folds without a chain, which only the targets that export methods meet. The main statement is
`generate_fails_iff`.
-/
namespace Bindery
open Export Outcome

namespace Header

theorem dialect_complete : dialect.Complete where
  indexParam _ := .pure _
  objectAt _ _ := .pure _
  forget _ := .pure _
  chainEnd := .pure _
  bindChain _ := .pure _
  storing _ _ := .pure _
  declare _ hv := (declareVariable_succeeds hv).mapError _
  argument v _ := .pure v.name
  reporting _ _ _ := .pure _
  returning _ _ _ := .pure _
  result m hm newHandle := by
    cases newHandle with
    | true => exact .pure "longlong"
    | false => exact ((types.spellText_succeeds hm.result).mapError _).bind fun _ _ => .pure _

end Header

namespace Host

theorem dialect_complete : dialect.Complete where
  indexParam _ := .pure _
  objectAt _ _ := .pure _
  forget _ := .pure _
  chainEnd := .pure _
  bindChain _ := .pure _
  storing _ _ := .pure _
  declare _ hv := ((foreignTypes.spellText_succeeds hv).bind fun _ _ => .pure _).mapError _
  argument v hv := (inward.convertText_succeeds hv v.name "").mapError _
  reporting _ hm _ := (hm.result.bind fun _ _ => .pure _).mapError _
  returning _ hm call :=
    ((outward.convertText_succeeds hm.result call "return ").bind fun _ _ => .pure _).mapError _
  result m hm newHandle := by
    cases newHandle with
    | true => exact .pure "int64"
    | false => exact (foreignTypes.spellText_succeeds hm.result).mapError _

theorem signature_succeeds (table : TypeTable) {m : Method} (hm : m.Readable) :
    Succeeds (signature table m) :=
  (Succeeds.mapM fun p hp =>
    (table.spellText_succeeds (hm.params p hp)).bind fun _ _ => .pure _).bind
      fun _ _ => hm.result.bind fun _ _ => .pure _

theorem structDeclaration_succeeds {s : Record} (h : s.Readable) :
    Succeeds (structDeclaration s) :=
  (Succeeds.mapM fun f hf =>
    (localTypes.spellText_succeeds (h f hf)).bind fun _ _ => .pure _).bind fun _ _ => .pure _

theorem interfaceDeclaration_succeeds {i : Interface} (h : i.Readable) :
    Succeeds (interfaceDeclaration i) :=
  (Succeeds.mapM fun m hm =>
    (signature_succeeds localTypes (h m hm)).bind fun _ _ => .pure _).bind fun _ _ => .pure _

theorem stub_succeeds {i : Interface} (h : i.Readable) : Succeeds (stub i) :=
  (Succeeds.mapM fun m hm =>
    (signature_succeeds apiTypes (h m hm)).bind fun _ _ => .pure _).bind fun _ _ => .pure _

theorem structInward_succeeds {s : Record} (h : s.Readable) : Succeeds (structInward s) :=
  (Succeeds.mapM fun f hf =>
    (inward.convertText_succeeds (h f hf) _ _).bind fun _ _ => .pure _).bind fun _ _ => .pure _

theorem structOutward_succeeds {s : Record} (h : s.Readable) : Succeeds (structOutward s) :=
  (Succeeds.mapM fun f hf =>
    (outward.convertText_succeeds (h f hf) _ _).bind fun _ _ => .pure _).bind fun _ _ => .pure _

theorem package_eq_error_iff {api : Api} {name : String} {e : Error} :
    package api name = .error e ↔ ∃ flaw, api.validate = .error flaw ∧ e = .invalid flaw := by
  rw [← mapError_eq_error]
  apply bind_eq_error_iff_left
  intro _ hv
  have hr := Api.readable_of_validate (mapError_eq_ok.mp hv)
  have hstructs := Succeeds.mapM fun s hs => structDeclaration_succeeds (hr.structs s hs)
  have hinterfaces := Succeeds.mapM fun i hi => interfaceDeclaration_succeeds (hr.interfaces i hi)
  exact (hstructs.mapError _).bind fun _ _ => (hinterfaces.mapError _).bind fun _ _ => .pure _

theorem stubs_eq_error_iff {api : Api} {layout : Layout} {e : Error} :
    stubs api layout = .error e ↔ ∃ flaw, api.validate = .error flaw ∧ e = .invalid flaw := by
  rw [← mapError_eq_error]
  apply bind_eq_error_iff_left
  intro _ hv
  have hr := Api.readable_of_validate (mapError_eq_ok.mp hv)
  have hinterfaces := Succeeds.mapM fun i hi => stub_succeeds (hr.interfaces i hi)
  exact (hinterfaces.mapError _).bind fun _ _ => .pure _

/-- After the exports, nothing in the wrapper can fail. -/
theorem wrapper_eq_error_iff {api : Api} {layout : Layout} {e : Error} :
    wrapper api layout = .error e ↔ dialect.chapters api = .error e := by
  apply bind_eq_error_iff_left
  intro chs hc
  have hr := Api.readable_of_validate (Dialect.chapters_eq_ok_iff.mp hc).1
  have hstructs : Succeeds (api.structs.mapM fun s => do
      return (← structInward s) ++ (← structOutward s)) :=
    .mapM fun s hs => (structInward_succeeds (hr.structs s hs)).bind fun _ _ =>
      (structOutward_succeeds (hr.structs s hs)).bind fun _ _ => .pure _
  exact ((Header.declarations_succeeds hr.structs).mapError _).bind fun _ _ =>
    (hstructs.mapError _).bind fun _ _ => .pure _

end Host

theorem Header.document_eq_error_iff {api : Api} {guard : String} {e : Error} :
    document api guard = .error e ↔ dialect.chapters api = .error e := by
  apply bind_eq_error_iff_left
  intro chs hc
  have hr := Api.readable_of_validate (Dialect.chapters_eq_ok_iff.mp hc).1
  exact ((declarations_succeeds hr.structs).mapError _).bind fun _ _ => .pure _

namespace Target

theorem content_eq_error_iff {target : Target} {api : Api} {layout : Layout} {e : Error} :
    target.content api layout = .error e ↔
      (∃ flaw, api.validate = .error flaw ∧ e = .invalid flaw) ∨
      ((target = .wrapper ∨ target = .header) ∧ api.validate = .ok () ∧
        ∃ i, FirstUnseeded api.interfaces i ∧ e = .unseededFold i.name) := by
  cases target with
  | wrapper =>
    simp [content, Host.wrapper_eq_error_iff, Host.dialect_complete.chapters_eq_error_iff]
  | interfaces => simp [content, Host.package_eq_error_iff]
  | stubs => simp [content, Host.stubs_eq_error_iff]
  | header =>
    simp [content, Header.document_eq_error_iff, Header.dialect_complete.chapters_eq_error_iff]

theorem generate_eq_error_iff {target : Target} {api : Api} {layout : Layout} {e : Error} :
    target.generate api layout = .error e ↔ target.content api layout = .error e :=
  bind_eq_error_iff_left fun _ _ => .pure _

/-- Generation fails exactly at a flaw of the description, and for the wrapper and the header also
at the first interface that is used before any method leads to it. It never fails at a type or at
a missing capability. -/
theorem generate_fails_iff (target : Target) (api : Api) (layout : Layout) :
    (∀ e, target.generate api layout = .error e ↔
      (∃ flaw, api.validate = .error flaw ∧ e = .invalid flaw) ∨
      ((target = .wrapper ∨ target = .header) ∧ api.validate = .ok () ∧
        ∃ i, FirstUnseeded api.interfaces i ∧ e = .unseededFold i.name)) ∧
    (∀ cause, target.generate api layout ≠ .error (.type cause)) ∧
    ∀ dialect capability,
      target.generate api layout ≠ .error (.missingCapability dialect capability) := by
  refine ⟨fun e => generate_eq_error_iff.trans content_eq_error_iff, ?_, ?_⟩
  · intro cause
    simp [generate_eq_error_iff, content_eq_error_iff]
  · intro dialect capability
    simp [generate_eq_error_iff, content_eq_error_iff]

end Target
end Bindery

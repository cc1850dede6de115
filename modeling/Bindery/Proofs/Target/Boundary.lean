import Bindery.Proofs.Export.Agreement
import Bindery.Proofs.Target.Failures

/-!
# The header and the wrapper

The header declares what the wrapper defines. Both come from one description through their own
dialects: the wrapper writes a name before its type, the header after it, and each spells types by
its own table. The main statement, `header_matches_wrapper`, says that the two sides fail on the
same descriptions with the same failure, and that their exports correspond in all other cases.
-/
namespace Bindery.Boundary
open Dialect Export Outcome

/-- One type as the wrapper and as the header spell it: a type that is written in a description, or
one of the types that an export needs besides. -/
inductive SameType : (host header : String) → Prop
  | written {text host header : String} : Host.foreignTypes.spellText text = .ok host →
      Header.types.spellText text = .ok header → SameType host header
  | index : SameType "int64" "longlong"
  | length : SameType "C.size_t" "size_t"
  | presence : SameType "*C.short" "short*"
  | failure : SameType "**C.char" "char**"

/-- One declaration as both sides write it. -/
def SameDeclaration (host header : String) : Prop :=
  ∃ name hostType headerType, SameType hostType headerType ∧
    host = name ++ " " ++ hostType ∧ header = headerType ++ " " ++ name

/-- One result as both sides write it. The header spells out the empty result of the wrapper. -/
def SameResult (m : Method) (newHandle : Bool) (host header : String) : Prop :=
  if newHandle then host = "int64" ∧ header = "longlong"
  else ∃ spelled, Host.foreignTypes.spellText m.returns = .ok host ∧
    Header.types.spellText m.returns = .ok spelled ∧
    header = if host = "" then "void" else spelled

theorem sameDeclaration_index (index : String) :
    SameDeclaration s!"{index} int64" s!"longlong {index}" := by
  refine ⟨index, "int64", "longlong", .index, ?_, rfl⟩
  rw [String.append_assoc]
  rfl

theorem sameDeclaration_length (name : String) :
    SameDeclaration s!"{name}_length C.size_t" (Header.lengthOf name) := by
  refine ⟨name ++ "_length", "C.size_t", "size_t", .length, ?_, rfl⟩
  rw [String.append_assoc, String.append_assoc]
  rfl

theorem declare_same {v : Variable} {host header : List String}
    (hh : Host.dialect.declare v = .ok host) (hd : Header.dialect.declare v = .ok header) :
    List.Forall₂ SameDeclaration host header := by
  simp only [Host.dialect, ofType, mapError_eq_ok, bind_eq_ok, pure_eq_ok] at hh
  simp only [Header.dialect, Header.declareVariable, ofType, mapError_eq_ok, bind_eq_ok,
    pure_eq_ok] at hd
  obtain ⟨hostType, hht, rfl⟩ := hh
  obtain ⟨headerType, hdt, rfl⟩ := hd
  refine .cons ⟨v.name, hostType, headerType, .written hht hdt, rfl, rfl⟩ ?_
  split
  · exact .cons (sameDeclaration_length v.name) .nil
  · exact .nil

theorem reports_same (m : Method) :
    List.Forall₂ SameDeclaration (Host.dialect.reports m) (Header.dialect.reports m) := by
  have hok : SameDeclaration "cok *C.short" "short* cok" :=
    ⟨"cok", "*C.short", "short*", .presence, rfl, rfl⟩
  have herr : SameDeclaration "cerr **C.char" "char** cerr" :=
    ⟨"cerr", "**C.char", "char**", .failure, rfl, rfl⟩
  apply List.rel_append
  · split
    · exact .cons hok .nil
    · exact .nil
  · split
    · exact .cons herr .nil
    · exact .nil

theorem spelled_empty_iff {text host header : String}
    (hh : Host.foreignTypes.spellText text = .ok host)
    (hd : Header.types.spellText text = .ok header) : host = "" ↔ header = "" := by
  obtain ⟨t, ht, rfl⟩ := TypeTable.spellText_eq_ok_iff.mp hh
  obtain ⟨t', ht', rfl⟩ := TypeTable.spellText_eq_ok_iff.mp hd
  obtain rfl := Except.ok.inj (ht.symm.trans ht')
  rw [Host.foreignTypes_spell_eq_empty, Header.types_spell_eq_empty ht]

theorem result_same {m : Method} {newHandle : Bool} {host header : String}
    (hh : Host.dialect.result m newHandle = .ok host)
    (hd : Header.dialect.result m newHandle = .ok header) : SameResult m newHandle host header := by
  cases newHandle with
  | true => exact ⟨pure_eq_ok.mp hh, pure_eq_ok.mp hd⟩
  | false =>
    have hhost := mapError_eq_ok.mp hh
    obtain ⟨spelled, hs, hr⟩ := bind_eq_ok.mp hd
    have hheader := mapError_eq_ok.mp hs
    refine ⟨spelled, hhost, hheader, ?_⟩
    rw [pure_eq_ok.mp hr]
    -- The two sides test different spellings for emptiness, which is the emptiness of one type.
    simp only [spelled_empty_iff hhost hheader]

theorem dialects_alike : Alike SameDeclaration SameResult Host.dialect Header.dialect where
  exportName := rfl
  indexParam hh hd := by
    rw [pure_eq_ok.mp hh, pure_eq_ok.mp hd]
    exact sameDeclaration_index _
  declare := declare_same
  reports := reports_same
  result := result_same

/-- The exports of the wrapper and of the header either fail alike or correspond: chapter by chapter
and export by export they have the same names, and their parameters and results declare the same
types. -/
theorem header_matches_wrapper (api : Api) :
    (∃ e, Host.dialect.chapters api = .error e ∧ Header.dialect.chapters api = .error e) ∨
    ∃ host header, Host.dialect.chapters api = .ok host ∧
      Header.dialect.chapters api = .ok header ∧
      InStep (SameChapter SameDeclaration SameResult (Roles.ofApi api))
        api.interfaces host header := by
  have hfail (e : Error) :
      Host.dialect.chapters api = .error e ↔ Header.dialect.chapters api = .error e :=
    Host.dialect_complete.chapters_error_iff Header.dialect_complete
  cases hh : Host.dialect.chapters api with
  | error e => exact .inl ⟨e, rfl, (hfail e).mp hh⟩
  | ok host =>
    cases hd : Header.dialect.chapters api with
    | error e =>
      have he := (hfail e).mpr hd
      rw [hh] at he
      cases he
    | ok header => exact .inr ⟨host, header, rfl, rfl, dialects_alike.chapters hh hd⟩

end Bindery.Boundary

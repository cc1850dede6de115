import Bindery.Proofs.Header.Texts
import Bindery.Proofs.Host.Converters

/-!
# Names that cross the boundary

A type with a name of its own is spelled by that name on both sides, and its values go through the
converters of that name. Both exist for enums and structs only, while a description may also name
its interfaces as types. `boundary_closed_iff` says where names cross: as types of struct fields, of
parameters unless the method is a closer, and of results unless they are new objects. The generated
code is closed exactly when an interface that is named at such a place shares its name with an enum
or a struct.
-/
namespace Bindery.Host
open Text Export Outcome Dialect Boundary
variable {api : Api} {roles : Roles} {name : String}

/-- The written type is the name, or an array of it. -/
def Mentions (type name : String) : Prop := (TypeExpr.read type).base = .named name

/-- The name is that of an enum or of a struct. -/
def Defined (api : Api) (name : String) : Prop := ∃ r ∈ api.enums ++ api.structs, r.name = name

/-- The places at which a name crosses the boundary. -/
inductive Crosses (api : Api) (name : String) : Prop
  | field {s : Record} {f : Variable} : s ∈ api.structs → f ∈ s.fields → Mentions f.type name →
      Crosses api name
  | param {r : Route} {s : Step} {p : Variable} : r ∈ routes api → s ∈ r.steps →
      ExportKind.closed? (Roles.ofApi api) s.method = none → p ∈ s.method.params →
      Mentions p.type name → Crosses api name
  | result {r : Route} : r ∈ routes api →
      ExportKind.ofMethod (Roles.ofApi api) r.last.method ≠ .newHandle →
      Mentions r.last.method.returns name → Crosses api name

/-! ## Boundary types -/

/-- The types of the description that the export at the end of a route spells. -/
def crossing (roles : Roles) (r : Route) : List TypeExpr :=
  (routeParams roles r).filterMap Param.type? ++ (resultType? roles r.last.method).toList

/-- The names in the boundary types of exports and struct fields. -/
def boundaryNames (api : Api) : List String :=
  ((routes api).flatMap (crossing (Roles.ofApi api)) ++
    (api.structs.flatMap (·.fields)).map fun f => TypeExpr.read f.type).filterMap (·.base.named?)

theorem mem_ownParams {s : Step} {t : TypeExpr} :
    t ∈ (ownParams roles s).filterMap Param.type? ↔
      ExportKind.closed? roles s.method = none ∧
        ∃ p ∈ s.method.params, TypeExpr.read p.type = t := by
  unfold ownParams
  cases ExportKind.closed? roles s.method with
  | some p => simp [Param.type?]
  | none =>
    have hparams (v : Variable) : (paramsOf v).filterMap Param.type? = [TypeExpr.read v.type] := by
      unfold paramsOf
      split <;> rfl
    simp [List.filterMap_flatMap, hparams, eq_comm]

theorem mem_crossing {r : Route} {t : TypeExpr} :
    t ∈ crossing roles r ↔
      (∃ s ∈ r.steps, ExportKind.closed? roles s.method = none ∧
        ∃ p ∈ s.method.params, TypeExpr.read p.type = t) ∨
      (ExportKind.ofMethod roles r.last.method ≠ .newHandle ∧
        TypeExpr.read r.last.method.returns = t) := by
  have hroot : (rootParams r.root).filterMap Param.type? = [] := by
    unfold rootParams
    split <;> rfl
  have hreports : (reportsTaken roles r.last.method).filterMap Param.type? = [] := by
    unfold reportsTaken reportParams
    split
    · split <;> split <;> rfl
    · rfl
  have hresult : t ∈ (resultType? roles r.last.method).toList ↔
      ExportKind.ofMethod roles r.last.method ≠ .newHandle ∧
        TypeExpr.read r.last.method.returns = t := by
    unfold resultType?
    split <;> rename_i hkind <;> simp [hkind, eq_comm]
  rw [crossing, List.mem_append, hresult, routeParams, List.filterMap_append, List.filterMap_append,
    hroot, hreports, List.nil_append, List.append_nil, List.filterMap_flatMap]
  simp only [List.mem_flatMap, mem_ownParams]

theorem mem_boundaryNames : name ∈ boundaryNames api ↔ Crosses api name := by
  simp only [boundaryNames, List.mem_filterMap, named?_eq_some_iff, List.mem_append,
    List.mem_flatMap, List.mem_map, mem_crossing]
  constructor
  · rintro ⟨t, ht, hname⟩
    rcases ht with ⟨r, hr, ⟨s, hs, hclosed, p, hp, rfl⟩ | ⟨hkind, rfl⟩⟩ | ⟨f, ⟨s, hs, hf⟩, rfl⟩
    · exact .param hr hs hclosed hp hname
    · exact .result hr hkind hname
    · exact .field hs hf hname
  · intro h
    cases h with
    | field hs hf hname => exact ⟨_, .inr ⟨_, ⟨_, hs, hf⟩, rfl⟩, hname⟩
    | param hr hs hclosed hp hname =>
      exact ⟨_, .inl ⟨_, hr, .inl ⟨_, hs, hclosed, _, hp, rfl⟩⟩, hname⟩
    | result hr hkind hname => exact ⟨_, .inl ⟨_, hr, .inr ⟨hkind, rfl⟩⟩, hname⟩

/-! ## Converters -/

/-- The generated code defines all types that it spells and all converters that it calls. -/
structure Closed (api : Api) : Prop where
  types : ∀ name ∈ boundaryNames api, Defined api name
  converters : ∀ c ∈ calledConverters api, c ∈ emittedConverters api

theorem mentions_of_mem_of {direction : String → Converter}
    (hd : ∀ type, (direction type).type = type) {type : String} {c : Converter}
    (h : c ∈ Converter.of direction (TypeExpr.read type)) : Mentions type c.type := by
  simp only [Converter.of, List.mem_map, Option.mem_toList, named?_eq_some_iff] at h
  obtain ⟨name, hname, rfl⟩ := h
  rw [hd]
  exact hname

theorem mem_emittedConverters {c : Converter} :
    c ∈ emittedConverters api ↔ Defined api c.type := by
  simp only [emittedConverters, Defined, List.mem_flatMap]
  cases c <;> simp [Converter.type, eq_comm]

section Code
variable {m : Method} {c : Converter}

theorem mentions_of_mem_passed {s : Step}
    (h : c ∈ (passed roles s).flatMap Argument.converters) :
    ExportKind.closed? roles s.method = none ∧ ∃ p ∈ s.method.params, Mentions p.type c.type := by
  unfold passed at h
  cases hclosed : ExportKind.closed? roles s.method with
  | some p => simp [hclosed, Argument.converters] at h
  | none =>
    simp only [hclosed, List.flatMap_map, List.mem_flatMap] at h
    obtain ⟨p, hp, hc⟩ := h
    exact ⟨rfl, p, hp, mentions_of_mem_of (fun _ => rfl) hc⟩

theorem mem_converters_follow {i : Interface} {path : List Step}
    (h : c ∈ (follow roles (objectOf i) path).converters) :
    ∃ s ∈ path, ExportKind.closed? roles s.method = none ∧
      ∃ p ∈ s.method.params, Mentions p.type c.type := by
  rw [Term.converters, arguments_follow, arguments_objectOf, List.nil_append,
    List.flatMap_assoc] at h
  obtain ⟨s, hs, hc⟩ := List.mem_flatMap.mp h
  exact ⟨s, hs, mentions_of_mem_passed hc⟩

theorem of_eq_nil_of_isVoid {t : TypeExpr} (h : t.isVoid = true) (direction : String → Converter) :
    Converter.of direction t = [] := by
  rw [TypeExpr.isVoid, Bool.and_eq_true, beq_iff_eq] at h
  simp [Converter.of, h.2, Base.named?]

theorem converters_reportingCode (call : Term) :
    (reportingCode m call).flatMap Statement.converters =
      call.converters ++ Converter.of .outward (TypeExpr.read m.returns) := by
  unfold reportingCode
  cases hvoid : (TypeExpr.read m.returns).isVoid with
  | true =>
    rw [of_eq_nil_of_isVoid hvoid]
    split <;> split <;> simp [Statement.converters]
  | false => split <;> split <;> simp [Statement.converters]

theorem mem_converters_delivering {call : Term}
    (h : c ∈ (delivering roles m call).flatMap Statement.converters) :
    c ∈ call.converters ∨
      (ExportKind.ofMethod roles m ≠ .newHandle ∧ Mentions m.returns c.type) := by
  by_cases hkind : ExportKind.ofMethod roles m = .newHandle
  · have hcall : (delivering roles m call).flatMap Statement.converters = call.converters := by
      simp [delivering, hkind, Statement.converters]
    exact .inl (hcall ▸ h)
  · have hsplit : c ∈ call.converters ∨ c ∈ Converter.of .outward (TypeExpr.read m.returns) := by
      rw [delivering_of_ne hkind] at h
      split at h
      · rw [converters_reportingCode] at h
        exact List.mem_append.mp h
      · rw [List.flatMap_singleton, Statement.converters] at h
        exact (List.mem_append.mp h).symm
    exact hsplit.imp_right fun hc => ⟨hkind, mentions_of_mem_of (fun _ => rfl) hc⟩

theorem crosses_of_mem_codeOf {r : Route} (hr : r ∈ routes api)
    (h : c ∈ (codeOf (Roles.ofApi api) r).flatMap Statement.converters) : Crosses api c.type := by
  rw [codeOf, List.flatMap_append, List.flatMap_append, List.mem_append, List.mem_append] at h
  rcases h with (hopening | hdelivering) | hclearing
  · cases hlinks : r.links with
    | nil => simp [hlinks, opening] at hopening
    | cons first rest =>
      rw [hlinks, opening, List.flatMap_singleton, Statement.converters, ← hlinks] at hopening
      obtain ⟨s, hs, hclosed, p, hp, hc⟩ := mem_converters_follow hopening
      exact .param hr (List.mem_append_left _ hs) hclosed hp hc
  · rcases mem_converters_delivering hdelivering with hcall | ⟨hkind, hc⟩
    · obtain ⟨s, hs, hclosed, p, hp, hc⟩ := mem_converters_follow hcall
      exact .param hr (List.mem_append_right _ hs) hclosed hp hc
    · exact .result hr hkind hc
  · unfold clearing at hclearing
    split at hclearing <;> cases hclearing

/-- Only values whose types cross the boundary are converted. -/
theorem crosses_of_mem_called (h : c ∈ calledConverters api) : Crosses api c.type := by
  rcases List.mem_append.mp h with hcode | hstruct
  · obtain ⟨r, hr, hc⟩ := List.mem_flatMap.mp hcode
    exact crosses_of_mem_codeOf hr hc
  · obtain ⟨s, hs, hc⟩ := List.mem_flatMap.mp hstruct
    obtain ⟨f, hf, hc⟩ := List.mem_flatMap.mp hc
    apply Crosses.field hs hf
    rcases List.mem_append.mp hc with hc | hc
    · exact mentions_of_mem_of (fun _ => rfl) hc
    · exact mentions_of_mem_of (fun _ => rfl) hc

end Code

/-! ## Closed descriptions -/

theorem mem_of_mentions {known : List String} {type : String} (h : Resolves known type)
    (hname : Mentions type name) : name ∈ known := by
  obtain ⟨t, ht, hknown⟩ := h
  rw [Mentions, TypeExpr.read_of_parse ht] at hname
  exact hknown name hname

/-- A sound description holds what crosses its boundary. -/
theorem Crosses.mem_names (hsound : api.Sound) (h : Crosses api name) : name ∈ api.names := by
  cases h with
  | field hs hf hname => exact mem_of_mentions (hsound.fields _ hs _ hf) hname
  | param hr hs _ hp hname =>
    obtain ⟨howner, hmethod⟩ := mem_of_mem_routes hr hs
    exact mem_of_mentions (((hsound.interfaces _ howner).methods _ hmethod).params _ hp) hname
  | result hr _ hname =>
    obtain ⟨howner, hmethod⟩ := mem_of_mem_routes hr (Route.last_mem_steps _)
    exact mem_of_mentions ((hsound.interfaces _ howner).methods _ hmethod).result hname

theorem closed_iff (hsound : api.Sound) :
    Closed api ↔ ∀ i ∈ api.interfaces, Crosses api i.name → Defined api i.name := by
  constructor
  · intro hclosed i _ hcrosses
    exact hclosed.types i.name (mem_boundaryNames.mpr hcrosses)
  · intro hinterfaces
    have hdefined {name : String} (h : Crosses api name) : Defined api name := by
      rcases List.mem_append.mp (h.mem_names hsound) with hname | henum
      · rcases List.mem_append.mp hname with hinterface | hstruct
        · obtain ⟨i, hi, rfl⟩ := List.mem_map.mp hinterface
          exact hinterfaces i hi h
        · obtain ⟨s, hs, rfl⟩ := List.mem_map.mp hstruct
          exact ⟨s, List.mem_append_right _ hs, rfl⟩
      · obtain ⟨e, he, rfl⟩ := List.mem_map.mp henum
        exact ⟨e, List.mem_append_left _ he, rfl⟩
    exact ⟨fun _ hname => hdefined (mem_boundaryNames.mp hname),
      fun _ hc => mem_emittedConverters.mpr (hdefined (crosses_of_mem_called hc))⟩

/-! ## The generated texts -/

/-- The text declares all enums and structs as types of C. -/
structure Declares (text : String) (api : Api) : Prop where
  enums : ∀ e ∈ api.enums, Holds text (Header.enumTypedef e)
  structs : ∀ s ∈ api.structs, Holds text (Header.structTypedef s)

theorem declares_declarations {declared : String} (h : Header.declarations api = .ok declared) :
    Declares declared api where
  enums _ he := (Header.holds_forward h).trans (Header.holds_enumTypedef he)
  structs _ hs := (Header.holds_forward h).trans (Header.holds_structTypedef hs)

theorem Declares.mono {text part : String} (h : Declares part api) (hpart : Holds text part) :
    Declares text api :=
  ⟨fun e he => hpart.trans (h.enums e he), fun s hs => hpart.trans (h.structs s hs)⟩

/-- Both sides spell the types of the same routes, and declare all enums and structs; the wrapper
holds their converters. The converters that bodies and structs call stand in their texts. The
generated code is closed exactly when every interface whose name crosses the boundary shares it with
an enum or a struct. -/
theorem boundary_closed_iff {layout : Layout} {guard text header : String}
    (hwrapper : wrapper api layout = .ok text) (hheader : Header.document api guard = .ok header) :
    (∃ chapters, dialect.chapters api = .ok chapters ∧
      Holds text (String.join (chapters.map chapterText)) ∧
      chapters.flatMap (·.exports) = (routes api).map (exportOf (Roles.ofApi api))) ∧
    (∃ chapters, Header.dialect.chapters api = .ok chapters ∧
      Holds header (String.join (chapters.map Header.prototypes)) ∧
      List.Forall₂ (fun r e => e.params = (routeParams (Roles.ofApi api) r).map Param.header ∧
          e.result = headerResult (resultType? (Roles.ofApi api) r.last.method))
        (routes api) (chapters.flatMap (·.exports))) ∧
    (∀ r ∈ routes api, ∀ s ∈ codeOf (Roles.ofApi api) r, ∀ c ∈ s.converters,
      Holds s.text c.function) ∧
    (∀ s ∈ api.structs, Holds text (inwardText s ++ outwardText s) ∧
      ∀ c ∈ structConverters s, Holds (inwardText s ++ outwardText s) c.function) ∧
    (∀ c ∈ emittedConverters api, Holds text ("\nfunc " ++ c.function ++ "(")) ∧
    Declares text api ∧ Declares header api ∧
    (Closed api ↔ ∀ i ∈ api.interfaces, Crosses api i.name → Defined api i.name) := by
  obtain ⟨chapters, declared, structs, hchapters, hdeclared, hstructs, rfl⟩ :=
    wrapper_eq_ok_iff.mp hwrapper
  simp only [Header.document, ofType, bind_eq_ok, pure_eq_ok, mapError_eq_ok] at hheader
  obtain ⟨prototypes, hprototypes, declared', hdeclared', rfl⟩ := hheader
  have hvalid := (chapters_eq_ok_iff.mp hchapters).1
  obtain rfl := structs_eq (Api.readable_of_validate hvalid).structs hstructs
  have hfront : Holds (frontMatter api layout declared) declared :=
    (((Holds.refl _).append_left _).append_right _).append_right _
  refine ⟨⟨chapters, hchapters, ?_, exports_eq_map_exportOf hchapters⟩,
    ⟨prototypes, hprototypes, ?_, ?_⟩, fun _ _ _ _ _ hc => Statement.holds_converter hc,
    fun s hs => ⟨?_, fun _ hc => holds_structConverter hc⟩,
    fun c hc => (holds_emitted hc).append_left _, ?_, ?_,
    closed_iff (Api.validate_eq_ok_iff.mp hvalid)⟩
  · exact ((Holds.refl _).append_left _).append_right _
  · exact ((Holds.refl _).append_left _).append_right _
  · exact (header_spells.exports hprototypes).imp fun r e h => h.2
  · have hsection : Holds (String.join (api.structs.map fun s => inwardText s ++ outwardText s))
        (inwardText s ++ outwardText s) := (Holds.refl _).join (List.mem_map.mpr ⟨s, hs, rfl⟩)
    exact ((hsection.append_left _).append_right _).append_left _
  · exact (declares_declarations hdeclared).mono
      (((hfront.append_right _).append_right _).append_right _)
  · exact (declares_declarations hdeclared').mono
      (((((Holds.refl _).append_left _).append_right _).append_right _).append_right _)

/-- The store of blobs names its interfaces only where they stay on their side. -/
theorem boundary_closed_iff_stores :
    "StoreCfg" ∈ boundaryNames Api.stores ∧
    Converter.outward "SourceType" ∈ calledConverters Api.stores ∧ Closed Api.stores := by
  refine ⟨by decide +kernel, by decide +kernel, ?_⟩
  have hwrapper : Succeeds (wrapper Api.stores {}) := .of_isOk (by decide +kernel)
  have hheader : Succeeds (Header.document Api.stores "STORES_H") := .of_isOk (by decide +kernel)
  have hnone : ∀ i ∈ Api.stores.interfaces, i.name ∉ boundaryNames Api.stores := by decide +kernel
  obtain ⟨text, htext⟩ := hwrapper
  obtain ⟨header, hheader⟩ := hheader
  refine (boundary_closed_iff htext hheader).2.2.2.2.2.2.2.mpr fun i hi hcrosses => ?_
  exact absurd (mem_boundaryNames.mpr hcrosses) (hnone i hi)

/-- Stores that are copied from one to another. -/
def copiedStores : Api :=
  { interfaces := [
      { name := "Stores", singleton := true
        methods := [
          { name := "copy"
            params := [{ name := "from", type := "Store" }, { name := "to", type := "Store" }]
            returns := "void" }] },
      { name := "Store", handle := true }] }

/-- A handle that is passed to a method other than a closer crosses under its own name. Neither side
declares such a type, and no converter is there for it. -/
theorem copiedStores_not_closed :
    Succeeds (wrapper copiedStores {}) ∧ Succeeds (Header.document copiedStores "STORES_H") ∧
    dialect.chapters copiedStores = .ok
      [⟨"Stores", [
        { name := "Stores_Copy", params := ["from C.Store", "to C.Store"], result := ""
          body := ["stores.Copy(GoStore(&from), GoStore(&to))"] }]⟩,
      ⟨"Store", []⟩] ∧
    Header.dialect.chapters copiedStores = .ok
      [⟨"Stores", [
        { name := "Stores_Copy", params := ["Store from", "Store to"], result := "void"
          body := [] }]⟩,
      ⟨"Store", []⟩] ∧
    Header.declarations copiedStores = .ok "typedef long long longlong;\n" ∧
    emittedConverters copiedStores = [] ∧ ¬ Closed copiedStores := by
  refine ⟨.of_isOk (by decide +kernel), .of_isOk (by decide +kernel), by decide +kernel,
    by decide +kernel, by decide +kernel, by decide +kernel, fun hclosed => ?_⟩
  have hcalled : Converter.inward "Store" ∈ calledConverters copiedStores := by decide +kernel
  have hnone : emittedConverters copiedStores = [] := by decide +kernel
  exact List.not_mem_nil (hnone ▸ hclosed.converters _ hcalled)

end Bindery.Host

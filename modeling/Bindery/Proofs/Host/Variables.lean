import Bindery.Api.Samples
import Bindery.Host.Wrapper
import Bindery.Proofs.Export.Capabilities
import Bindery.Proofs.Host.Code

/-!
# Variables of the wrapper

The code of an export refers to variables of the wrapper: the instance that its route starts from,
and the tables from which objects are taken and in which they are kept. The wrapper declares an
instance for each singleton and a table for each handle. `variables_declared_iff` says that every
table is declared, and that the instance is declared exactly when the route starts at a singleton:
a plain interface has no instance of its own.
-/
namespace Bindery.Host
open Text Export Outcome Dialect Boundary
variable {api : Api} {roles : Roles} {m : Method}

/-! ## The sections of the wrapper -/

/-- What stands before the variables: the declarations of C and the imports. -/
def frontMatter (api : Api) (layout : Layout) (declared : String) : String :=
  lines ["// Code generated by portal. DO NOT EDIT.", "", "package main", "", "/*",
      "#include <stdlib.h>", "#include <string.h>", ""]
    ++ declared ++ lines ["*/", "import \"C\"", ""] ++ lines (wrapperImports api layout)

/-- The variables, one line for each, and what gives them their values. -/
def initSection (api : Api) : String :=
  "\nfunc main() \x7b\x7d\n\n//=== INIT ===\n\n"
    ++ String.join ((globals api).map fun g => "var " ++ g.name ++ " " ++ g.type ++ "\n")
    ++ lines (initializer api)

/-- What stands after the exports: the conversions. -/
def conversions (api : Api) (structs : List String) : String :=
  lines ["", "//=== ENUMS ==="]
    ++ String.join (api.enums.map fun e => enumInward e ++ enumOutward e)
    ++ lines ["", "//=== STRUCTS ==="] ++ String.join structs ++ utilities

theorem initSection_eq (api : Api) :
    initSection api = lines ["", "func main() \x7b\x7d", "", "//=== INIT ===", ""]
      ++ lines ((globals api).map Global.text) ++ lines (initializer api) := by
  have hvariables : lines ((globals api).map Global.text) =
      String.join ((globals api).map fun g => "var " ++ g.name ++ " " ++ g.type ++ "\n") := by
    rw [lines, List.map_map]
    rfl
  rw [hvariables]
  rfl

/-- A variable has a line of its own. -/
theorem holds_initSection {g : Global} (h : g ∈ globals api) :
    Holds (initSection api) ("\nvar " ++ g.name ++ " " ++ g.type ++ "\n") := by
  have hhead : lines ["", "func main() \x7b\x7d", "", "//=== INIT ===", ""] =
      "\nfunc main() \x7b\x7d\n\n//=== INIT ===\n" ++ "\n" := rfl
  have hline : "\nvar " ++ g.name ++ " " ++ g.type ++ "\n" =
      "\n" ++ ("var " ++ g.name ++ " " ++ g.type) ++ "\n" := by
    simp [← String.toList_inj]
  rw [initSection_eq, hhead, hline, String.append_assoc, String.append_assoc]
  exact ((Holds.line (List.mem_map_of_mem h)).append_right _).append_left _

theorem wrapper_eq_ok_iff {layout : Layout} {text : String} :
    wrapper api layout = .ok text ↔ ∃ chapters declared structs,
      dialect.chapters api = .ok chapters ∧ Header.declarations api = .ok declared ∧
      (api.structs.mapM fun s => do
        return (← structInward s) ++ (← structOutward s)) = .ok structs ∧
      text = frontMatter api layout declared ++ initSection api
        ++ String.join (chapters.map chapterText) ++ conversions api structs := by
  simp only [wrapper, ofType, bind_eq_ok, pure_eq_ok, mapError_eq_ok, frontMatter, initSection_eq,
    conversions, String.append_assoc]
  tauto

/-! ## References -/

/-- A variable that code refers to: the instance of an interface or the table of its objects. -/
inductive Reference where
  | single (interface : String)
  | table (interface : String)
  deriving DecidableEq, Repr

/-- The variable that a reference means. -/
def Reference.global : Reference → Global
  | single interface => ⟨decapitalize interface, "api." ++ interface⟩
  | table interface => ⟨tableOf interface, "[]api." ++ interface⟩

/-- The wrapper declares the variable. -/
def Reference.Declared (api : Api) (x : Reference) : Prop := x.global ∈ globals api

def Argument.references : Argument → List Reference
  | converted _ => []
  | slot interface _ => [.table interface]

/-- The variable that holds an object, unless it is the result of calls. -/
def Term.variable? : Term → Option Reference
  | single interface => some (.single interface)
  | slot interface _ => some (.table interface)
  | chainEnd | call _ _ _ => none

def Term.references (t : Term) : List Reference :=
  t.start.variable?.toList ++ t.arguments.flatMap Argument.references

def Statement.references : Statement → List Reference
  | bind chain => chain.references
  | store interface call => .table interface :: call.references
  | lastIndex interface | clear interface _ => [.table interface]
  | take _ call | give _ call => call.references
  | reportPresence | reportFailure | giveResult _ => []

/-- The variables that the export at the end of a route refers to. -/
def referencesOf (roles : Roles) (r : Route) : List Reference :=
  (codeOf roles r).flatMap Statement.references

/-- The table of a handle interface. -/
def OfHandle (roles : Roles) (x : Reference) : Prop :=
  ∃ interface, x = .table interface ∧ roles.hasHandle interface = true

variable {x : Reference}

/-! ## The names of variables stand in the code -/

theorem Argument.holds_reference {a : Argument} (h : x ∈ a.references) :
    Holds a.text x.global.name := by
  cases a with
  | converted v => cases h
  | slot interface index =>
    obtain rfl := List.mem_singleton.mp h
    exact (((Holds.refl _).append_right _).append_right _).append_right _

theorem Term.holds_variable {t : Term} (h : t.variable? = some x) : Holds t.text x.global.name := by
  cases t with
  | single interface =>
    obtain rfl := Option.some.inj h
    exact .refl _
  | slot interface index =>
    obtain rfl := Option.some.inj h
    exact (((Holds.refl _).append_right _).append_right _).append_right _
  | chainEnd | call => cases h

theorem Term.holds_reference {t : Term} (h : x ∈ t.references) : Holds t.text x.global.name := by
  rcases List.mem_append.mp h with hstart | harguments
  · exact t.holds_start.trans (Term.holds_variable (Option.mem_toList.mp hstart))
  · obtain ⟨a, ha, hx⟩ := List.mem_flatMap.mp harguments
    exact (Term.holds_argument ha).trans (Argument.holds_reference hx)

theorem Statement.holds_reference {s : Statement} (h : x ∈ s.references) :
    Holds s.text x.global.name := by
  cases s with
  | bind | take | give => exact (Statement.holds_term rfl).trans (Term.holds_reference h)
  | store interface call =>
    rcases List.mem_cons.mp h with rfl | hcall
    · have htable : Holds (tableOf interface ++ " = append(") (tableOf interface) :=
        (Holds.refl _).append_right _
      exact (((htable.append_right _).append_right _).append_right _).append_right _
    · exact (Statement.holds_term rfl).trans (Term.holds_reference hcall)
  | lastIndex interface =>
    obtain rfl := List.mem_singleton.mp h
    exact ((Holds.refl _).append_left _).append_right _
  | clear interface index =>
    obtain rfl := List.mem_singleton.mp h
    exact ((((Holds.refl _).append_right _).append_right _).append_right _).append_right _
  | reportPresence | reportFailure | giveResult => cases h

/-! ## The references of a route -/

theorem ofHandle_passed {s : Step} (hx : x ∈ (passed roles s).flatMap Argument.references) :
    OfHandle roles x := by
  unfold passed at hx
  split at hx
  · rename_i p hclosed
    obtain rfl := List.mem_singleton.mp hx
    exact ⟨p.type, rfl, ExportKind.hasHandle_of_closed? hclosed⟩
  · simp [Argument.references] at hx

theorem references_objectOf (i : Interface) :
    (objectOf i).references =
      if i.handle then [.table i.name] else if i.fold then [] else [.single i.name] := by
  unfold objectOf
  split
  · rfl
  · split <;> rfl

theorem references_follow (i : Interface) (path : List Step) :
    (follow roles (objectOf i) path).references = (objectOf i).references ++
      path.flatMap fun s => (passed roles s).flatMap Argument.references := by
  simp only [Term.references, start_follow, arguments_follow, arguments_objectOf,
    List.flatMap_nil, List.nil_append, List.append_nil, List.flatMap_assoc]

theorem mem_references_follow {i : Interface} {path : List Step}
    (hx : x ∈ (follow roles (objectOf i) path).references) :
    x ∈ (objectOf i).references ∨ OfHandle roles x := by
  rw [references_follow] at hx
  rcases List.mem_append.mp hx with hobject | hpath
  · exact .inl hobject
  · obtain ⟨s, -, hs⟩ := List.mem_flatMap.mp hpath
    exact .inr (ofHandle_passed hs)

theorem references_reportingCode (call : Term) :
    (reportingCode m call).flatMap Statement.references = call.references := by
  unfold reportingCode
  split <;> split <;> split <;> simp [Statement.references]

/-- A call is delivered with no reference but the table of the new object. -/
theorem mem_references_delivering {call : Term} :
    x ∈ (delivering roles m call).flatMap Statement.references ↔ x ∈ call.references ∨
      (ExportKind.ofMethod roles m = .newHandle ∧ x = .table m.returns) := by
  by_cases hkind : ExportKind.ofMethod roles m = .newHandle
  · simp [delivering, hkind, Statement.references, or_comm]
  · have hcall : (delivering roles m call).flatMap Statement.references = call.references := by
      rw [delivering_of_ne hkind]
      split
      · exact references_reportingCode call
      · simp [Statement.references]
    simp [hcall, hkind]

theorem ofHandle_clearing {s : Step} (hx : x ∈ (clearing roles s).flatMap Statement.references) :
    OfHandle roles x := by
  unfold clearing at hx
  split at hx
  · rename_i p hclosed
    obtain rfl := List.mem_singleton.mp hx
    exact ⟨p.type, rfl, ExportKind.hasHandle_of_closed? hclosed⟩
  · cases hx

/-- The last method of a route with links is called on the end of the chain. -/
theorem objectOf_last {r : Route} {e : Export} (h : r.Makes dialect roles e)
    (hmodel : r.last.owner.fold = true → r.last.owner.handle = false) :
    objectOf r.last.owner = if r.links = [] then objectOf r.root else .chainEnd := by
  obtain ⟨chains, p, -, -, hchain⟩ := h.parts
  split at hchain
  · have hlinks := hchain.2.ne_nil
    rw [if_neg hlinks, objectOf, hmodel hchain.1, hchain.1]
    rfl
  · rw [if_pos hchain.2, Route.root, hchain.2]
    rfl

/-- The code of a route refers to the object at its root and to tables of handles. -/
theorem mem_referencesOf {r : Route} {e : Export} (h : r.Makes dialect roles e)
    (hmodel : r.last.owner.fold = true → r.last.owner.handle = false)
    (hx : x ∈ referencesOf roles r) : x ∈ (objectOf r.root).references ∨ OfHandle roles x := by
  rw [referencesOf, codeOf, List.flatMap_append, List.flatMap_append, List.mem_append,
    List.mem_append] at hx
  rcases hx with (hopening | hdelivering) | hclearing
  · cases hlinks : r.links with
    | nil => simp [hlinks, opening] at hopening
    | cons s rest =>
      have hroot : r.root = s.owner := by simp [Route.root, hlinks]
      rw [hlinks, opening, List.flatMap_singleton, Statement.references] at hopening
      rw [hroot]
      exact mem_references_follow hopening
  · rcases mem_references_delivering.mp hdelivering with hcall | ⟨hkind, rfl⟩
    · rcases mem_references_follow hcall with hobject | htable
      · rw [objectOf_last h hmodel] at hobject
        split at hobject
        · exact .inl hobject
        · cases hobject
      · exact .inr htable
    · exact .inr ⟨_, rfl, ExportKind.hasHandle_of_newHandle hkind⟩
  · exact .inr (ofHandle_clearing hclearing)

/-- The object at the root of a route is used. -/
theorem root_mem_referencesOf {r : Route} (hx : x ∈ (objectOf r.root).references) :
    x ∈ referencesOf roles r := by
  rw [referencesOf, codeOf, List.flatMap_append, List.flatMap_append]
  cases hlinks : r.links with
  | nil =>
    have hroot : r.root = r.last.owner := by simp [Route.root, hlinks]
    refine List.mem_append_left _ (List.mem_append_right _ ?_)
    rw [mem_references_delivering, references_follow, ← hroot]
    exact .inl (List.mem_append_left _ hx)
  | cons s rest =>
    have hroot : r.root = s.owner := by simp [Route.root, hlinks]
    refine List.mem_append_left _ (List.mem_append_left _ ?_)
    rw [opening, List.flatMap_singleton, Statement.references, references_follow, ← hroot]
    exact List.mem_append_left _ hx

/-! ## The declarations -/

theorem declared_of_ofHandle (h : OfHandle (Roles.ofApi api) x) : x.Declared api := by
  obtain ⟨interface, rfl, hinterface⟩ := h
  obtain ⟨i, hi, hhandle, rfl⟩ := Roles.hasHandle_ofApi.mp hinterface
  exact List.mem_append_right _ (List.mem_map.mpr ⟨i, List.mem_filter.mpr ⟨hi, hhandle⟩, rfl⟩)

/-- An instance is declared for the singletons only. The type of a variable tells whose it is. -/
theorem declared_single_iff (hsound : api.Sound) {i : Interface} (hi : i ∈ api.interfaces) :
    (Reference.single i.name).Declared api ↔ i.singleton = true := by
  constructor
  · intro h
    rcases List.mem_append.mp h with hsingle | htable
    · obtain ⟨j, hj, heq⟩ := List.mem_map.mp hsingle
      obtain ⟨hj, hsingleton⟩ := List.mem_filter.mp hj
      have hname : j.name = i.name := by
        simpa [Reference.global] using congrArg Global.type heq
      obtain rfl := List.inj_on_of_nodup_map hsound.interfaceNames hj hi hname
      exact hsingleton
    · obtain ⟨j, -, heq⟩ := List.mem_map.mp htable
      have htype : "[]api." ++ j.name = "api." ++ i.name := congrArg Global.type heq
      have hfirst := congrArg (fun s : String => s.toList.head?) htype
      simp at hfirst
  · intro hsingleton
    exact List.mem_append_left _
      (List.mem_map.mpr ⟨i, List.mem_filter.mpr ⟨hi, hsingleton⟩, rfl⟩)

theorem single_mem_objectOf {i : Interface} (hfold : i.fold = false) {interface : String} :
    .single interface ∈ (objectOf i).references ↔ i.handle = false ∧ interface = i.name := by
  rw [references_objectOf, hfold]
  cases i.handle <;> simp

theorem ofHandle_of_table_mem {i : Interface} (hi : i ∈ api.interfaces) {interface : String}
    (h : .table interface ∈ (objectOf i).references) :
    OfHandle (Roles.ofApi api) (.table interface) := by
  rw [references_objectOf] at h
  split at h
  · rename_i hhandle
    obtain rfl := Reference.table.inj (List.mem_singleton.mp h)
    exact ⟨i.name, rfl, Roles.hasHandle_ofApi.mpr ⟨i, hi, hhandle, rfl⟩⟩
  · split at h <;> simp at h

section Routes
variable {chapters : List Chapter} {r : Route}

theorem mem_references_route (h : dialect.chapters api = .ok chapters) (hr : r ∈ routes api)
    (hx : x ∈ referencesOf (Roles.ofApi api) r) :
    x ∈ (objectOf r.root).references ∨ OfHandle (Roles.ofApi api) x := by
  have hsound := Api.validate_eq_ok_iff.mp (chapters_eq_ok_iff.mp h).1
  have howner := hsound.interfaces _ (mem_of_mem_routes hr r.last_mem_steps).1
  exact mem_referencesOf (makes_exportOf h hr) howner.handle_of_fold hx

theorem table_declared (h : dialect.chapters api = .ok chapters) (hr : r ∈ routes api)
    {interface : String} (hx : .table interface ∈ referencesOf (Roles.ofApi api) r) :
    (Reference.table interface).Declared api := by
  rcases mem_references_route h hr hx with hobject | htable
  · exact declared_of_ofHandle (ofHandle_of_table_mem (root_mem_of_mem_routes hr) hobject)
  · exact declared_of_ofHandle htable

theorem single_mem_referencesOf_iff (h : dialect.chapters api = .ok chapters) (hr : r ∈ routes api)
    {interface : String} : .single interface ∈ referencesOf (Roles.ofApi api) r ↔
      r.root.handle = false ∧ interface = r.root.name := by
  rw [← single_mem_objectOf (makes_exportOf h hr).fold_root]
  constructor
  · intro hx
    rcases mem_references_route h hr hx with hobject | ⟨_, heq, -⟩
    · exact hobject
    · cases heq
  · exact root_mem_referencesOf

/-- What holds of all declared variables holds of all references, if it holds of the instance at
the root. -/
theorem forall_referencesOf_iff (h : dialect.chapters api = .ok chapters) (hr : r ∈ routes api)
    {P : Reference → Prop} (hP : ∀ x, x.Declared api → P x) :
    (∀ x ∈ referencesOf (Roles.ofApi api) r, P x) ↔
      r.root.handle = true ∨ P (.single r.root.name) := by
  constructor
  · intro hall
    cases hhandle : r.root.handle with
    | true => exact .inl rfl
    | false => exact .inr (hall _ ((single_mem_referencesOf_iff h hr).mpr ⟨hhandle, rfl⟩))
  · intro hinstance x hx
    cases x with
    | table interface => exact hP _ (table_declared h hr hx)
    | single interface =>
      obtain ⟨hplain, rfl⟩ := (single_mem_referencesOf_iff h hr).mp hx
      exact hinstance.resolve_left (by simp [hplain])

end Routes

/-- The variables stand in a section of their own before the exports, each in a line. All tables that
an export refers to are among them. The only instance that it refers to is the one its route starts
from, and that is among them exactly when it belongs to a singleton; for a plain interface there is
at most another variable of the same name. -/
theorem variables_declared_iff {layout : Layout} {text : String}
    (h : wrapper api layout = .ok text) :
    ∃ chapters before after, dialect.chapters api = .ok chapters ∧
      text = before ++ initSection api ++ String.join (chapters.map chapterText) ++ after ∧
      chapters.flatMap (·.exports) = (routes api).map (exportOf (Roles.ofApi api)) ∧
      (∀ x : Reference, x.Declared api →
        Holds (initSection api) ("\nvar " ++ x.global.name ++ " " ++ x.global.type ++ "\n")) ∧
      ∀ r ∈ routes api,
        (∀ s ∈ codeOf (Roles.ofApi api) r, ∀ x ∈ s.references, Holds s.text x.global.name) ∧
        (∀ interface, .table interface ∈ referencesOf (Roles.ofApi api) r →
          (Reference.table interface).Declared api) ∧
        (∀ interface, .single interface ∈ referencesOf (Roles.ofApi api) r ↔
          r.root.handle = false ∧ interface = r.root.name) ∧
        ((∀ x ∈ referencesOf (Roles.ofApi api) r, x.Declared api) ↔
          r.root.handle = true ∨ r.root.singleton = true) ∧
        ((∀ x ∈ referencesOf (Roles.ofApi api) r,
            x.global.name ∈ (globals api).map (·.name)) ↔
          r.root.handle = true ∨ decapitalize r.root.name ∈ (globals api).map (·.name)) := by
  obtain ⟨chapters, declared, structs, hchapters, -, -, htext⟩ := wrapper_eq_ok_iff.mp h
  have hsound := Api.validate_eq_ok_iff.mp (chapters_eq_ok_iff.mp hchapters).1
  refine ⟨chapters, _, _, hchapters, htext, exports_eq_map_exportOf hchapters,
    fun _ hx => holds_initSection hx, fun r hr => ?_⟩
  refine ⟨fun _ _ _ hx => Statement.holds_reference hx,
    fun _ hx => table_declared hchapters hr hx,
    fun _ => single_mem_referencesOf_iff hchapters hr, ?_, ?_⟩
  · rw [← declared_single_iff hsound (root_mem_of_mem_routes hr)]
    exact forall_referencesOf_iff hchapters hr fun _ hx => hx
  · exact forall_referencesOf_iff hchapters hr fun _ hx => List.mem_map_of_mem hx

/-- The routes of the store of blobs start at a singleton and at a handle. All their variables are
declared, and the wrapper has the two lines for them. -/
theorem variables_declared_iff_stores :
    (∃ r ∈ routes Api.stores, r.root.singleton = true) ∧
    (∃ r ∈ routes Api.stores, r.root.handle = true ∧ r.links.length = 2) ∧
    (∀ r ∈ routes Api.stores, ∀ x ∈ referencesOf (Roles.ofApi Api.stores) r,
      x.Declared Api.stores) ∧
    ∃ text, wrapper Api.stores {} = .ok text ∧ Holds text "\nvar stores api.Stores\n" ∧
      Holds text "\nvar store_handles []api.Store\n" := by
  have hwrapper : Succeeds (wrapper Api.stores {}) := .of_isOk (by decide +kernel)
  have hroots : ∀ r ∈ routes Api.stores, r.root.handle = true ∨ r.root.singleton = true := by
    decide +kernel
  have hglobals : globals Api.stores =
      [(Reference.single "Stores").global, (Reference.table "Store").global] := by decide +kernel
  obtain ⟨text, htext⟩ := hwrapper
  obtain ⟨chapters, before, after, -, hparts, -, hlines, hall⟩ := variables_declared_iff htext
  have hline (x : Reference) (hx : x.Declared Api.stores) :
      Holds text ("\nvar " ++ x.global.name ++ " " ++ x.global.type ++ "\n") := by
    rw [hparts]
    exact (((hlines x hx).append_left before).append_right _).append_right after
  refine ⟨by decide +kernel, by decide +kernel, ?_, text, htext, ?_, ?_⟩
  · intro r hr
    exact (hall r hr).2.2.2.1.mpr (hroots r hr)
  · exact hline (.single "Stores") (by simp [Reference.Declared, hglobals])
  · exact hline (.table "Store") (by simp [Reference.Declared, hglobals])

/-- Files that are read through an interface without a model. -/
def plainFiles : Api :=
  { interfaces := [{ name := "Files", methods := [{ name := "read", returns := "string" }] }] }

/-- The variable of a plain interface is used and never declared. -/
theorem plainFiles_undeclared :
    Succeeds (wrapper plainFiles {}) ∧
    dialect.chapters plainFiles = .ok
      [⟨"Files", [
        { name := "Files_Read", params := [], result := "*C.char"
          body := ["return C.CString(files.Read())"] }]⟩] ∧
    (∃ r ∈ routes plainFiles, Reference.single "Files" ∈ referencesOf (Roles.ofApi plainFiles) r) ∧
    (Reference.single "Files").global.name = "files" ∧ globals plainFiles = [] :=
  ⟨.of_isOk (by decide +kernel), by decide +kernel, by decide +kernel, by decide +kernel,
    by decide +kernel⟩

end Bindery.Host

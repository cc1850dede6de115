import Bindery.Proofs.Export.Route
import Bindery.Proofs.Target.Failures

/-!
# Signatures of exports

What an export takes and gives is fixed by its route: the index of the object at its root, what the
methods of the route declare in order, and the reports of the last one. A side of the boundary only
spells these parameters. `Spells` says how a dialect does so, and `Spells.exports` gives the
signatures of all exports of a description in such a dialect.
-/
namespace Bindery
open Outcome

namespace Boundary
open Dialect Export

inductive Param where
  | index (label : String)
  | declared (v : Variable)
  | lengthOf (v : Variable)
  | presence
  | failure
  deriving DecidableEq, Repr

namespace Param

def host : Param → String
  | index label => s!"{label} int64"
  | declared v => s!"{v.name} {Host.foreignTypes.spell (TypeExpr.read v.type)}"
  | lengthOf v => s!"{v.name}_length C.size_t"
  | presence => "cok *C.short"
  | failure => "cerr **C.char"

def header : Param → String
  | index label => s!"longlong {label}"
  | declared v => s!"{Header.types.spell (TypeExpr.read v.type)} {v.name}"
  | lengthOf v => Header.lengthOf v.name
  | presence => "short* cok"
  | failure => "char** cerr"

/-- The type of a parameter that the description declares. -/
def type? : Param → Option TypeExpr
  | declared v => some (TypeExpr.read v.type)
  | index _ | lengthOf _ | presence | failure => none

end Param

/-- A declared parameter, and the length beside an array. -/
def paramsOf (v : Variable) : List Param :=
  .declared v :: if v.arrayTyped then [.lengthOf v] else []

/-- What a method takes of its own. A closer takes the index of the object that it closes. -/
def ownParams (roles : Roles) (s : Step) : List Param :=
  match ExportKind.closed? roles s.method with
  | some p => [.index (closedIndex s.owner p)]
  | none => s.method.params.flatMap paramsOf

/-- The index of the object at the root of a route. -/
def rootParams (i : Interface) : List Param :=
  if i.handle then [.index ownIndex] else []

/-- The pointers through which absence and failure are reported. -/
def reportParams (m : Method) : List Param :=
  (if m.optional then [.presence] else []) ++ (if m.throws then [.failure] else [])

/-- The reports that an export takes. One that stores a new object takes none. -/
def reportsTaken (roles : Roles) (m : Method) : List Param :=
  if m.fallible ∧ ExportKind.ofMethod roles m ≠ .newHandle then reportParams m else []

/-- The parameters of the export at the end of a route. -/
def routeParams (roles : Roles) (r : Route) : List Param :=
  rootParams r.root ++ r.steps.flatMap (ownParams roles) ++ reportsTaken roles r.last.method

/-- The type that an export gives back, unless that is the index of a new object. -/
def resultType? (roles : Roles) (m : Method) : Option TypeExpr :=
  if ExportKind.ofMethod roles m = .newHandle then none else some (TypeExpr.read m.returns)

def hostResult : Option TypeExpr → String
  | none => "int64"
  | some t => Host.foreignTypes.spell t

def headerResult : Option TypeExpr → String
  | none => "longlong"
  | some t => if Header.types.spell t = "" then "void" else Header.types.spell t

/-- A dialect spells parameters and results by the given texts. -/
structure Spells (d : Dialect) (text : Param → String) (result : Option TypeExpr → String) :
    Prop where
  indexParam : ∀ {name param}, d.indexParam name = .ok param → param = text (.index name)
  declare : ∀ {v declared}, d.declare v = .ok declared → declared = (paramsOf v).map text
  reports : ∀ m, d.reports m = (reportParams m).map text
  result : ∀ {m newHandle spelled}, d.result m newHandle = .ok spelled →
    spelled = result (if newHandle then none else some (TypeExpr.read m.returns))

namespace Spells
variable {d : Dialect} {text : Param → String} {result : Option TypeExpr → String}
  {roles : Roles}

theorem declared (hs : Spells d text result) {ps : List Variable} {declared : List (List String)}
    (h : List.Forall₂ (fun p ds => d.declare p = .ok ds) ps declared) :
    declared.flatten = (ps.flatMap paramsOf).map text := by
  induction h with
  | nil => rfl
  | cons hp _ ih =>
    rw [List.flatten_cons, List.flatMap_cons, List.map_append, ih, hs.declare hp]

theorem passes (hs : Spells d text result) {s : Step} {declared arguments : List String}
    (h : Passes d roles s.owner s.method declared arguments) :
    declared = (ownParams roles s).map text := by
  unfold ownParams
  cases h with
  | closer hclosed _ hindex => simp [hclosed, hs.indexParam hindex]
  | each hnone hdeclared _ => simp only [hnone, hs.declared hdeclared]

theorem own (hs : Spells d text result) {i : Interface} {own : List String}
    (h : d.ownerParams i = .ok own) : own = (rootParams i).map text := by
  rw [ownerParams_eq_ok_iff] at h
  unfold rootParams
  split at h
  · rename_i hhandle
    obtain ⟨param, hparam, rfl⟩ := h
    simp [hhandle, hs.indexParam hparam]
  · rename_i hplain
    simp [hplain, h]

theorem linked (hs : Spells d text result) {fold : String} {path : List Step} {link : Link}
    (h : Linked d roles fold path link) (other : Step) :
    link.params =
      (rootParams (path.headD other).owner ++ path.flatMap (ownParams roles)).map text := by
  induction h with
  | fresh _ hpass hown _ => simp [extend, hs.passes hpass, hs.own hown]
  | onward _ hlinked hpass ih =>
    obtain ⟨first, rest, rfl⟩ := List.exists_cons_of_ne_nil hlinked.ne_nil
    simp only [extend, ih, hs.passes hpass]
    simp

/-- The parameters of an export are those of its route. -/
theorem params (hs : Spells d text result) {r : Route} {e : Export} (h : r.Makes d roles e)
    (hmodel : r.last.owner.fold = true → r.last.owner.handle = false) :
    e.params = (routeParams roles r).map text := by
  obtain ⟨chains, p, hfit, rfl, hchain⟩ := h.parts
  have hown := hs.own (ownerParams_eq_ok_iff.mpr hfit.own)
  have hdeclared := hs.passes hfit.passes
  have hreports : p.reports = (reportsTaken roles r.last.method).map text := by
    rw [hfit.reports, reportsTaken]
    split
    · exact hs.reports _
    · rfl
  cases hlink : p.chain with
  | none =>
    rw [hlink] at hchain
    simp only [Parts.made, Parts.params, hlink, hown, hdeclared, hreports]
    simp [routeParams, Route.steps, Route.root, hchain.2]
  | some link =>
    rw [hlink] at hchain
    have hroot : rootParams r.last.owner = [] := by simp [rootParams, hmodel hchain.1]
    simp only [Parts.made, Parts.params, hlink, hown, hdeclared, hreports, hroot, Option.map_some,
      Option.getD_some, hs.linked hchain.2 r.last]
    simp [routeParams, Route.steps, Route.root]

theorem results (hs : Spells d text result) {r : Route} {e : Export} (h : r.Makes d roles e) :
    e.result = result (resultType? roles r.last.method) := by
  obtain ⟨chains, p, hfit, rfl, -⟩ := h.parts
  have hresult := hs.result hfit.result
  simpa [Parts.made, resultType?] using hresult

theorem exports (hs : Spells d text result) {api : Api} {chapters : List Chapter}
    (h : d.chapters api = .ok chapters) :
    List.Forall₂ (fun r e => e.name = d.exportName r.last.owner.name r.last.method.name ∧
        e.params = (routeParams (Roles.ofApi api) r).map text ∧
        e.result = result (resultType? (Roles.ofApi api) r.last.method))
      (routes api) (chapters.flatMap (·.exports)) := by
  have hsound := Api.validate_eq_ok_iff.mp (chapters_eq_ok_iff.mp h).1
  have hroutes := (List.forall₂_and_left _ _).mpr ⟨fun r hr => hr, exports_follow_routes h⟩
  refine hroutes.imp fun r e hre => ?_
  obtain ⟨hr, hmakes⟩ := hre
  have howner := hsound.interfaces _ (mem_of_mem_routes hr r.last_mem_steps).1
  refine ⟨?_, hs.params hmakes howner.handle_of_fold, hs.results hmakes⟩
  obtain ⟨_, _, _, rfl, _⟩ := hmakes.parts
  rfl

end Spells

theorem host_spells : Spells Host.dialect Param.host hostResult where
  indexParam h := pure_eq_ok.mp h
  declare h := by
    simp only [Host.dialect, ofType, mapError_eq_ok, bind_eq_ok, pure_eq_ok] at h
    obtain ⟨spelled, hspelled, rfl⟩ := h
    obtain ⟨t, ht, rfl⟩ := TypeTable.spellText_eq_ok_iff.mp hspelled
    unfold paramsOf
    split <;> simp [Param.host, TypeExpr.read_of_parse ht]
  reports m := by
    simp only [Host.dialect, reportParams, List.map_append]
    congr 1 <;> split <;> rfl
  result {m newHandle spelled} h := by
    cases newHandle with
    | true => exact pure_eq_ok.mp h
    | false =>
      obtain ⟨t, ht, rfl⟩ := TypeTable.spellText_eq_ok_iff.mp (mapError_eq_ok.mp h)
      simp [hostResult, TypeExpr.read_of_parse ht]

theorem header_spells : Spells Header.dialect Param.header headerResult where
  indexParam h := pure_eq_ok.mp h
  declare h := by
    simp only [Header.dialect, Header.declareVariable, ofType, mapError_eq_ok, bind_eq_ok,
      pure_eq_ok] at h
    obtain ⟨spelled, hspelled, rfl⟩ := h
    obtain ⟨t, ht, rfl⟩ := TypeTable.spellText_eq_ok_iff.mp hspelled
    unfold paramsOf
    split <;> simp [Param.header, TypeExpr.read_of_parse ht]
  reports m := by
    simp only [Header.dialect, reportParams, List.map_append]
    congr 1 <;> split <;> rfl
  result {m newHandle spelled} h := by
    cases newHandle with
    | true => exact pure_eq_ok.mp h
    | false =>
      obtain ⟨type, htype, hspelled⟩ := bind_eq_ok.mp h
      obtain ⟨t, ht, rfl⟩ := TypeTable.spellText_eq_ok_iff.mp (mapError_eq_ok.mp htype)
      rw [pure_eq_ok.mp hspelled]
      simp [headerResult, TypeExpr.read_of_parse ht]

end Boundary
end Bindery

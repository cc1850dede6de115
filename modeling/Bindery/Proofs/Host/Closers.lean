import Bindery.Proofs.Export.Capabilities
import Bindery.Proofs.Host.Results

/-!
# Closing objects

A closer passes the object of a handle to a call and then empties its slot in the table. The slot is
found by an index, which the export takes beside the index of the object that the call is made on,
the parameters of the links of its chain and the pointers for reports. `closers_address_iff` says
that the slot which is passed is always the slot which is emptied, and when the index has a
parameter of its own. On an interface that is neither a handle nor a fold it always has one. On the
others the index is named after the parameter of the method, and that name may be taken.
-/
namespace Bindery
open Text Export Outcome Dialect Boundary

namespace Boundary.Param

def name : Param → String
  | index label => label
  | declared v => v.name
  | lengthOf v => s!"{v.name}_length"
  | presence => "cok"
  | failure => "cerr"

def hostType : Param → String
  | index _ => "int64"
  | declared v => Host.foreignTypes.spell (TypeExpr.read v.type)
  | lengthOf _ => "C.size_t"
  | presence => "*C.short"
  | failure => "**C.char"

theorem host_eq (p : Param) : p.host = p.name ++ " " ++ p.hostType := by
  cases p with
  | index label =>
    show label ++ " int64" = label ++ " " ++ "int64"
    rw [String.append_assoc]
    rfl
  | lengthOf v =>
    show v.name ++ "_length C.size_t" = v.name ++ "_length" ++ " " ++ "C.size_t"
    rw [String.append_assoc, String.append_assoc]
    rfl
  | declared | presence | failure => rfl

end Boundary.Param

/-- A method of an interface that is no fold is exported without a chain. -/
theorem Dialect.Route.Makes.links_eq_nil {d : Dialect} {roles : Roles} {r : Route} {e : Export}
    (h : r.Makes d roles e) (hfold : r.last.owner.fold = false) : r.links = [] := by
  obtain ⟨chains, parts, -, -, hchain⟩ := h.parts
  split at hchain
  · rw [hchain.1] at hfold
    cases hfold
  · exact hchain.2

namespace Host
variable {roles : Roles} {r : Route} {p : Variable}

/-- The parameters of an export that its last method does not declare: the index of the object at
the root of the route, and what the links take. -/
def leadingParams (roles : Roles) (r : Route) : List Param :=
  rootParams r.root ++ r.links.flatMap (ownParams roles)

/-- The name of a closed parameter is none of the names that the export takes besides. -/
structure NameFree (roles : Roles) (r : Route) (p : Variable) : Prop where
  root : r.root.handle = true → p.name ≠ ownIndex
  links : ∀ s ∈ r.links, ∀ q ∈ ownParams roles s, q.name ≠ p.name
  presence : r.last.method.optional = true → p.name ≠ "cok"
  failure : r.last.method.throws = true → p.name ≠ "cerr"

/-- The export at the end of a route passes the slot of the closed object to the call, and no other
argument, and empties this slot at the end. -/
structure Closes (roles : Roles) (r : Route) (p : Variable) (x : String) : Prop where
  params : routeParams roles r =
    leadingParams roles r ++ .index x :: reportParams r.last.method
  code : codeOf roles r = opening roles r.links ++
    (let call := .call (objectOf r.last.owner) r.last.method [.slot p.type x]
     if r.last.method.fallible then reportingCode r.last.method call
     else [.give (TypeExpr.read r.last.method.returns) call]) ++ [.clear p.type x]

theorem closes_of_closed? (h : ExportKind.closed? roles r.last.method = some p) :
    Closes roles r p (closedIndex r.last.owner p) := by
  have hkind : ExportKind.ofMethod roles r.last.method = .closer :=
    ExportKind.ofMethod_eq_closer_iff.mpr (by rw [h]; rfl)
  have hstores : ExportKind.ofMethod roles r.last.method ≠ .newHandle := by rw [hkind]; decide
  constructor
  · have hreports : reportsTaken roles r.last.method = reportParams r.last.method :=
      reportsTaken_eq_iff.mpr fun hnew => absurd hnew hstores
    have hown : ownParams roles r.last = [.index (closedIndex r.last.owner p)] := by
      rw [ownParams, h]
    simp [routeParams, leadingParams, Route.steps, hreports, hown]
  · have hpassed : passed roles r.last = [.slot p.type (closedIndex r.last.owner p)] := by
      rw [passed, h]
    have hcall := follow_concat roles (objectOf r.last.owner) [] r.last
    rw [List.nil_append, hpassed] at hcall
    rw [codeOf, delivering_of_ne hstores, hcall, clearing, h]
    rfl

/-- What the export declares besides the index, when its owner is reached by an index or a chain. -/
theorem nameFree_iff : NameFree roles r p ↔
    p.name ∉ (leadingParams roles r).map Param.name ∧
      p.name ∉ (reportParams r.last.method).map Param.name := by
  have hroot : p.name ∉ (rootParams r.root).map Param.name ↔
      (r.root.handle = true → p.name ≠ ownIndex) := by
    unfold rootParams
    split <;> simp_all [Param.name]
  have hlinks : p.name ∉ (r.links.flatMap (ownParams roles)).map Param.name ↔
      ∀ s ∈ r.links, ∀ q ∈ ownParams roles s, q.name ≠ p.name := by
    simp only [List.mem_map, List.mem_flatMap]
    exact ⟨fun h s hs q hq hname => h ⟨q, ⟨s, hs, hq⟩, hname⟩,
      fun h ⟨q, ⟨s, hs, hq⟩, hname⟩ => h s hs q hq hname⟩
  have hreports : p.name ∉ (reportParams r.last.method).map Param.name ↔
      (r.last.method.optional = true → p.name ≠ "cok") ∧
        (r.last.method.throws = true → p.name ≠ "cerr") := by
    unfold reportParams
    split <;> split <;> simp_all [Param.name]
  rw [leadingParams, List.map_append, List.mem_append, not_or, hroot, hlinks, hreports]
  exact ⟨fun h => ⟨⟨h.root, h.links⟩, h.presence, h.failure⟩,
    fun h => ⟨h.1.1, h.1.2, h.2.1, h.2.2⟩⟩

instance : Decidable (NameFree roles r p) := decidable_of_iff _ nameFree_iff.symm

/-- The index of a closer has a parameter of its own when no other parameter has its name. -/
theorem Closes.count_eq_one_iff {x : String} (h : Closes roles r p x) :
    ((routeParams roles r).map Param.name).count x = 1 ↔
      x ∉ (leadingParams roles r).map Param.name ∧
        x ∉ (reportParams r.last.method).map Param.name := by
  rw [h.params, List.map_append, List.map_cons, List.count_append, Param.name, List.count_cons_self,
    ← List.count_eq_zero, ← List.count_eq_zero]
  omega

/-- Where the owner is neither a handle nor a fold, the index stands before the reports alone. -/
theorem ownIndex_free (hlinks : r.links = []) (hhandle : r.last.owner.handle = false) :
    ownIndex ∉ (leadingParams roles r).map Param.name ∧
      ownIndex ∉ (reportParams r.last.method).map Param.name := by
  constructor
  · simp [leadingParams, rootParams, Route.root, hlinks, hhandle]
  · unfold reportParams
    split <;> split <;> simp [Param.name, ownIndex]

theorem index_declared_once_iff {e : Export} (hmakes : r.Makes dialect roles e)
    (h : Closes roles r p (closedIndex r.last.owner p)) :
    ((routeParams roles r).map Param.name).count (closedIndex r.last.owner p) = 1 ↔
      (r.last.owner.handle = true ∨ r.last.owner.fold = true → NameFree roles r p) := by
  rw [h.count_eq_one_iff]
  by_cases howner : r.last.owner.handle = true ∨ r.last.owner.fold = true
  · have hindex : closedIndex r.last.owner p = p.name := by
      simpa [closedIndex] using fun hhandle hfold => absurd howner (by simp [hhandle, hfold])
    rw [hindex, ← nameFree_iff]
    exact ⟨fun hfree _ => hfree, fun hfree => hfree howner⟩
  · have hhandle : r.last.owner.handle = false := by simp_all
    have hfold : r.last.owner.fold = false := by simp_all
    have hindex : closedIndex r.last.owner p = ownIndex := by simp [closedIndex, hhandle, hfold]
    rw [hindex]
    exact ⟨fun _ hmodel => absurd hmodel howner,
      fun _ => ownIndex_free (hmakes.links_eq_nil hfold) hhandle⟩

/-- A closer passes the slot of the closed object and empties the same slot, whether or not it may
fail. The index of the slot has a parameter of its own on every interface that is neither a handle
nor a fold. On the others it has one exactly when the name of the closed parameter is not that of
the receiver's index, of a parameter of a link or of a report. -/
theorem closers_address_iff {api : Api} {chapters : List Chapter}
    (h : dialect.chapters api = .ok chapters) :
    chapters.flatMap (·.exports) = (routes api).map (exportOf (Roles.ofApi api)) ∧
    ∀ r ∈ routes api, ExportKind.ofMethod (Roles.ofApi api) r.last.method = .closer →
      ∃ p x, r.last.method.params = [p] ∧ x = closedIndex r.last.owner p ∧
        Closes (Roles.ofApi api) r p x ∧
        (exportOf (Roles.ofApi api) r).params =
          (routeParams (Roles.ofApi api) r).map (fun q => q.name ++ " " ++ q.hostType) ∧
        (exportOf (Roles.ofApi api) r).body.getLast? =
          some s!"{(Argument.slot p.type x).text} = nil" ∧
        (((routeParams (Roles.ofApi api) r).map Param.name).count x = 1 ↔
          (r.last.owner.handle = true ∨ r.last.owner.fold = true →
            NameFree (Roles.ofApi api) r p)) := by
  refine ⟨exports_eq_map_exportOf h, ?_⟩
  intro r hr hcloser
  obtain ⟨p, hp⟩ := Option.isSome_iff_exists.mp (ExportKind.ofMethod_eq_closer_iff.mp hcloser)
  have hcloses := closes_of_closed? hp
  refine ⟨p, _, (ExportKind.closed?_eq_some_iff.mp hp).1, rfl, hcloses, ?_, ?_,
    index_declared_once_iff (makes_exportOf h hr) hcloses⟩
  · exact List.map_congr_left fun q _ => q.host_eq
  · rw [exportOf, hcloses.code, List.map_append, List.map_singleton, List.getLast?_concat]
    rfl

/-- Stores that are closed on a singleton, on a pool of them and at the end of a chain. -/
def pooledStores : Api :=
  { interfaces := [
      { name := "Stores", singleton := true
        methods := [{ name := "close", params := [{ name := "store", type := "Store" }]
                      returns := "void", throws := true }] },
      { name := "Pool", handle := true
        methods := [
          { name := "release", params := [{ name := "store", type := "Store" }]
            returns := "void" },
          { name := "reader", params := [{ name := "paths", type := "string[]" }]
            returns := "Reader" }] },
      { name := "Reader", fold := true
        methods := [{ name := "release", params := [{ name := "other", type := "Store" }]
                      returns := "void", optional := true }] },
      { name := "Store", handle := true }] }

/-- All three closers of the pooled stores have an index of their own: on the singleton, on the pool
beside the index of the pool, and behind the parameters of a link. -/
theorem closers_address_iff_pooledStores :
    (∃ r ∈ routes pooledStores, r.last.owner.singleton = true) ∧
    (∃ r ∈ routes pooledStores, r.last.owner.handle = true) ∧
    (∃ r ∈ routes pooledStores, r.last.owner.fold = true ∧ r.links.length = 1) ∧
    ∀ r ∈ routes pooledStores, ∃ p x, r.last.method.params = [p] ∧
      Closes (Roles.ofApi pooledStores) r p x ∧
      ((routeParams (Roles.ofApi pooledStores) r).map Param.name).count x = 1 := by
  refine ⟨by decide +kernel, by decide +kernel, by decide +kernel, ?_⟩
  have hchapters : Succeeds (dialect.chapters pooledStores) := .of_isOk (by decide +kernel)
  have hclosers : ∀ r ∈ routes pooledStores,
      ExportKind.ofMethod (Roles.ofApi pooledStores) r.last.method = .closer := by
    decide +kernel
  have hfree : ∀ r ∈ routes pooledStores, ∀ p ∈ r.last.method.params,
      r.last.owner.handle = true ∨ r.last.owner.fold = true →
        NameFree (Roles.ofApi pooledStores) r p := by
    decide +kernel
  obtain ⟨chapters, h⟩ := hchapters
  intro r hr
  obtain ⟨p, x, hparams, -, hcloses, -, -, hcount⟩ :=
    (closers_address_iff h).2 r hr (hclosers r hr)
  exact ⟨p, x, hparams, hcloses, hcount.mpr (hfree r hr p (by simp [hparams]))⟩

/-- A pool whose method calls the connection that it closes a handle. -/
def handlePool : Api :=
  { interfaces := [
      { name := "Pool", handle := true
        methods := [{ name := "release", params := [{ name := "handle", type := "Conn" }]
                      returns := "void" }] },
      { name := "Conn", handle := true }] }

/-- One name stands for two indices: that of the pool and that of the connection. -/
theorem handlePool_indices_clash :
    dialect.chapters handlePool = .ok
      [⟨"Pool", [
        { name := "Pool_Release", params := ["handle int64", "handle int64"], result := ""
          body := ["pool_handles[handle].Release(conn_handles[handle])",
            "conn_handles[handle] = nil"] }]⟩,
      ⟨"Conn", []⟩] ∧
    ∃ r ∈ routes handlePool,
      ExportKind.ofMethod (Roles.ofApi handlePool) r.last.method = .closer ∧
      (routeParams (Roles.ofApi handlePool) r).map Param.name = [ownIndex, ownIndex] :=
  ⟨by decide +kernel, by decide +kernel⟩

end Host
end Bindery

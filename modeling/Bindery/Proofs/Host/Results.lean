import Bindery.Api.Samples
import Bindery.Proofs.Host.Code

/-!
# What becomes of results

A method declares up to three results: its value, whether there is one, and a failure. Code that
takes other results from a call than the method declares is refused by the host language, or loses a
report. `results_honoured_iff` says what the wrapper takes from each call: all that is declared,
except that an object which is passed on at once, into a table or to the next call of a chain, is
taken for the only result. So reports are honoured along a route exactly when no object that is
passed on comes with a report.
-/
namespace Bindery.Host
open Text Export Outcome Dialect Boundary
variable {roles : Roles} {m : Method}

/-- A call in a body, and the results that the code takes from it. -/
structure Use where
  method : Method
  taken : List Result
  deriving DecidableEq, Repr

/-- The calls of a term when the given results are taken from the last one. A receiver stands for
one value. -/
def Term.uses (taken : List Result) : Term → List Use
  | single _ | slot _ _ | chainEnd => []
  | call receiver m _ => receiver.uses [.value] ++ [⟨m, taken⟩]

/-- The calls of a statement. Only `take` has variables for more than one result. -/
def Statement.uses : Statement → List Use
  | bind chain => chain.uses [.value]
  | store _ call => call.uses [.value]
  | take taken call => call.uses taken
  | give t call => call.uses (if t.isVoid then [] else [.value])
  | lastIndex _ | reportPresence | reportFailure | giveResult _ | clear _ _ => []

/-- The method returns an object that is passed on at once: the next call of a chain is made on it,
or it is stored in a table. -/
def PassedOn (roles : Roles) (m : Method) : Prop :=
  roles.hasFold m.returns = true ∨ ExportKind.ofMethod roles m = .newHandle

instance : DecidablePred (PassedOn roles) :=
  fun _ => inferInstanceAs (Decidable (_ ∨ _))

/-- What the wrapper takes from a call. -/
def takenFrom (roles : Roles) (m : Method) : List Result :=
  if PassedOn roles m then [.value] else results m

/-- The export at the end of a route takes from each call what the method declares, and its last
parameters are the reports of the exported method. -/
structure Honours (roles : Roles) (r : Route) : Prop where
  uses : ∀ u ∈ (codeOf roles r).flatMap Statement.uses, u.taken = results u.method
  reports : routeParams roles r =
    rootParams r.root ++ r.steps.flatMap (ownParams roles) ++ reportParams r.last.method

@[simp] theorem uses_objectOf (i : Interface) (taken : List Result) :
    (objectOf i).uses taken = [] := by
  unfold objectOf
  split
  · rfl
  · split <;> rfl

theorem uses_follow (start : Term) (path : List Step) :
    (follow roles start path).uses [.value] =
      start.uses [.value] ++ path.map fun s => ⟨s.method, [.value]⟩ := by
  induction path generalizing start with
  | nil => simp [follow]
  | cons s path ih =>
    have hrest := ih (.call start s.method (passed roles s))
    rw [follow] at hrest ⊢
    rw [List.foldl_cons, hrest, Term.uses, List.map_cons, List.append_assoc, List.singleton_append]

theorem uses_opening (links : List Step) :
    (opening roles links).flatMap Statement.uses = links.map fun s => ⟨s.method, [.value]⟩ := by
  cases links with
  | nil => rfl
  | cons s rest => simp [opening, Statement.uses, uses_follow]

theorem uses_reportingCode (call : Term) :
    (reportingCode m call).flatMap Statement.uses = call.uses (results m) := by
  -- the statements after the call only use the variables that it has filled
  unfold reportingCode
  split <;> split <;> split <;> simp [Statement.uses]

theorem results_of_not_fallible (h : m.fallible = false) :
    results m = if (TypeExpr.read m.returns).isVoid then [] else [.value] := by
  rw [Method.fallible, Bool.or_eq_false_iff] at h
  simp [results, h.1, h.2]

theorem uses_delivering (hfold : roles.hasFold m.returns = false) (i : Interface)
    (arguments : List Argument) :
    (delivering roles m (.call (objectOf i) m arguments)).flatMap Statement.uses =
      [⟨m, takenFrom roles m⟩] := by
  have huses (taken : List Result) :
      (Term.call (objectOf i) m arguments).uses taken = [⟨m, taken⟩] := by
    rw [Term.uses, uses_objectOf, List.nil_append]
  by_cases hkind : ExportKind.ofMethod roles m = .newHandle
  · have htaken : takenFrom roles m = [.value] := if_pos (.inr hkind)
    simp [delivering, hkind, Statement.uses, huses, htaken]
  · have htaken : takenFrom roles m = results m := by
      apply if_neg
      simp [PassedOn, hfold, hkind]
    rw [delivering_of_ne hkind, htaken]
    split
    · rw [uses_reportingCode, huses]
    · rename_i hsilent
      rw [results_of_not_fallible (Bool.eq_false_iff.mpr hsilent)]
      simp [Statement.uses, huses]

theorem uses_clearing (s : Step) : (clearing roles s).flatMap Statement.uses = [] := by
  unfold clearing
  split <;> rfl

/-- The code of a route calls each of its methods once and in order. -/
theorem uses_codeOf {api : Api} {r : Route} (hr : r ∈ routes api) :
    (codeOf (Roles.ofApi api) r).flatMap Statement.uses =
      r.steps.map fun s => ⟨s.method, takenFrom (Roles.ofApi api) s.method⟩ := by
  have hlast := (exists_last_eq_iff.mp ⟨r, hr, rfl⟩).2
  have hlinks : r.links.map (fun s => (⟨s.method, [.value]⟩ : Use)) =
      r.links.map fun s => ⟨s.method, takenFrom (Roles.ofApi api) s.method⟩ := by
    refine List.map_congr_left fun s hs => ?_
    rw [takenFrom, if_pos (.inl (mem_links_of_mem_routes hr hs).2)]
  rw [codeOf, List.flatMap_append, List.flatMap_append, uses_opening, uses_clearing,
    List.append_nil, hlinks, follow, List.foldl_cons, List.foldl_nil,
    uses_delivering hlast, Route.steps, List.map_append]
  rfl

theorem reportParams_eq_nil_iff : reportParams m = [] ↔ m.fallible = false := by
  simp [reportParams, Method.fallible]

theorem reportsTaken_eq_iff :
    reportsTaken roles m = reportParams m ↔
      (ExportKind.ofMethod roles m = .newHandle → m.fallible = false) := by
  unfold reportsTaken
  cases hfallible : m.fallible with
  | false => simp [reportParams_eq_nil_iff.mpr hfallible]
  | true =>
    have hsome : reportParams m ≠ [] := by simp [reportParams_eq_nil_iff, hfallible]
    by_cases hkind : ExportKind.ofMethod roles m = .newHandle <;> simp [hkind, hsome.symm]

theorem takenFrom_eq_results_iff :
    takenFrom roles m = results m ↔ (PassedOn roles m → results m = [.value]) := by
  unfold takenFrom
  split
  · rename_i hpassed
    exact ⟨fun h _ => h.symm, fun h => (h hpassed).symm⟩
  · rename_i hkept
    exact ⟨fun _ h => absurd h hkept, fun _ => rfl⟩

theorem not_fallible_of_results (h : results m = [.value]) : m.fallible = false := by
  unfold results at h
  unfold Method.fallible
  cases hvoid : (TypeExpr.read m.returns).isVoid <;> cases ho : m.optional <;>
    cases ht : m.throws <;> simp_all

theorem honours_iff {api : Api} {r : Route} (hr : r ∈ routes api) :
    Honours (Roles.ofApi api) r ↔
      ∀ s ∈ r.steps, PassedOn (Roles.ofApi api) s.method → results s.method = [.value] := by
  have huses : (∀ u ∈ (codeOf (Roles.ofApi api) r).flatMap Statement.uses,
      u.taken = results u.method) ↔
        ∀ s ∈ r.steps, PassedOn (Roles.ofApi api) s.method → results s.method = [.value] := by
    simp only [uses_codeOf hr, List.forall_mem_map, takenFrom_eq_results_iff]
  constructor
  · intro h
    exact huses.mp h.uses
  · intro hpassed
    refine ⟨huses.mpr hpassed, ?_⟩
    rw [routeParams, reportsTaken_eq_iff.mpr]
    intro hkind
    exact not_fallible_of_results (hpassed r.last r.last_mem_steps (.inr hkind))

/-- The results in the signature of a method. -/
theorem signature_results (types : TypeTable) (h : m.Readable) :
    ∃ params : List String, signature types m = .ok
      (s!"{capitalize m.name}({commas params})" ++
        resultText ((results m).map (Result.type types (TypeExpr.read m.returns)))) := by
  obtain ⟨text, htext⟩ := signature_succeeds types h
  have hparts := htext
  simp only [signature, bind_eq_ok, pure_eq_ok] at hparts
  obtain ⟨params, -, t, ht, hparts⟩ := hparts
  rw [resultTypes_eq_map types ht] at hparts
  rw [TypeExpr.read_of_parse ht, htext, hparts]
  exact ⟨params, rfl⟩

/-- The wrapper takes from each call what the method declares, except that an object which is passed
on at once is taken for the only result. Reports are honoured along a route exactly when no method
on it that returns such an object declares another result. -/
theorem results_honoured_iff {api : Api} {chapters : List Chapter}
    (h : dialect.chapters api = .ok chapters) :
    (∀ i ∈ api.interfaces, ∀ m ∈ i.methods,
      (∃ params : List String, signature localTypes m = .ok
        (s!"{capitalize m.name}({commas params})" ++
          resultText ((results m).map (Result.type localTypes (TypeExpr.read m.returns))))) ∧
      ((Roles.ofApi api).hasFold m.returns = true ∨ ∃ r ∈ routes api, r.last = ⟨i, m⟩)) ∧
    chapters.flatMap (·.exports) = (routes api).map (exportOf (Roles.ofApi api)) ∧
    ∀ r ∈ routes api,
      (codeOf (Roles.ofApi api) r).flatMap Statement.uses =
        r.steps.map (fun s => ⟨s.method, takenFrom (Roles.ofApi api) s.method⟩) ∧
      (Honours (Roles.ofApi api) r ↔
        ∀ s ∈ r.steps, PassedOn (Roles.ofApi api) s.method → results s.method = [.value]) := by
  have hreadable := Api.readable_of_validate (chapters_eq_ok_iff.mp h).1
  refine ⟨?_, exports_eq_map_exportOf h, fun r hr => ⟨uses_codeOf hr, honours_iff hr⟩⟩
  intro i hi m hm
  refine ⟨signature_results localTypes (hreadable.interfaces i hi m hm), ?_⟩
  cases hfold : (Roles.ofApi api).hasFold m.returns with
  | true => exact .inl rfl
  | false => exact .inr (exists_last_eq_iff.mpr ⟨mem_allSteps.mpr ⟨hi, hm⟩, hfold⟩)

/-- In the store of blobs a synchronisation may fail and a size may be absent. Neither is lost. -/
theorem results_honoured_iff_stores :
    (∃ r ∈ routes Api.stores, r.last.method.throws = true) ∧
    (∃ r ∈ routes Api.stores, r.last.method.optional = true) ∧
    ∀ r ∈ routes Api.stores, Honours (Roles.ofApi Api.stores) r := by
  refine ⟨by decide +kernel, by decide +kernel, ?_⟩
  have hchapters : Succeeds (dialect.chapters Api.stores) := .of_isOk (by decide +kernel)
  have hpassed : ∀ r ∈ routes Api.stores, ∀ s ∈ r.steps,
      PassedOn (Roles.ofApi Api.stores) s.method → results s.method = [.value] := by
    decide +kernel
  obtain ⟨chapters, h⟩ := hchapters
  intro r hr
  exact ((results_honoured_iff h).2.2 r hr).2.mpr (hpassed r hr)

/-- Stores that are opened by a method that may fail. -/
def guardedStores : Api :=
  { interfaces := [
      { name := "Stores", singleton := true
        methods := [{ name := "open", returns := "Store", throws := true }] },
      { name := "Store", handle := true }] }

/-- The failure to open a store is lost: two results are appended to the table as if they were
one. -/
theorem guardedStores_loses_failure :
    dialect.chapters guardedStores = .ok
      [⟨"Stores", [
        { name := "Stores_Open", params := [], result := "int64"
          body := ["store_handles = append(store_handles, stores.Open())",
            "return int64(len(store_handles) - 1)"] }]⟩,
      ⟨"Store", []⟩] ∧
    signature localTypes { name := "open", returns := "Store", throws := true } =
      .ok "Open() (Store, error)" ∧
    ∃ r ∈ routes guardedStores, ¬ Honours (Roles.ofApi guardedStores) r := by
  refine ⟨by decide +kernel, by decide +kernel, ?_⟩
  have hlost : ∃ r ∈ routes guardedStores, ¬ ∀ s ∈ r.steps,
      PassedOn (Roles.ofApi guardedStores) s.method → results s.method = [.value] := by
    decide +kernel
  obtain ⟨r, hr, hlost⟩ := hlost
  exact ⟨r, hr, fun h => hlost ((honours_iff hr).mp h)⟩

end Bindery.Host

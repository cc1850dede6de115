import Bindery.Proofs.Host.Closers

/-!
# Where calls are placed

A call that stands twice in a body is made twice, and what it does to the host is done twice. The
bodies of the wrapper are texts around the text of a call, so what has to be seen is that each of
them has one place for it: `PlacesOnce`. `calls_placed_once` says so for all ways to deliver a
result, and for whole exports: the call of the exported method stands in one place, the calls of its
chain stand in one place before it, and the method is then called on the variable that holds what
they gave.
-/
namespace Bindery
open Text Export Outcome Dialect Boundary

/-! ## Bodies with one place -/

/-- One statement has one place for the call, and the others do not depend on it. -/
def PlacesOnce (body : String → List String) : Prop :=
  ∃ before holder after, Linear holder ∧ ∀ call, body call = before ++ holder call :: after

namespace PlacesOnce
variable {body : String → List String}

theorem first {holder : String → String} (h : Linear holder) (after : List String) :
    PlacesOnce fun call => holder call :: after :=
  ⟨[], holder, after, h, fun _ => rfl⟩

theorem append (h : PlacesOnce body) (front back : List String) :
    PlacesOnce fun call => front ++ body call ++ back := by
  obtain ⟨before, holder, after, hholder, hbody⟩ := h
  exact ⟨front ++ before, holder, after ++ back, hholder, fun call => by simp [hbody]⟩

/-- The joined statements have one place for the call as well. -/
theorem linear (h : PlacesOnce body) (separator : String) :
    Linear fun call => separator.intercalate (body call) := by
  obtain ⟨before, holder, after, hholder, hbody⟩ := h
  simp only [hbody]
  clear hbody
  induction before with
  | nil =>
    cases after with
    | nil => simpa using hholder
    | cons next rest =>
      have hrest : next :: rest ≠ [] := List.cons_ne_nil _ _
      simp only [List.nil_append, String.intercalate_cons_of_ne_nil hrest]
      exact (hholder.append_right separator).append_right _
  | cons statement before ih =>
    have hrest (call : String) : before ++ holder call :: after ≠ [] := by simp
    simp only [List.cons_append, String.intercalate_cons_of_ne_nil (hrest _)]
    exact ih.append_left _

end PlacesOnce

/-- A method of a fold is exported at the end of a chain. -/
theorem Dialect.Route.Makes.exists_linked {d : Dialect} {roles : Roles} {r : Route} {e : Export}
    (h : r.Makes d roles e) (hfold : r.last.owner.fold = true) :
    ∃ link, Linked d roles r.last.owner.name r.links link := by
  obtain ⟨chains, parts, -, -, hchain⟩ := h.parts
  split at hchain
  · rename_i link _
    exact ⟨link, hchain.2⟩
  · rw [hchain.1] at hfold
    cases hfold

namespace Host
variable {roles : Roles} {m : Method} {s : Step} {r : Route}

/-! ## Ways to deliver a result -/

/-- The statements can be made for every call, and they have one place for it. -/
def Delivers (make : String → Except Error (List String)) : Prop :=
  ∃ body, PlacesOnce body ∧ ∀ call, make call = .ok (body call)

/-- The statements can be made for every call, and joined they are the call between two texts that
do not depend on it. -/
def Surrounds (make : String → Except Error (List String)) : Prop :=
  ∀ separator : String, ∃ before after, ∀ call, ∃ statements,
    make call = .ok statements ∧ separator.intercalate statements = before ++ call ++ after

theorem Delivers.surrounds {make : String → Except Error (List String)} (h : Delivers make) :
    Surrounds make := by
  intro separator
  obtain ⟨body, hbody, hmake⟩ := h
  obtain ⟨before, after, hjoined⟩ := hbody.linear separator
  exact ⟨before, after, fun call => ⟨body call, hmake call, hjoined call⟩⟩

theorem storing_delivers (interface : String) : Delivers (dialect.storing interface) := by
  have hstored : Linear fun call =>
      s!"{tableOf interface} = append({tableOf interface}, {call})" :=
    (Linear.id.append_left _).append_right _
  exact ⟨_, .first hstored _, fun _ => rfl⟩

theorem reporting_delivers (h : Succeeds m.resultType) : Delivers (dialect.reporting m) := by
  obtain ⟨t, ht⟩ := h
  have htaken : Linear fun call => commas (resultVariables m t) ++ " := " ++ call :=
    Linear.id.append_left _
  refine ⟨?_, ?placed, fun call => ?made⟩
  case made =>
    simp only [dialect, reporting, ht, ok_bind]
    rfl
  case placed =>
    exact (((PlacesOnce.first htaken []).append [] _).append [] _).append [] _

theorem returning_delivers (h : Succeeds m.resultType) : Delivers (dialect.returning m) := by
  obtain ⟨t, ht⟩ := h
  have ht : TypeExpr.parse m.returns = .ok t := ht
  refine ⟨_, .first (linear_outward t "return ") [], fun call => ?_⟩
  simp only [dialect, ValueTable.convertText, ht, ok_bind]
  rfl

/-- The statements of a call can be made by each kind of export, whatever the method reports. -/
theorem delivery_delivers (h : Succeeds m.resultType) (kind : ExportKind) :
    Delivers fun call => (·.2) <$> dialect.delivery kind m call := by
  have hsecond {make : String → Except Error (List String)} (hmake : Delivers make)
      (reports : List String) :
      Delivers fun call => (·.2) <$> do return (reports, ← make call) := by
    obtain ⟨body, hbody, hcall⟩ := hmake
    refine ⟨body, hbody, fun call => ?_⟩
    simp only [hcall]
    rfl
  unfold delivery
  by_cases hkind : kind = .newHandle
  · simp only [hkind, if_true]
    exact hsecond (storing_delivers m.returns) []
  · simp only [hkind, if_false]
    cases m.fallible with
    | true => exact hsecond (reporting_delivers h) (dialect.reports m)
    | false => exact hsecond (returning_delivers h) []

/-- The conversion of bytes from C has two places for the value: one for the address and one for the
length. -/
theorem inward_bytes_not_linear : ¬ Linear (inward.bare ⟨.builtin .bytes, false⟩) := by
  rintro ⟨before, after, h⟩
  have hlength (value : String) : (inward.bare ⟨.builtin .bytes, false⟩ value).length =
      ("C.GoBytes(unsafe.Pointer(" ++ value ++ "), C.int(C.strlen(" ++ value ++ ")))").length := rfl
  have hnone := (hlength "").symm.trans (congrArg String.length (h ""))
  have hone := (hlength "e").symm.trans (congrArg String.length (h "e"))
  have he : "e".length = 1 := rfl
  have hempty : "".length = 0 := rfl
  simp only [String.length_append, he, hempty] at hnone hone
  omega

/-! ## Whole exports -/

def terminalCall (roles : Roles) (s : Step) : Term :=
  .call (objectOf s.owner) s.method (passed roles s)

/-- The calls of the links of a route, if it has links. -/
def chainCall? (roles : Roles) : List Step → Option Term
  | [] => none
  | s :: rest => some (follow roles (objectOf s.owner) (s :: rest))

/-- The statements of the call of a method, from the text of the call. -/
def statementsOf (roles : Roles) (m : Method) (call : String) : List String :=
  (dialect.callStatements roles m call).toOption.getD []

/-- The body of an export, from the text of its chain and the text of the call of its method. -/
def bodyAround (roles : Roles) (s : Step) (chain : Option String) (call : String) : List String :=
  (chain.map ("folded := " ++ ·)).toList ++ statementsOf roles s.method call
    ++ (clearing roles s).map Statement.text

theorem callStatements_delivers (roles : Roles) (h : Succeeds m.resultType) :
    Delivers (dialect.callStatements roles m) := by
  unfold callStatements
  cases ExportKind.ofMethod roles m with
  | newHandle => exact storing_delivers m.returns
  | closer | fallible | direct =>
    cases m.fallible with
    | true => exact reporting_delivers h
    | false => exact returning_delivers h

theorem statementsOf_spec (roles : Roles) (h : Succeeds m.resultType) :
    PlacesOnce (statementsOf roles m) ∧
      ∀ call, dialect.callStatements roles m call = .ok (statementsOf roles m call) := by
  obtain ⟨body, hbody, hcall⟩ := callStatements_delivers roles h
  have hsame : statementsOf roles m = body := by
    funext call
    rw [statementsOf, hcall]
    rfl
  rw [hsame]
  exact ⟨hbody, hcall⟩

theorem placesOnce_call (h : Succeeds s.method.resultType) (chain : Option String) :
    PlacesOnce (bodyAround roles s chain) :=
  (statementsOf_spec roles h).1.append _ _

theorem placesOnce_chain (roles : Roles) (s : Step) (call : String) :
    PlacesOnce fun chain => bodyAround roles s (some chain) call :=
  .first (Linear.id.append_left "folded := ") _

theorem terms_opening (links : List Step) :
    (opening roles links).filterMap Statement.term? = (chainCall? roles links).toList := by
  cases links <;> rfl

theorem terms_delivering (call : Term) :
    (delivering roles m call).filterMap Statement.term? = [call] := by
  unfold delivering
  cases ExportKind.ofMethod roles m with
  | newHandle => rfl
  | closer | fallible | direct =>
    dsimp only
    split
    · unfold reportingCode
      split <;> split <;> split <;> rfl
    · rfl

theorem terms_clearing (s : Step) : (clearing roles s).filterMap Statement.term? = [] := by
  unfold clearing
  split <;> rfl

/-- The code of a route holds two terms at most: the calls of its chain, and the last call. -/
theorem terms_codeOf (roles : Roles) (r : Route) :
    (codeOf roles r).filterMap Statement.term? =
      (chainCall? roles r.links).toList ++ [terminalCall roles r.last] := by
  rw [codeOf, List.filterMap_append, List.filterMap_append, terms_opening, terms_delivering,
    terms_clearing, List.append_nil]
  rfl

theorem opening_map_text (links : List Step) :
    (opening roles links).map Statement.text =
      (((chainCall? roles links).map Term.text).map ("folded := " ++ ·)).toList := by
  cases links <;> rfl

theorem exportOf_body (h : Succeeds r.last.method.resultType) :
    (exportOf roles r).body = bodyAround roles r.last
      ((chainCall? roles r.links).map Term.text) (terminalCall roles r.last).text := by
  have hstatements :=
    delivering_text ((statementsOf_spec roles h).2 (terminalCall roles r.last).text)
  rw [exportOf, codeOf, List.map_append, List.map_append, opening_map_text, bodyAround,
    ← hstatements]
  rfl

/-- Each call of a route stands in one place of the body of its export. -/
structure PlacesCalls (roles : Roles) (r : Route) : Prop where
  methods : ((codeOf roles r).flatMap Statement.uses).map (·.method) = r.steps.map (·.method)
  terms : (codeOf roles r).filterMap Statement.term? =
    (chainCall? roles r.links).toList ++ [terminalCall roles r.last]
  body : (exportOf roles r).body = bodyAround roles r.last
    ((chainCall? roles r.links).map Term.text) (terminalCall roles r.last).text
  call : ∀ chain, PlacesOnce (bodyAround roles r.last chain)
  chain : ∀ call, PlacesOnce fun chain => bodyAround roles r.last (some chain) call
  prelude : ∀ chain call, bodyAround roles r.last (some chain) call =
    ("folded := " ++ chain) :: bodyAround roles r.last none call
  folded : r.last.owner.fold = true →
    terminalCall roles r.last = .call .chainEnd r.last.method (passed roles r.last) ∧
    Term.chainEnd.text = "folded" ∧
    ∃ link, Linked dialect roles r.last.owner.name r.links link ∧
      (chainCall? roles r.links).map Term.text = some link.expr
  unfolded : r.last.owner.fold = false → chainCall? roles r.links = none

theorem chainCall?_of_linked {fold : String} {links : List Step} {link : Link}
    (h : Linked dialect roles fold links link) :
    (chainCall? roles links).map Term.text = some link.expr := by
  obtain ⟨first, rest, rfl⟩ := List.exists_cons_of_ne_nil h.ne_nil
  exact congrArg some (follow_text h first)

theorem placesCalls {api : Api} {chapters : List Chapter} (h : dialect.chapters api = .ok chapters)
    (hr : r ∈ routes api) : PlacesCalls (Roles.ofApi api) r := by
  have hvalid := (chapters_eq_ok_iff.mp h).1
  have howner := mem_of_mem_routes hr r.last_mem_steps
  have hresult : Succeeds r.last.method.resultType :=
    ((Api.readable_of_validate hvalid).interfaces _ howner.1 _ howner.2).result
  have hsound := (Api.validate_eq_ok_iff.mp hvalid).interfaces _ howner.1
  have hmakes := makes_exportOf h hr
  constructor
  case methods =>
    rw [uses_codeOf hr, List.map_map]
    rfl
  case terms => exact terms_codeOf _ r
  case body => exact exportOf_body hresult
  case call => exact placesOnce_call hresult
  case chain => exact placesOnce_chain _ r.last
  case prelude => exact fun _ _ => rfl
  case folded =>
    intro hfold
    have hobject : objectOf r.last.owner = .chainEnd := by
      simp [objectOf, hsound.handle_of_fold hfold, hfold]
    obtain ⟨link, hlink⟩ := hmakes.exists_linked hfold
    exact ⟨by rw [terminalCall, hobject], rfl, link, hlink, chainCall?_of_linked hlink⟩
  case unfolded =>
    intro hfold
    rw [hmakes.links_eq_nil hfold]
    rfl

/-- Every way to deliver a result puts the call between two texts that do not depend on it, for each
method whose result can be read and for each combination of its reports. So in every export the call
of the method stands in one place. If the owner is a fold, the calls of the chain stand in one place
before it, where their result is bound, and the method is called on the bound variable. -/
theorem calls_placed_once :
    (∀ interface, Surrounds (dialect.storing interface)) ∧
    (∀ m : Method, Succeeds m.resultType →
      Surrounds (dialect.reporting m) ∧ Surrounds (dialect.returning m) ∧
      ∀ kind, Surrounds fun call => (·.2) <$> dialect.delivery kind m call) ∧
    ∀ api chapters, dialect.chapters api = .ok chapters →
      chapters.flatMap (·.exports) = (routes api).map (exportOf (Roles.ofApi api)) ∧
      ∀ r ∈ routes api, PlacesCalls (Roles.ofApi api) r := by
  refine ⟨fun interface => (storing_delivers interface).surrounds, ?_, ?_⟩
  · intro m h
    exact ⟨(reporting_delivers h).surrounds, (returning_delivers h).surrounds,
      fun kind => (delivery_delivers h kind).surrounds⟩
  · intro api chapters h
    exact ⟨exports_eq_map_exportOf h, fun r hr => placesCalls h hr⟩

/-- The size of a blob is asked for at the end of a chain of two calls, and may be absent. Each of
the three methods is called once. -/
theorem calls_placed_once_stores :
    Succeeds (Method.resultType { name := "size", returns := "bigint", optional := true }) ∧
    Surrounds (dialect.reporting { name := "size", returns := "bigint", optional := true }) ∧
    (∃ r ∈ routes Api.stores, r.links.length = 2 ∧ r.last.method.optional = true) ∧
    ∀ r ∈ routes Api.stores, PlacesCalls (Roles.ofApi Api.stores) r := by
  have hresult : Succeeds
      (Method.resultType { name := "size", returns := "bigint", optional := true }) :=
    .of_isOk (by decide +kernel)
  have hchapters : Succeeds (dialect.chapters Api.stores) := .of_isOk (by decide +kernel)
  obtain ⟨chapters, h⟩ := hchapters
  obtain ⟨-, hmethods, hexports⟩ := calls_placed_once
  exact ⟨hresult, (hmethods _ hresult).1, by decide +kernel, (hexports _ _ h).2⟩

end Host
end Bindery

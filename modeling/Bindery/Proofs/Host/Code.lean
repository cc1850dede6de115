import Bindery.Proofs.Target.Signature
import Bindery.Proofs.Text.Holds

/-!
# Code of the wrapper

The bodies of the wrapper as syntax. A body makes the calls of a route, takes what the last one
gives, and passes it on; `codeOf` says which statements that takes, and `Statement.text` how they
are written. The main statement is `exports_eq_map_exportOf`: the exports of the wrapper are exactly
those written from the routes of the description.
-/
namespace Bindery.Host
open Text Export Outcome Dialect Boundary
variable {roles : Roles} {m : Method} {s : Step}

inductive Result where
  | value | presence | failure
  deriving DecidableEq, Repr

namespace Result

def taken : Result → String
  | value => "result"
  | presence => "ok"
  | failure => "err"

/-- The type that a result is declared with, when the value has the given type. -/
def type (types : TypeTable) (t : TypeExpr) : Result → String
  | value => types.spell t
  | presence => "bool"
  | failure => "error"

end Result

def results (m : Method) : List Result :=
  (if (TypeExpr.read m.returns).isVoid then [] else [.value])
    ++ (if m.optional then [.presence] else []) ++ (if m.throws then [.failure] else [])

theorem resultTypes_eq_map (types : TypeTable) {t : TypeExpr} (h : m.resultType = .ok t) :
    resultTypes types m t = (results m).map (Result.type types t) := by
  unfold resultTypes results
  rw [TypeExpr.read_of_parse h, List.map_append, List.map_append]
  congr 1
  · congr 1 <;> split <;> rfl
  · split <;> rfl

theorem resultVariables_eq_map {t : TypeExpr} (h : m.resultType = .ok t) :
    resultVariables m t = (results m).map Result.taken := by
  unfold resultVariables results
  rw [TypeExpr.read_of_parse h, List.map_append, List.map_append]
  congr 1
  · congr 1 <;> split <;> rfl
  · split <;> rfl

/-- An argument of a call: a converted parameter, or an entry of a table. -/
inductive Argument where
  | converted (v : Variable)
  | slot (interface index : String)
  deriving DecidableEq, Repr

/-- An object: the instance of an interface, an entry of a table, or the end of a chain; or a call
of a method on an object. -/
inductive Term where
  | single (interface : String)
  | slot (interface index : String)
  | chainEnd
  | call (receiver : Term) (m : Method) (arguments : List Argument)
  deriving DecidableEq, Repr

/-- The object that the calls of a term start from. -/
def Term.start : Term → Term
  | call receiver _ _ => receiver.start
  | object => object

def Term.arguments : Term → List Argument
  | call receiver _ arguments => receiver.arguments ++ arguments
  | single _ | slot _ _ | chainEnd => []

inductive Statement where
  | bind (chain : Term)
  | store (interface : String) (call : Term)
  | lastIndex (interface : String)
  | take (taken : List Result) (call : Term)
  | reportPresence
  | reportFailure
  | giveResult (t : TypeExpr)
  | give (t : TypeExpr) (call : Term)
  | clear (interface index : String)
  deriving DecidableEq, Repr

def Argument.text : Argument → String
  | converted v => inward.convert (TypeExpr.read v.type) v.name ""
  | slot interface index => s!"{tableOf interface}[{index}]"

def Term.text : Term → String
  | single interface => decapitalize interface
  | slot interface index => s!"{tableOf interface}[{index}]"
  | chainEnd => "folded"
  | call receiver m arguments =>
    s!"{receiver.text}.{capitalize m.name}({commas (arguments.map Argument.text)})"

def Statement.text : Statement → String
  | bind chain => s!"folded := {chain.text}"
  | store interface call =>
    s!"{tableOf interface} = append({tableOf interface}, {call.text})"
  | lastIndex interface => s!"return int64(len({tableOf interface}) - 1)"
  | take taken call => commas (taken.map Result.taken) ++ " := " ++ call.text
  | reportPresence => "if ok \x7b\n\t\t*cok = 1\n\t\x7d"
  | reportFailure => "if err != nil \x7b\n\t\t*cerr = C.CString(err.Error())\n\t\x7d"
  | giveResult t => outward.convert t "result" "return "
  | give t call => outward.convert t call.text "return "
  | clear interface index => s!"{(Term.slot interface index).text} = nil"

def Statement.term? : Statement → Option Term
  | bind term | store _ term | take _ term | give _ term => some term
  | lastIndex _ | reportPresence | reportFailure | giveResult _ | clear _ _ => none

/-! ## Parts of the text of code -/

theorem linear_toForeign (p : Builtin) : Linear (toForeign p) := by
  cases p with
  | void => exact .id
  | boolean | number | bigint | string | bytes => exact ⟨_, _, fun _ => rfl⟩

theorem holds_convert {table : ValueTable} {t : TypeExpr} {value part : String}
    (h : Holds (table.bare t value) part) (lead : String) :
    Holds (table.convert t value lead) part := by
  unfold ValueTable.convert
  split
  · exact h
  · exact h.append_left lead

/-- The conversion of a value to C has one place for the value. -/
theorem linear_outward (t : TypeExpr) (lead : String) :
    Linear fun value => outward.convert t value lead := by
  have hbare : Linear (outward.bare t) := by
    obtain ⟨base, array⟩ := t
    cases array with
    | false =>
      cases base with
      | builtin p => exact linear_toForeign p
      | named name => exact ⟨_, _, fun _ => rfl⟩
    | true =>
      have hslice (more : String) : Linear fun value => "CMapSlice(" ++ value ++ more :=
        ⟨_, _, fun _ => rfl⟩
      cases base with
      | named name => exact ((hslice _).append_right _).append_right _
      | builtin p =>
        cases p with
        | string => exact ⟨_, _, fun _ => rfl⟩
        | boolean | number | bigint | bytes | void =>
          exact (((((hslice _).append_right _).append_right _).append_right _).append_right
            _).append_right _
  unfold ValueTable.convert
  split
  · exact hbare
  · exact hbare.append_left lead

theorem holds_outward (t : TypeExpr) (value lead : String) :
    Holds (outward.convert t value lead) value :=
  (linear_outward t lead).holds value

theorem Term.holds_start (t : Term) : Holds t.text t.start.text := by
  induction t with
  | single | slot | chainEnd => exact .refl _
  | call receiver m arguments ih =>
    exact ((((ih.append_right _).append_right _).append_right _).append_right _).append_right _

theorem Term.holds_argument {t : Term} {a : Argument} (h : a ∈ t.arguments) :
    Holds t.text a.text := by
  induction t with
  | single | slot | chainEnd => cases h
  | call receiver m arguments ih =>
    rcases List.mem_append.mp h with hreceiver | hmem
    · have hheld := ih hreceiver
      exact ((((hheld.append_right _).append_right _).append_right _).append_right _).append_right _
    · have hheld := (Holds.refl a.text).commas (List.mem_map_of_mem hmem)
      exact (hheld.append_left _).append_right _

theorem Statement.holds_term {s : Statement} {t : Term} (h : s.term? = some t) :
    Holds s.text t.text := by
  cases s with
  | bind chain =>
    obtain rfl := Option.some.inj h
    exact (Holds.refl _).append_left _
  | store interface call =>
    obtain rfl := Option.some.inj h
    exact ((Holds.refl _).append_left _).append_right _
  | take taken call =>
    obtain rfl := Option.some.inj h
    exact (Holds.refl _).append_left _
  | give t call =>
    obtain rfl := Option.some.inj h
    exact holds_outward t call.text "return "
  | lastIndex | reportPresence | reportFailure | giveResult | clear => cases h

/-! ## The code of a route -/

/-- What a method is called with. A closer passes the object that it closes. -/
def passed (roles : Roles) (s : Step) : List Argument :=
  match ExportKind.closed? roles s.method with
  | some p => [.slot p.type (closedIndex s.owner p)]
  | none => s.method.params.map .converted

/-- The object that the methods of an interface are called on. -/
def objectOf (i : Interface) : Term :=
  if i.handle then .slot i.name ownIndex else if i.fold then .chainEnd else .single i.name

/-- The calls of a path, one on the result of the other. -/
def follow (roles : Roles) (start : Term) (path : List Step) : Term :=
  path.foldl (fun receiver s => .call receiver s.method (passed roles s)) start

theorem follow_concat (roles : Roles) (start : Term) (path : List Step) (s : Step) :
    follow roles start (path ++ [s]) =
      .call (follow roles start path) s.method (passed roles s) := by
  simp only [follow, List.foldl_append, List.foldl_cons, List.foldl_nil]

theorem start_follow (roles : Roles) (start : Term) (path : List Step) :
    (follow roles start path).start = start.start := by
  induction path generalizing start with
  | nil => rfl
  | cons s path ih => exact ih (.call start s.method (passed roles s))

theorem arguments_follow (roles : Roles) (start : Term) (path : List Step) :
    (follow roles start path).arguments = start.arguments ++ path.flatMap (passed roles) := by
  induction path generalizing start with
  | nil => simp [follow]
  | cons s path ih =>
    have hrest := ih (.call start s.method (passed roles s))
    rw [follow] at hrest ⊢
    rw [List.foldl_cons, hrest, Term.arguments, List.flatMap_cons, List.append_assoc]

/-- An object that is no call has no arguments. -/
theorem arguments_objectOf (i : Interface) : (objectOf i).arguments = [] := by
  unfold objectOf
  split
  · rfl
  · split <;> rfl

/-- Makes the chain of a route. -/
def opening (roles : Roles) : (links : List Step) → List Statement
  | [] => []
  | s :: rest => [.bind (follow roles (objectOf s.owner) (s :: rest))]

/-- Takes all results of a call, reports absence and failure, and gives the value back. -/
def reportingCode (m : Method) (call : Term) : List Statement :=
  [.take (results m) call] ++ (if m.optional then [.reportPresence] else [])
    ++ (if m.throws then [.reportFailure] else [])
    ++ (if (TypeExpr.read m.returns).isVoid then [] else [.giveResult (TypeExpr.read m.returns)])

/-- What is done with a call, by the kind of its export. -/
def delivering (roles : Roles) (m : Method) (call : Term) : List Statement :=
  match ExportKind.ofMethod roles m with
  | .newHandle => [.store m.returns call, .lastIndex m.returns]
  | .closer | .fallible | .direct =>
    if m.fallible then reportingCode m call else [.give (TypeExpr.read m.returns) call]

theorem delivering_of_ne (h : ExportKind.ofMethod roles m ≠ .newHandle) (call : Term) :
    delivering roles m call =
      if m.fallible then reportingCode m call else [.give (TypeExpr.read m.returns) call] := by
  unfold delivering
  split
  · rename_i hkind
    exact absurd hkind h
  all_goals rfl

def clearing (roles : Roles) (s : Step) : List Statement :=
  match ExportKind.closed? roles s.method with
  | some p => [.clear p.type (closedIndex s.owner p)]
  | none => []

/-- The body of the export at the end of a route. -/
def codeOf (roles : Roles) (r : Route) : List Statement :=
  opening roles r.links
    ++ delivering roles r.last.method (follow roles (objectOf r.last.owner) [r.last])
    ++ clearing roles r.last

/-- The export at the end of a route. -/
def exportOf (roles : Roles) (r : Route) : Export where
  name := Header.exportName r.last.owner.name r.last.method.name
  params := (routeParams roles r).map Param.host
  result := hostResult (resultType? roles r.last.method)
  body := (codeOf roles r).map Statement.text

/-! ## The exports are written from the code -/

theorem arguments_eq_map {ps : List Variable} {arguments : List String}
    (h : List.Forall₂ (fun p a => dialect.argument p = .ok a) ps arguments) :
    arguments = ps.map fun p => (Argument.converted p).text := by
  induction h with
  | nil => rfl
  | cons hp _ ih =>
    have hconvert := mapError_eq_ok.mp hp
    simp only [ValueTable.convertText, bind_eq_ok, pure_eq_ok] at hconvert
    obtain ⟨t, ht, rfl⟩ := hconvert
    rw [List.map_cons, ← ih, Argument.text, TypeExpr.read_of_parse ht]

theorem passed_text {declared arguments : List String}
    (h : Passes dialect roles s.owner s.method declared arguments) :
    (passed roles s).map Argument.text = arguments := by
  unfold passed
  cases h with
  | closer hclosed hobject _ =>
    rw [hclosed, pure_eq_ok.mp hobject]
    rfl
  | each hnone _ harguments =>
    rw [hnone, arguments_eq_map harguments, List.map_map]
    rfl

theorem objectOf_text {i : Interface} {receiver : String} (h : dialect.owner i = .ok receiver) :
    (objectOf i).text = receiver := by
  unfold owner at h
  unfold objectOf
  split at h
  · rename_i hhandle
    rw [if_pos hhandle, pure_eq_ok.mp h]
    rfl
  · rename_i hother
    rw [if_neg hother]
    split at h
    · rename_i hfold
      rw [if_pos hfold, pure_eq_ok.mp h]
      rfl
    · rename_i hplain
      rw [if_neg hplain, pure_eq_ok.mp h]
      rfl

/-- The expression of a chain is the call that its path makes. -/
theorem follow_text {fold : String} {path : List Step} {link : Link}
    (h : Linked dialect roles fold path link) (other : Step) :
    (follow roles (objectOf (path.headD other).owner) path).text = link.expr := by
  induction h with
  | @fresh s declared arguments own receiver _ hpass _ howner =>
    have hcall := follow_concat roles (objectOf s.owner) [] s
    rw [List.nil_append] at hcall
    rw [List.headD_cons, hcall, Term.text, passed_text hpass, follow, List.foldl_nil,
      objectOf_text howner]
    rfl
  | @onward s path link declared arguments _ hlinked hpass ih =>
    obtain ⟨first, rest, rfl⟩ := List.exists_cons_of_ne_nil hlinked.ne_nil
    rw [List.headD_cons] at ih
    rw [List.cons_append, List.headD_cons, ← List.cons_append, follow_concat, Term.text,
      passed_text hpass, ih]
    rfl

theorem reportingCode_text {call : Term} {statements : List String}
    (h : dialect.reporting m call.text = .ok statements) :
    (reportingCode m call).map Statement.text = statements := by
  simp only [dialect, ofType, mapError_eq_ok, reporting, bind_eq_ok, pure_eq_ok] at h
  obtain ⟨t, ht, rfl⟩ := h
  rw [reportingCode, TypeExpr.read_of_parse ht, resultVariables_eq_map ht]
  simp only [List.map_append]
  congr 1
  · congr 1
    · congr 1
      split <;> rfl
    · split <;> rfl
  · split <;> rfl

theorem give_text {call : Term} {statements : List String}
    (h : dialect.returning m call.text = .ok statements) :
    [(Statement.give (TypeExpr.read m.returns) call).text] = statements := by
  simp only [dialect, ofType, mapError_eq_ok, ValueTable.convertText, bind_eq_ok, pure_eq_ok] at h
  obtain ⟨_, ⟨t, ht, rfl⟩, rfl⟩ := h
  rw [TypeExpr.read_of_parse ht]
  rfl

theorem delivering_text {call : Term} {statements : List String}
    (h : dialect.callStatements roles m call.text = .ok statements) :
    (delivering roles m call).map Statement.text = statements := by
  unfold callStatements at h
  unfold delivering
  cases hkind : ExportKind.ofMethod roles m with
  | newHandle =>
    rw [hkind] at h
    rw [pure_eq_ok.mp h]
    rfl
  | closer | fallible | direct =>
    simp only [hkind] at h ⊢
    split at h
    · rename_i hfallible
      rw [if_pos hfallible, reportingCode_text h]
    · rename_i hsilent
      rw [if_neg hsilent, List.map_singleton, give_text h]

theorem opening_text {fold : String} {path : List Step} {link : Link} {statement : String}
    (h : Linked dialect roles fold path link)
    (hbind : dialect.bindChain link.expr = .ok statement) :
    (opening roles path).map Statement.text = [statement] := by
  obtain ⟨first, rest, rfl⟩ := List.exists_cons_of_ne_nil h.ne_nil
  have htext : (follow roles (objectOf first.owner) (first :: rest)).text = link.expr :=
    follow_text h first
  have hstatement : statement = s!"folded := {link.expr}" := pure_eq_ok.mp hbind
  rw [hstatement, ← htext]
  rfl

theorem clearing_text {p : Variable} {object statement : String}
    (hclosed : ExportKind.closed? roles s.method = some p)
    (hobject : dialect.objectAt p.type (closedIndex s.owner p) = .ok object)
    (hforget : dialect.forget object = .ok statement) :
    (clearing roles s).map Statement.text = [statement] := by
  have hslot : object = (Term.slot p.type (closedIndex s.owner p)).text := pure_eq_ok.mp hobject
  have hstatement : statement = s!"{object} = nil" := pure_eq_ok.mp hforget
  rw [clearing, hclosed, hstatement, hslot]
  rfl

/-- The body of an export is the text of the code of its route. -/
theorem codeOf_text {r : Route} {e : Export} (h : r.Makes dialect roles e) :
    (codeOf roles r).map Statement.text = e.body := by
  obtain ⟨chains, p, hfit, rfl, hchain⟩ := h.parts
  have hopening : (opening roles r.links).map Statement.text = p.opening := by
    have hfits := hfit.opening
    split at hfits
    · rename_i link hlink
      rw [hlink] at hchain
      obtain ⟨statement, hbind, hopen⟩ := hfits
      rw [opening_text hchain.2 hbind, hopen]
    · rename_i hnone
      rw [hnone] at hchain
      rw [hchain.2, hfits]
      rfl
  have hcall : (follow roles (objectOf r.last.owner) [r.last]).text =
      p.call dialect r.last.method := by
    simp only [follow, List.foldl_cons, List.foldl_nil, Term.text, passed_text hfit.passes,
      objectOf_text hfit.receiver]
    rfl
  have hdelivering : (delivering roles r.last.method
      (follow roles (objectOf r.last.owner) [r.last])).map Statement.text = p.statements := by
    apply delivering_text
    rw [hcall]
    exact hfit.statements
  have hclearing : (clearing roles r.last).map Statement.text = p.closing := by
    have hfits := hfit.closing
    split at hfits
    · rename_i v hclosed
      obtain ⟨object, statement, hobject, hforget, hclosing⟩ := hfits
      rw [clearing_text hclosed hobject hforget, hclosing]
    · rename_i hclosed
      rw [clearing, hclosed, hfits]
      rfl
  rw [codeOf, List.map_append, List.map_append, hopening, hdelivering, hclearing]
  rfl

/-- The exports of the wrapper are those written from the routes of the description. -/
theorem exports_eq_map_exportOf {api : Api} {chapters : List Chapter}
    (h : dialect.chapters api = .ok chapters) :
    chapters.flatMap (·.exports) = (routes api).map (exportOf (Roles.ofApi api)) := by
  symm
  rw [← List.forall₂_eq_eq_eq, List.forall₂_map_left_iff]
  refine List.Forall₂.mp (fun r e hmakes hsignature => ?_) (exports_follow_routes h)
    (host_spells.exports h)
  obtain ⟨name, params, result, body⟩ := e
  obtain ⟨rfl, rfl, rfl⟩ := hsignature
  rw [exportOf, codeOf_text hmakes]
  rfl

theorem makes_exportOf {api : Api} {chapters : List Chapter}
    (h : dialect.chapters api = .ok chapters) {r : Route} (hr : r ∈ routes api) :
    r.Makes dialect (Roles.ofApi api) (exportOf (Roles.ofApi api) r) := by
  have hroutes := exports_follow_routes h
  rw [exports_eq_map_exportOf h, List.forall₂_map_right_iff, List.forall₂_same] at hroutes
  exact hroutes r hr

end Bindery.Host

import Bindery.Export.Assembly
import Bindery.Proofs.Outcome

/-!
# The parts of an export

A method that returns a fold adds a link to a chain; every other method becomes an export that is
put together from parts. Which parts there are depends on the models of the owner, on the kind of
the export and on the reports of the method. The two main statements say exactly when a
method can be exported and what comes of it: `exportMethod_link_iff` for links and
`exportMethod_terminal_iff` for exports.
-/
namespace Bindery

namespace ExportKind
variable {roles : Roles} {m : Method}

/-- A closer takes a single handle and returns nothing. -/
theorem closed?_eq_some_iff {p : Variable} :
    closed? roles m = some p ↔
      m.params = [p] ∧ roles.hasHandle p.type = true ∧ m.returns = "void" := by
  unfold closed?
  constructor
  · intro h
    split at h
    · rename_i q hparams
      split at h
      · rename_i hcloses
        obtain rfl := Option.some.inj h
        simpa [hparams] using hcloses
      · cases h
    · cases h
  · rintro ⟨hparams, hhandle, hvoid⟩
    simp [hparams, hhandle, hvoid]

theorem ofMethod_eq_closer_iff : ofMethod roles m = .closer ↔ (closed? roles m).isSome := by
  unfold ofMethod
  cases (closed? roles m).isSome <;> cases roles.hasHandle m.returns <;> cases m.fallible <;> simp

theorem ofMethod_eq_newHandle_iff :
    ofMethod roles m = .newHandle ↔ closed? roles m = none ∧ roles.hasHandle m.returns = true := by
  unfold ofMethod
  cases closed? roles m <;> cases roles.hasHandle m.returns <;> cases m.fallible <;> simp

theorem hasHandle_of_newHandle (h : ofMethod roles m = .newHandle) :
    roles.hasHandle m.returns = true :=
  (ofMethod_eq_newHandle_iff.mp h).2

theorem hasHandle_of_closed? {p : Variable} (h : closed? roles m = some p) :
    roles.hasHandle p.type = true :=
  (closed?_eq_some_iff.mp h).2.1

end ExportKind

namespace Dialect
open Export Outcome
variable {d : Dialect} {roles : Roles} {chains : Chains} {i : Interface} {m : Method}

/-- What the parameters of a method are declared as, and the arguments that they become. A closer
declares the index of the object that it closes and nothing else. -/
inductive Passes (d : Dialect) (roles : Roles) (i : Interface) (m : Method) :
    List String → List String → Prop
  | closer {p : Variable} {object param : String} :
      ExportKind.closed? roles m = some p →
      d.objectAt p.type (closedIndex i p) = .ok object →
      d.indexParam (closedIndex i p) = .ok param →
      Passes d roles i m [param] [object]
  | each {declared : List (List String)} {arguments : List String} :
      ExportKind.closed? roles m = none →
      List.Forall₂ (fun p ds => d.declare p = .ok ds) m.params declared →
      List.Forall₂ (fun p a => d.argument p = .ok a) m.params arguments →
      Passes d roles i m declared.flatten arguments

theorem Passes.declared_of_closer {declared arguments : List String} {v : Variable}
    (h : Passes d roles i m declared arguments) (hv : ExportKind.closed? roles m = some v) :
    ∃ param, d.indexParam (closedIndex i v) = .ok param ∧ declared = [param] := by
  cases h with
  | closer hp _ hparam =>
    obtain rfl := Option.some.inj (hv.symm.trans hp)
    exact ⟨_, hparam, rfl⟩
  | each hnone => cases hv.symm.trans hnone

theorem passParams_eq_ok_iff {ps : List Variable} {declarations arguments : List String} :
    d.passParams ps = .ok (declarations, arguments) ↔
      ∃ declared : List (List String), declarations = declared.flatten ∧
        List.Forall₂ (fun p ds => d.declare p = .ok ds) ps declared ∧
        List.Forall₂ (fun p a => d.argument p = .ok a) ps arguments := by
  induction ps generalizing declarations arguments with
  | nil =>
    simp only [passParams, pure_eq_ok, Prod.mk.injEq, List.forall₂_nil_left_iff]
    constructor
    · intro hok
      obtain ⟨rfl, rfl⟩ := hok
      exact ⟨[], rfl, rfl, rfl⟩
    · intro hok
      obtain ⟨_, rfl, rfl, rfl⟩ := hok
      exact ⟨rfl, rfl⟩
  | cons p ps ih =>
    simp only [passParams, bind_eq_ok, pure_eq_ok, Prod.exists, Prod.mk.injEq, ih,
      List.forall₂_cons_left_iff]
    constructor
    · intro hok
      obtain ⟨ds, hds, a, ha, _, as, ⟨declared, rfl, hd, has⟩, rfl, rfl⟩ := hok
      exact ⟨ds :: declared, rfl, ⟨ds, declared, hds, hd, rfl⟩, a, as, ha, has, rfl⟩
    · intro hok
      obtain ⟨_, rfl, ⟨ds, declared, hds, hd, rfl⟩, a, as, ha, has, rfl⟩ := hok
      exact ⟨ds, hds, a, ha, declared.flatten, as, ⟨declared, rfl, hd, has⟩, rfl, rfl⟩

theorem inputs_eq_ok_iff {declarations arguments : List String} :
    d.inputs roles i m = .ok (declarations, arguments) ↔
      Passes d roles i m declarations arguments := by
  unfold inputs
  split
  · rename_i p hp
    simp only [bind_eq_ok, pure_eq_ok, Prod.mk.injEq]
    constructor
    · intro hok
      obtain ⟨object, ho, param, hx, rfl, rfl⟩ := hok
      exact .closer hp ho hx
    · intro hpass
      cases hpass with
      | closer hq ho hx =>
        obtain rfl := Option.some.inj (hp.symm.trans hq)
        exact ⟨_, ho, _, hx, rfl, rfl⟩
      | each hq => cases hp.symm.trans hq
  · rename_i hn
    rw [passParams_eq_ok_iff]
    constructor
    · intro hok
      obtain ⟨declared, rfl, hd, ha⟩ := hok
      exact .each hn hd ha
    · intro hpass
      cases hpass with
      | closer hq => cases hn.symm.trans hq
      | each _ hd ha => exact ⟨_, rfl, hd, ha⟩

theorem ownerParams_eq_ok_iff {own : List String} :
    d.ownerParams i = .ok own ↔
      if i.handle then ∃ param, d.indexParam ownIndex = .ok param ∧ own = [param]
      else own = [] := by
  unfold ownerParams
  split <;> simp

theorem chainOf_eq_ok_iff {chain : Option Link} :
    chainOf chains i = .ok chain ↔
      if i.fold then ∃ link, chains.get? i.name = some link ∧ chain = some link
      else chain = none := by
  unfold chainOf
  split
  · cases chains.get? i.name <;> simp [eq_comm]
  · simp [eq_comm]

theorem opening_eq_ok_iff {chain : Option Link} {statements : List String} :
    d.opening chain = .ok statements ↔
      match chain with
      | some link => ∃ statement, d.bindChain link.expr = .ok statement ∧ statements = [statement]
      | none => statements = [] := by
  unfold opening
  split <;> simp

theorem closing_eq_ok_iff {statements : List String} :
    d.closing roles i m = .ok statements ↔
      match ExportKind.closed? roles m with
      | some p => ∃ object statement, d.objectAt p.type (closedIndex i p) = .ok object ∧
          d.forget object = .ok statement ∧ statements = [statement]
      | none => statements = [] := by
  unfold closing
  cases ExportKind.closed? roles m <;> simp [bind_eq_ok]

/-- The statements that call a method, by the kind of its export. A closer that may fail reports
like any other method. -/
def callStatements (d : Dialect) (roles : Roles) (m : Method) (call : String) :
    Except Error (List String) :=
  match ExportKind.ofMethod roles m with
  | .newHandle => d.storing m.returns call
  | .closer | .fallible | .direct =>
    if m.fallible then d.reporting m call else d.returning m call

theorem delivery_eq_ok_iff {call : String} {reports statements : List String} :
    d.delivery (ExportKind.ofMethod roles m) m call = .ok (reports, statements) ↔
      reports = (if m.fallible ∧ ExportKind.ofMethod roles m ≠ .newHandle then d.reports m
        else []) ∧ d.callStatements roles m call = .ok statements := by
  unfold delivery callStatements
  cases ExportKind.ofMethod roles m <;> cases m.fallible <;>
    simp [and_comm]

/-- What the export of a method is put together from. -/
structure Parts where
  chain : Option Link
  own : List String
  declared : List String
  arguments : List String
  receiver : String
  reports : List String
  opening : List String
  statements : List String
  closing : List String
  result : String

namespace Parts

def call (p : Parts) (d : Dialect) (m : Method) : String :=
  d.call p.receiver (d.methodName m.name) p.arguments

/-- What the chain needs, the index of the owner, what the method declares, and its reports. -/
def params (p : Parts) : List String :=
  (p.chain.map (·.params)).getD [] ++ p.own ++ p.declared ++ p.reports

/-- The calls of the chain, the call of the method, and what is forgotten after it. -/
def body (p : Parts) : List String :=
  p.opening ++ p.statements ++ p.closing

def made (p : Parts) (d : Dialect) (i : Interface) (m : Method) : Export where
  name := d.exportName i.name m.name
  params := p.params
  result := p.result
  body := p.body

/-- Parts fit a method of an interface when each is what the dialect gives for it, under the chains
in force. -/
structure Fit (p : Parts) (d : Dialect) (roles : Roles) (chains : Chains) (i : Interface)
    (m : Method) : Prop where
  chain : if i.fold then ∃ link, chains.get? i.name = some link ∧ p.chain = some link
    else p.chain = none
  own : if i.handle then ∃ param, d.indexParam ownIndex = .ok param ∧ p.own = [param]
    else p.own = []
  passes : Passes d roles i m p.declared p.arguments
  receiver : d.owner i = .ok p.receiver
  reports : p.reports =
    if m.fallible ∧ ExportKind.ofMethod roles m ≠ .newHandle then d.reports m else []
  opening : match p.chain with
    | some link => ∃ statement, d.bindChain link.expr = .ok statement ∧ p.opening = [statement]
    | none => p.opening = []
  statements : d.callStatements roles m (p.call d m) = .ok p.statements
  closing : match ExportKind.closed? roles m with
    | some v => ∃ object statement, d.objectAt v.type (closedIndex i v) = .ok object ∧
        d.forget object = .ok statement ∧ p.closing = [statement]
    | none => p.closing = []
  result : d.result m (ExportKind.ofMethod roles m == .newHandle) = .ok p.result

end Parts

/-- A method that returns no fold can be exported exactly when there are parts that fit, and then
it makes their export and leaves the chains alone. -/
theorem exportMethod_terminal_iff (h : roles.hasFold m.returns = false) {c : Contribution} :
    d.exportMethod roles chains i m = .ok c ↔
      ∃ p : Parts, p.Fit d roles chains i m ∧ c = ⟨some (p.made d i m), chains⟩ := by
  simp only [exportMethod, h, bind_eq_ok, pure_eq_ok, Prod.exists, Bool.false_eq_true, if_false]
  constructor
  · intro hok
    obtain ⟨declared, arguments, hi, own, ho, chain, hc, receiver, hr, opening, hb, reports,
      statements, hd, closing, ha, result, hres, rfl⟩ := hok
    rw [delivery_eq_ok_iff] at hd
    exact ⟨⟨chain, own, declared, arguments, receiver, reports, opening, statements, closing,
      result⟩, ⟨chainOf_eq_ok_iff.mp hc, ownerParams_eq_ok_iff.mp ho, inputs_eq_ok_iff.mp hi, hr,
      hd.1, opening_eq_ok_iff.mp hb, hd.2, closing_eq_ok_iff.mp ha, hres⟩, rfl⟩
  · intro hok
    obtain ⟨p, hp, rfl⟩ := hok
    exact ⟨p.declared, p.arguments, inputs_eq_ok_iff.mpr hp.passes, p.own,
      ownerParams_eq_ok_iff.mpr hp.own, p.chain, chainOf_eq_ok_iff.mpr hp.chain, p.receiver,
      hp.receiver, p.opening, opening_eq_ok_iff.mpr hp.opening, p.reports, p.statements,
      delivery_eq_ok_iff.mpr ⟨hp.reports, hp.statements⟩, p.closing,
      closing_eq_ok_iff.mpr hp.closing, p.result, hp.result, rfl⟩

/-- The chain that a link is added to: the chain of the owner if that is a fold, and else a new
one that starts at the object of the owner. -/
inductive Head (d : Dialect) (chains : Chains) (i : Interface) (own : List String) : Link → Prop
  | fresh {receiver : String} : i.fold = false → d.owner i = .ok receiver →
      Head d chains i own ⟨own, receiver⟩
  | onward {link : Link} : i.fold = true → chains.get? i.name = some link →
      Head d chains i own link

def extend (d : Dialect) (head : Link) (m : Method) (declared arguments : List String) : Link :=
  ⟨head.params ++ declared, d.call head.expr (d.methodName m.name) arguments⟩

theorem chainHead_iff {own : List String} {head : Link} :
    (∃ chain, chainOf chains i = .ok chain ∧ d.chainHead i chain own = .ok head) ↔
      Head d chains i own head := by
  simp only [chainOf_eq_ok_iff]
  constructor
  · intro hok
    obtain ⟨chain, hc, hh⟩ := hok
    cases hf : i.fold with
    | false =>
      simp only [hf, Bool.false_eq_true, if_false] at hc
      subst hc
      simp only [chainHead, bind_eq_ok, pure_eq_ok] at hh
      obtain ⟨receiver, hr, rfl⟩ := hh
      exact .fresh hf hr
    | true =>
      simp only [hf, if_true] at hc
      obtain ⟨link, hl, rfl⟩ := hc
      simp only [chainHead, pure_eq_ok] at hh
      exact hh ▸ .onward hf hl
  · intro hhead
    cases hhead with
    | fresh hf hr => exact ⟨none, by simp [hf], by simp [chainHead, hr]⟩
    | onward hf hl => exact ⟨some head, by simp [hf, hl], by simp [chainHead]⟩

/-- A method that returns a fold can be exported exactly when its parameters can be passed and its
chain has a head, and then it makes no export and only replaces the chain of that fold. -/
theorem exportMethod_link_iff (h : roles.hasFold m.returns = true) {c : Contribution} :
    d.exportMethod roles chains i m = .ok c ↔
      ∃ declared arguments own head, Passes d roles i m declared arguments ∧
        d.ownerParams i = .ok own ∧ Head d chains i own head ∧
        c = ⟨none, chains.insert m.returns (d.extend head m declared arguments)⟩ := by
  simp only [exportMethod, h, bind_eq_ok, pure_eq_ok, Prod.exists, if_true, ← chainHead_iff,
    ← inputs_eq_ok_iff, extend]
  constructor
  · intro hok
    obtain ⟨declared, arguments, hi, own, ho, chain, hc, head, hh, rfl⟩ := hok
    exact ⟨declared, arguments, own, head, hi, ho, ⟨chain, hc, hh⟩, rfl⟩
  · intro hok
    obtain ⟨declared, arguments, own, head, hi, ho, ⟨chain, hc, hh⟩, rfl⟩ := hok
    exact ⟨declared, arguments, hi, own, ho, chain, hc, head, hh, rfl⟩

end Dialect
end Bindery

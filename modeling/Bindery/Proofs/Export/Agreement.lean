import Bindery.Proofs.Export.Accounting
import Bindery.Proofs.Export.Seeding

/-!
# Two dialects in step

When two dialects declare the same things side by side, so do the exports that they make of one
description: exports of equal names, whose declarations and results correspond place by place. The
chains of the two sides differ in their texts, but a fold has a chain on one side when it has
one on the other, and the two need corresponding parameters. That is what a step preserves, and
the exports follow from it along the run.
-/
namespace Bindery.Dialect
open Export Outcome

/-- Three lists of one length that are related place by place. -/
inductive InStep {α β γ : Type} (rel : α → β → γ → Prop) : List α → List β → List γ → Prop
  | nil : InStep rel [] [] []
  | cons {a : α} {b : β} {c : γ} {as : List α} {bs : List β} {cs : List γ} :
      rel a b c → InStep rel as bs cs → InStep rel (a :: as) (b :: bs) (c :: cs)

theorem InStep.append {α β γ : Type} {rel : α → β → γ → Prop} {as as' : List α} {bs bs' : List β}
    {cs cs' : List γ} (h : InStep rel as bs cs) (h' : InStep rel as' bs' cs') :
    InStep rel (as ++ as') (bs ++ bs') (cs ++ cs') := by
  induction h with
  | nil => exact h'
  | cons hr _ ih => exact .cons hr ih

/-- Two dialects name exports alike, declare what corresponds under `same`, and give results that
correspond under `gives`, which knows the method and whether its result is a new handle. -/
structure Alike (same : String → String → Prop) (gives : Method → Bool → String → String → Prop)
    (d d' : Dialect) : Prop where
  exportName : d.exportName = d'.exportName
  indexParam {index param param' : String} :
    d.indexParam index = .ok param → d'.indexParam index = .ok param' → same param param'
  declare {v : Variable} {ds ds' : List String} :
    d.declare v = .ok ds → d'.declare v = .ok ds' → List.Forall₂ same ds ds'
  reports (m : Method) : List.Forall₂ same (d.reports m) (d'.reports m)
  result {m : Method} {newHandle : Bool} {result result' : String} :
    d.result m newHandle = .ok result → d'.result m newHandle = .ok result' →
      gives m newHandle result result'

/-- Two exports of one method have one name, and parameters and results that correspond. -/
structure SamePrototype (same : String → String → Prop)
    (gives : Method → Bool → String → String → Prop) (roles : Roles) (m : Method)
    (e e' : Export) : Prop where
  name : e.name = e'.name
  params : List.Forall₂ same e.params e'.params
  result : gives m (ExportKind.ofMethod roles m == .newHandle) e.result e'.result

/-- Two chapters of one interface hold the exports of its methods that return no fold. -/
structure SameChapter (same : String → String → Prop)
    (gives : Method → Bool → String → String → Prop) (roles : Roles) (i : Interface)
    (chapter chapter' : Chapter) : Prop where
  name : chapter.name = i.name ∧ chapter'.name = i.name
  exports : InStep (SamePrototype same gives roles) (terminal roles i.methods)
    chapter.exports chapter'.exports

/-- Chains that lead to the same folds and need corresponding parameters. -/
def SameChains (same : String → String → Prop) (chains chains' : Chains) : Prop :=
  ∀ fold, Option.Rel (fun link link' => List.Forall₂ same link.params link'.params)
    (chains.get? fold) (chains'.get? fold)

variable {same : String → String → Prop} {gives : Method → Bool → String → String → Prop}
  {d d' : Dialect} {roles : Roles} {chains chains' last last' : Chains} {i : Interface} {m : Method}

namespace SameChains

theorem empty : SameChains same {} {} := by
  intro fold
  exact .none

theorem insert (h : SameChains same chains chains') (name : String) {link link' : Link}
    (hl : List.Forall₂ same link.params link'.params) :
    SameChains same (chains.insert name link) (chains'.insert name link') := by
  intro fold
  by_cases hn : fold = name
  · subst hn
    rw [Chains.get?_insert_self, Chains.get?_insert_self]
    exact .some hl
  · rw [Chains.get?_insert_of_ne hn, Chains.get?_insert_of_ne hn]
    exact h fold

theorem params (h : SameChains same chains chains') {fold : String} {link link' : Link}
    (hl : chains.get? fold = some link) (hl' : chains'.get? fold = some link') :
    List.Forall₂ same link.params link'.params := by
  have hrel := h fold
  rw [hl, hl'] at hrel
  cases hrel with
  | some hp => exact hp

theorem head (h : SameChains same chains chains') {own own' : List String} {link link' : Link}
    (ho : List.Forall₂ same own own') (hl : Head d chains i own link)
    (hl' : Head d' chains' i own' link') : List.Forall₂ same link.params link'.params := by
  cases hl with
  | fresh hf =>
    cases hl' with
    | fresh => exact ho
    | onward hf' => cases hf.symm.trans hf'
  | onward hf hg =>
    cases hl' with
    | fresh hf' => cases hf.symm.trans hf'
    | onward _ hg' => exact h.params hg hg'

end SameChains

namespace Alike
variable (h : Alike same gives d d')
include h

theorem declared {ps : List Variable} {declared declared' : List (List String)}
    (hd : List.Forall₂ (fun p ds => d.declare p = .ok ds) ps declared)
    (hd' : List.Forall₂ (fun p ds => d'.declare p = .ok ds) ps declared') :
    List.Forall₂ same declared.flatten declared'.flatten := by
  induction hd generalizing declared' with
  | nil =>
    cases hd'
    exact .nil
  | cons hp _ ih =>
    cases hd' with
    | cons hp' hps' => exact List.rel_append (h.declare hp hp') (ih hps')

theorem passes {ds ds' arguments arguments' : List String} (hp : Passes d roles i m ds arguments)
    (hp' : Passes d' roles i m ds' arguments') : List.Forall₂ same ds ds' := by
  -- Whether the method is a closer is told by the roles, so both sides are in the same case.
  cases hp with
  | closer hc _ hx =>
    cases hp' with
    | closer hc' _ hx' =>
      obtain rfl := Option.some.inj (hc.symm.trans hc')
      exact .cons (h.indexParam hx hx') .nil
    | each hn' => cases hc.symm.trans hn'
  | each hn hd =>
    cases hp' with
    | closer hc' => cases hn.symm.trans hc'
    | each _ hd' => exact h.declared hd hd'

theorem own {own own' : List String} (ho : d.ownerParams i = .ok own)
    (ho' : d'.ownerParams i = .ok own') : List.Forall₂ same own own' := by
  rw [ownerParams_eq_ok_iff] at ho ho'
  cases hh : i.handle with
  | false =>
    simp only [hh, Bool.false_eq_true, if_false] at ho ho'
    rw [ho, ho']
    exact .nil
  | true =>
    simp only [hh, if_true] at ho ho'
    obtain ⟨param, hx, rfl⟩ := ho
    obtain ⟨param', hx', rfl⟩ := ho'
    exact .cons (h.indexParam hx hx') .nil

theorem params (hs : SameChains same chains chains') {p p' : Parts}
    (hp : p.Fit d roles chains i m) (hp' : p'.Fit d' roles chains' i m) :
    List.Forall₂ same p.params p'.params := by
  have hown := h.own (ownerParams_eq_ok_iff.mpr hp.own) (ownerParams_eq_ok_iff.mpr hp'.own)
  have hdeclared := h.passes hp.passes hp'.passes
  have hreports : List.Forall₂ same p.reports p'.reports := by
    rw [hp.reports, hp'.reports]
    split
    · exact h.reports m
    · exact .nil
  have hchain : List.Forall₂ same ((p.chain.map (·.params)).getD [])
      ((p'.chain.map (·.params)).getD []) := by
    have hc := hp.chain
    have hc' := hp'.chain
    cases hf : i.fold with
    | false =>
      simp only [hf, Bool.false_eq_true, if_false] at hc hc'
      rw [hc, hc']
      exact .nil
    | true =>
      simp only [hf, if_true] at hc hc'
      obtain ⟨link, hl, hpl⟩ := hc
      obtain ⟨link', hl', hpl'⟩ := hc'
      rw [hpl, hpl']
      exact hs.params hl hl'
  exact List.rel_append (List.rel_append (List.rel_append hchain hown) hdeclared) hreports

/-- One step keeps the chains in step and makes corresponding exports, if any. -/
theorem exportMethod (hs : SameChains same chains chains') {c c' : Contribution}
    (hc : d.exportMethod roles chains i m = .ok c)
    (hc' : d'.exportMethod roles chains' i m = .ok c') :
    SameChains same c.chains c'.chains ∧
      InStep (SamePrototype same gives roles) (terminal roles [m])
        c.made.toList c'.made.toList := by
  cases hf : roles.hasFold m.returns with
  | false =>
    obtain ⟨p, hp, rfl⟩ := (exportMethod_terminal_iff hf).mp hc
    obtain ⟨p', hp', rfl⟩ := (exportMethod_terminal_iff hf).mp hc'
    have hsame : SamePrototype same gives roles m (p.made d i m) (p'.made d' i m) :=
      ⟨by rw [Parts.made, Parts.made, h.exportName], h.params hs hp hp',
        h.result hp.result hp'.result⟩
    refine ⟨hs, ?_⟩
    simp only [terminal, hf, List.filter_cons, Bool.not_false, if_true, List.filter_nil]
    exact .cons hsame .nil
  | true =>
    obtain ⟨ds, as, own, link, hp, ho, hl, rfl⟩ := (exportMethod_link_iff hf).mp hc
    obtain ⟨ds', as', own', link', hp', ho', hl', rfl⟩ := (exportMethod_link_iff hf).mp hc'
    refine ⟨hs.insert m.returns ?_, ?_⟩
    · exact List.rel_append (hs.head (h.own ho ho') hl hl') (h.passes hp hp')
    · simp only [terminal, hf, List.filter_cons, Bool.not_true, Bool.false_eq_true, if_false,
        List.filter_nil]
      exact .nil

theorem exportMethods {ms : List Method} (hs : SameChains same chains chains')
    {exports exports' : List Export}
    (he : d.exportMethods roles i chains ms = .ok (exports, last))
    (he' : d'.exportMethods roles i chains' ms = .ok (exports', last')) :
    SameChains same last last' ∧
      InStep (SamePrototype same gives roles) (terminal roles ms) exports exports' := by
  induction ms generalizing chains chains' exports exports' with
  | nil =>
    obtain ⟨rfl, rfl⟩ := Prod.mk.inj (pure_eq_ok.mp he)
    obtain ⟨rfl, rfl⟩ := Prod.mk.inj (pure_eq_ok.mp he')
    exact ⟨hs, .nil⟩
  | cons m ms ih =>
    obtain ⟨c, rest, hc, hr, rfl⟩ := exportMethods_cons_ok.mp he
    obtain ⟨c', rest', hc', hr', rfl⟩ := exportMethods_cons_ok.mp he'
    obtain ⟨hnext, hmade⟩ := h.exportMethod hs hc hc'
    obtain ⟨hlast, hrest⟩ := ih hnext hr hr'
    rw [terminal_cons]
    exact ⟨hlast, hmade.append hrest⟩

theorem exportInterfaces {is : List Interface} (hs : SameChains same chains chains')
    {chapters chapters' : List Chapter}
    (he : d.exportInterfaces roles chains is = .ok chapters)
    (he' : d'.exportInterfaces roles chains' is = .ok chapters') :
    InStep (SameChapter same gives roles) is chapters chapters' := by
  induction is generalizing chains chains' chapters chapters' with
  | nil =>
    obtain rfl := pure_eq_ok.mp he
    obtain rfl := pure_eq_ok.mp he'
    exact .nil
  | cons i is ih =>
    obtain ⟨exports, middle, rest, hm, hr, rfl⟩ := exportInterfaces_cons_ok.mp he
    obtain ⟨exports', middle', rest', hm', hr', rfl⟩ := exportInterfaces_cons_ok.mp he'
    obtain ⟨hnext, hexports⟩ := h.exportMethods hs hm hm'
    exact .cons ⟨⟨rfl, rfl⟩, hexports⟩ (ih hnext hr hr')

theorem chapters {api : Api} {chapters chapters' : List Chapter}
    (hc : d.chapters api = .ok chapters) (hc' : d'.chapters api = .ok chapters') :
    InStep (SameChapter same gives (Roles.ofApi api)) api.interfaces chapters chapters' :=
  h.exportInterfaces .empty (chapters_eq_ok_iff.mp hc).2 (chapters_eq_ok_iff.mp hc').2

end Alike

/-- Dialects with all capabilities fail on the same descriptions, with the same failure. -/
theorem Complete.chapters_error_iff (hd : d.Complete) (hd' : d'.Complete) {api : Api} {e : Error} :
    d.chapters api = .error e ↔ d'.chapters api = .error e :=
  hd.chapters_eq_error_iff.trans hd'.chapters_eq_error_iff.symm

end Bindery.Dialect

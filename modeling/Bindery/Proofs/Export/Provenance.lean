import Bindery.Api.Samples
import Bindery.Host.Dialect
import Bindery.Proofs.Export.Run
import Mathlib.Data.List.Chain

/-!
# Where chains come from

A chain that is present at the end of a run was built by a path of methods of that run. The path
starts at a method whose owner is no fold. Every later method belongs to the fold that the one
before it returns, and that one is the last before it to return the fold, so no link of another
path comes between. The parameters and the calls of the chain are those of the methods on the path,
in order. The main statement is `chain_provenance`.
-/
namespace Bindery.Dialect
open Export Outcome
variable {d : Dialect} {roles : Roles} {chains : Chains} {steps : List Step} {s : Step}

/-- Of the steps before the bound, the one at the position is the last that returns the type. -/
structure LastReturn (steps : List Step) (type : String) (bound position : Nat) : Prop where
  before : position < bound
  returns : ∃ s, steps[position]? = some s ∧ s.method.returns = type
  last : ∀ k s, position < k → k < bound → steps[k]? = some s → s.method.returns ≠ type

theorem LastReturn.append {type : String} {bound position : Nat} (more : List Step)
    (h : LastReturn steps type bound position) (hb : bound ≤ steps.length) :
    LastReturn (steps ++ more) type bound position := by
  obtain ⟨s, hs, hr⟩ := h.returns
  refine ⟨h.before, ⟨s, ?_, hr⟩, ?_⟩
  · rw [List.getElem?_append_left (by have := h.before; omega)]
    exact hs
  · intro k t hk hkb ht
    rw [List.getElem?_append_left (by omega)] at ht
    exact h.last k t hk hkb ht

theorem LastReturn.concat_of_ne {type : String} {position : Nat}
    (h : LastReturn steps type steps.length position) (hs : s.method.returns ≠ type) :
    LastReturn (steps ++ [s]) type (steps ++ [s]).length position := by
  have hlen : (steps ++ [s]).length = steps.length + 1 := by simp
  have hold := h.append [s] (Nat.le_refl _)
  refine ⟨by have := h.before; omega, hold.returns, ?_⟩
  intro k t hk hkb ht
  rcases Nat.lt_or_ge k steps.length with hlt | hge
  · exact hold.last k t hk hlt ht
  · obtain rfl : k = steps.length := by omega
    rw [List.getElem?_concat_length, Option.some.injEq] at ht
    exact ht ▸ hs

theorem LastReturn.concat_self (steps : List Step) (s : Step) :
    LastReturn (steps ++ [s]) s.method.returns (steps ++ [s]).length steps.length := by
  have hlen : (steps ++ [s]).length = steps.length + 1 := by simp
  refine ⟨by omega, ⟨s, List.getElem?_concat_length, rfl⟩, ?_⟩
  intro k t hk hkb _
  omega

/-- A method that a chain passes through: where it stands in the run, and what its parameters are
declared as and become. -/
structure Stop where
  position : Nat
  step : Step
  declared : List String
  arguments : List String

/-- The next stop belongs to the fold that this one returns, and this one is the last before it to
return that fold. -/
structure LeadsTo (steps : List Step) (u v : Stop) : Prop where
  fold : v.step.owner.fold = true
  name : v.step.owner.name = u.step.method.returns
  last : LastReturn steps u.step.method.returns v.position u.position

/-- The calls of the stops, each on the result of the one before it. -/
def calls (d : Dialect) (receiver : String) (path : List Stop) : String :=
  path.foldl (fun expr v => d.call expr (d.methodName v.step.method.name) v.arguments) receiver

/-- A path of stops that explains the chain of a fold at the end of a run. -/
structure Explains (d : Dialect) (roles : Roles) (steps : List Step) (fold : String) (link : Link)
    (path : List Stop) : Prop where
  visits : ∀ v ∈ path, steps[v.position]? = some v.step ∧
    d.inputs roles v.step.owner v.step.method = .ok (v.declared, v.arguments)
  increasing : path.Pairwise fun u v => u.position < v.position
  leads : path.IsChain (LeadsTo steps)
  start : ∃ first own receiver, path.head? = some first ∧ first.step.owner.fold = false ∧
    (if first.step.owner.handle then ∃ param, d.indexParam ownIndex = .ok param ∧ own = [param]
      else own = []) ∧
    d.owner first.step.owner = .ok receiver ∧
    link.params = own ++ path.flatMap (·.declared) ∧ link.expr = d.calls receiver path
  finish : ∃ final, path.getLast? = some final ∧
    LastReturn steps fold steps.length final.position

namespace Explains
variable {fold : String} {link : Link} {path : List Stop}

theorem position_lt (h : Explains d roles steps fold link path) {v : Stop} (hv : v ∈ path) :
    v.position < steps.length :=
  (List.getElem?_eq_some_iff.mp (h.visits v hv).1).1

theorem visits_concat (h : Explains d roles steps fold link path) (s : Step) :
    ∀ v ∈ path, (steps ++ [s])[v.position]? = some v.step ∧
      d.inputs roles v.step.owner v.step.method = .ok (v.declared, v.arguments) := by
  intro v hv
  rw [List.getElem?_append_left (h.position_lt hv)]
  exact h.visits v hv

theorem leads_concat (h : Explains d roles steps fold link path) (s : Step) :
    path.IsChain (LeadsTo (steps ++ [s])) :=
  h.leads.imp_of_mem_imp fun _ _ _ hv huv =>
    ⟨huv.fold, huv.name, huv.last.append [s] (h.position_lt hv).le⟩

/-- A step that does not return the fold leaves the path as it is. -/
theorem concat_of_ne (h : Explains d roles steps fold link path) (hs : s.method.returns ≠ fold) :
    Explains d roles (steps ++ [s]) fold link path := by
  obtain ⟨final, hf, hl⟩ := h.finish
  exact ⟨h.visits_concat s, h.increasing, h.leads_concat s, h.start, final, hf,
    hl.concat_of_ne hs⟩

/-- The method at the end of the path returns the fold. -/
theorem final_returns (h : Explains d roles steps fold link path) {final : Stop}
    (hf : path.getLast? = some final) :
    final.step.method.returns = fold ∧ LastReturn steps fold steps.length final.position := by
  obtain ⟨v, hv, hl⟩ := h.finish
  obtain rfl : v = final := Option.some.inj (hv.symm.trans hf)
  obtain ⟨t, ht, hr⟩ := hl.returns
  have hstep := (h.visits v (List.mem_of_getLast? hf)).1
  obtain rfl : t = v.step := Option.some.inj (ht.symm.trans hstep)
  exact ⟨hr, hl⟩

/-- A path of one stop, at a method whose owner is no fold. -/
theorem fresh {declared arguments own : List String} {receiver : String}
    (hf : s.owner.fold = false) (hi : d.inputs roles s.owner s.method = .ok (declared, arguments))
    (ho : d.ownerParams s.owner = .ok own) (hr : d.owner s.owner = .ok receiver) :
    Explains d roles (steps ++ [s]) s.method.returns
      (d.extend ⟨own, receiver⟩ s.method declared arguments)
      [⟨steps.length, s, declared, arguments⟩] where
  visits := by
    intro v hv
    obtain rfl := List.mem_singleton.mp hv
    exact ⟨List.getElem?_concat_length, hi⟩
  increasing := List.pairwise_singleton ..
  leads := List.isChain_singleton _
  start := ⟨_, own, receiver, rfl, hf, ownerParams_eq_ok_iff.mp ho, hr, by simp [extend], rfl⟩
  finish := ⟨_, rfl, LastReturn.concat_self steps s⟩

/-- A path to a fold goes on at a method of that fold. -/
theorem onward {declared arguments : List String}
    (h : Explains d roles steps s.owner.name link path) (hf : s.owner.fold = true)
    (hi : d.inputs roles s.owner s.method = .ok (declared, arguments)) :
    Explains d roles (steps ++ [s]) s.method.returns (d.extend link s.method declared arguments)
      (path ++ [⟨steps.length, s, declared, arguments⟩]) where
  visits := by
    intro v hv
    rcases List.mem_append.mp hv with hv | hv
    · exact h.visits_concat s v hv
    · obtain rfl := List.mem_singleton.mp hv
      exact ⟨List.getElem?_concat_length, hi⟩
  increasing := by
    rw [List.pairwise_append]
    refine ⟨h.increasing, List.pairwise_singleton .., ?_⟩
    intro u hu v hv
    obtain rfl := List.mem_singleton.mp hv
    exact h.position_lt hu
  leads := by
    apply (h.leads_concat s).append (List.isChain_singleton _)
    intro u hu v hv
    obtain rfl := Option.some.inj hv
    obtain ⟨hr, hl⟩ := h.final_returns hu
    exact ⟨hf, hr.symm, hr ▸ hl.append [s] (Nat.le_refl _)⟩
  start := by
    obtain ⟨first, own, receiver, hh, hff, ho, hr, hparams, hexpr⟩ := h.start
    refine ⟨first, own, receiver, by simp [hh], hff, ho, hr, ?_, ?_⟩
    · simp [extend, hparams]
    · simp [extend, hexpr, calls]
  finish := ⟨_, List.getLast?_concat, LastReturn.concat_self steps s⟩

end Explains

/-- Every chain has a path that explains it. -/
def Explained (d : Dialect) (roles : Roles) (steps : List Step) (chains : Chains) : Prop :=
  ∀ fold link, chains.get? fold = some link → ∃ path, Explains d roles steps fold link path

theorem Explained.step {c : Contribution} (h : Explained d roles steps chains)
    (hfolds : ∀ fold, (chains.get? fold).isSome → roles.hasFold fold = true)
    (hc : d.exportMethod roles chains s.owner s.method = .ok c) :
    Explained d roles (steps ++ [s]) c.chains := by
  intro fold link hl
  by_cases hs : roles.hasFold s.method.returns = true ∧ s.method.returns = fold
  · obtain ⟨hf, rfl⟩ := hs
    obtain ⟨declared, arguments, own, head, hp, ho, hh, rfl⟩ := (exportMethod_link_iff hf).mp hc
    rw [Chains.get?_insert_self] at hl
    obtain rfl := Option.some.inj hl
    have hi := inputs_eq_ok_iff.mpr hp
    cases hh with
    | fresh hn hr => exact ⟨_, .fresh hn hi ho hr⟩
    | onward hy hg =>
      obtain ⟨path, hpath⟩ := h _ _ hg
      exact ⟨_, hpath.onward hy hi⟩
  · have hne : roles.hasFold s.method.returns = true → fold ≠ s.method.returns := by
      intro hf he
      exact hs ⟨hf, he.symm⟩
    rw [get?_exportMethod hc hne] at hl
    obtain ⟨path, hpath⟩ := h fold link hl
    refine ⟨path, hpath.concat_of_ne ?_⟩
    intro he
    exact hs ⟨he ▸ hfolds fold (Option.isSome_of_eq_some hl), he⟩

theorem explained_chainsAfter (h : d.chainsAfter roles {} steps = .ok chains) :
    Explained d roles steps chains := by
  -- Induction on the run from its end: the last step meets the chains that the others leave.
  induction steps using List.reverseRecOn generalizing chains with
  | nil =>
    obtain rfl := pure_eq_ok.mp h
    intro fold link hl
    cases hl
  | append_singleton steps s ih =>
    obtain ⟨middle, c, hm, hc, rfl⟩ := chainsAfter_concat_ok.mp h
    exact (ih hm).step (fun fold hf => ((isSome_get?_chainsAfter_empty hm fold).mp hf).1) hc

/-- After any run from no chains, every chain is explained by a path of methods of the run, and the
folds that have a chain are those that some method of the run returns. -/
theorem chain_provenance (h : d.chainsAfter roles {} steps = .ok chains) :
    (∀ fold link, chains.get? fold = some link →
      ∃ path, Explains d roles steps fold link path) ∧
    ∀ fold, (chains.get? fold).isSome ↔
      roles.hasFold fold = true ∧ ∃ s ∈ steps, s.method.returns = fold :=
  ⟨explained_chainsAfter h, isSome_get?_chainsAfter_empty h⟩

/-- The chain to a read-only blob in the store of blobs is explained by a path. -/
theorem chain_provenance_stores :
    ∃ chains link path,
      Host.dialect.chainsAfter (Roles.ofApi Api.stores) {} (allSteps Api.stores.interfaces) =
        .ok chains ∧
      chains.get? "ReadOnlyBlob" = some link ∧
      Explains Host.dialect (Roles.ofApi Api.stores) (allSteps Api.stores.interfaces)
        "ReadOnlyBlob" link path := by
  obtain ⟨chains, h⟩ : Succeeds (Host.dialect.chainsAfter (Roles.ofApi Api.stores) {}
      (allSteps Api.stores.interfaces)) := .of_isOk (by decide +kernel)
  obtain ⟨hpath, hdom⟩ := chain_provenance h
  have hseeded : (chains.get? "ReadOnlyBlob").isSome :=
    (hdom "ReadOnlyBlob").mpr ⟨by decide, by decide⟩
  obtain ⟨link, hl⟩ := Option.isSome_iff_exists.mp hseeded
  obtain ⟨path, hp⟩ := hpath "ReadOnlyBlob" link hl
  exact ⟨chains, link, path, h, hl, hp⟩

end Bindery.Dialect

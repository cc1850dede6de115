import Bindery.Proofs.Api.Sound
import Bindery.Proofs.Export.Provenance
import Bindery.Proofs.Export.Route
import Mathlib.Data.List.Nodup
import Mathlib.Logic.Relation

/-!
# Which links reach an export

A fold has one chain at a time. A method that returns the fold replaces the chain, and a link that is
replaced before any method of the fold has used it is in no export. `Feeds` says that one step of a
run is reached through the link of an earlier one. The main statement is `link_contributes_iff`: a
link stands in the chain of some export exactly when steps that feed one another lead from it to a
method that returns no fold, and the only method that leads to a fold is never lost.
-/
namespace Bindery.Dialect
open Export Outcome Relation
variable {d : Dialect} {roles : Roles} {chains last : Chains} {steps : List Step} {i : Interface}
  {k n : Nat} {t : Step} {link : Link} {path : List Stop}

/-- The step at the second position belongs to the fold that the one at the first position returns,
and no step between the two returns that fold. -/
def Feeds (steps : List Step) (k n : Nat) : Prop :=
  ∃ t, steps[n]? = some t ∧ t.owner.fold = true ∧ LastReturn steps t.owner.name n k

theorem LastReturn.unique {type : String} {bound j : Nat} (hj : LastReturn steps type bound j)
    (hk : LastReturn steps type bound k) : j = k := by
  obtain ⟨sj, hsj, hrj⟩ := hj.returns
  obtain ⟨sk, hsk, hrk⟩ := hk.returns
  rcases Nat.lt_trichotomy j k with hlt | heq | hgt
  · exact absurd hrk (hj.last k sk hlt hk.before hsk)
  · exact heq
  · exact absurd hrj (hk.last j sj hgt hj.before hsj)

theorem LastReturn.of_take {type : String} {bound : Nat}
    (h : LastReturn (steps.take n) type bound k) (hb : bound ≤ (steps.take n).length) :
    LastReturn steps type bound k := by
  have hall := h.append (steps.drop n) hb
  rwa [List.take_append_drop] at hall

theorem Feeds.unique {j : Nat} (hj : Feeds steps j n) (hk : Feeds steps k n) : j = k := by
  obtain ⟨t, ht, -, hlast⟩ := hj
  obtain ⟨t', ht', -, hlast'⟩ := hk
  obtain rfl := Option.some.inj (ht.symm.trans ht')
  exact hlast.unique hlast'

/-! ## The path of a chain -/

/-- An export at the end of a chain. Its first parameters are those of the chain, its first statement
makes the calls of the chain, and the path says which steps they come from. -/
structure ChainedExport (d : Dialect) (roles : Roles) (steps : List Step) (n : Nat) (t : Step)
    (link : Link) (path : List Stop) (e : Export) : Prop where
  step : steps[n]? = some t
  fold : t.owner.fold = true
  terminal : roles.hasFold t.method.returns = false
  made : ∃ chains, d.chainsAfter roles {} (steps.take n) = .ok chains ∧
    d.exportMethod roles chains t.owner t.method = .ok ⟨some e, chains⟩
  explained : Explains d roles (steps.take n) t.owner.name link path
  params : ∃ more, e.params = link.params ++ more
  body : ∃ opening more, d.bindChain link.expr = .ok opening ∧ e.body = opening :: more

theorem step_of_mem_path (h : Explains d roles (steps.take n) t.owner.name link path) {v : Stop}
    (hv : v ∈ path) : steps[v.position]? = some v.step := by
  have hlt := h.position_lt hv
  rw [List.length_take] at hlt
  have hstep := (h.visits v hv).1
  rwa [List.getElem?_take_of_lt (by omega)] at hstep

/-- The stops of a path feed one another, and the last one feeds the step that is exported. -/
theorem positions_isChain (h : Explains d roles (steps.take n) t.owner.name link path)
    (ht : steps[n]? = some t) (hfold : t.owner.fold = true) :
    (path.map (·.position) ++ [n]).IsChain (Feeds steps) := by
  have hn : n < steps.length := (List.getElem?_eq_some_iff.mp ht).1
  have hlen : (steps.take n).length = n := by
    rw [List.length_take]
    omega
  have hleads : path.IsChain fun u v => Feeds steps u.position v.position := by
    refine h.leads.imp_of_mem_imp fun u v _ hv huv => ?_
    have hlast := huv.last.of_take (h.position_lt hv).le
    rw [← huv.name] at hlast
    exact ⟨v.step, step_of_mem_path h hv, huv.fold, hlast⟩
  obtain ⟨final, hfinal, hlast⟩ := h.finish
  have hfeeds : Feeds steps final.position n := by
    have hwhole := hlast.of_take (Nat.le_refl _)
    rw [hlen] at hwhole
    exact ⟨t, ht, hfold, hwhole⟩
  refine ((List.isChain_map _).mpr hleads).append (List.isChain_singleton n) ?_
  intro j hj m hm
  rw [List.getLast?_map, hfinal] at hj
  obtain rfl := Option.some.inj hj
  obtain rfl := Option.some.inj hm
  exact hfeeds

theorem transGen_of_mem_path (h : Explains d roles (steps.take n) t.owner.name link path)
    (ht : steps[n]? = some t) (hfold : t.owner.fold = true) {v : Stop} (hv : v ∈ path) :
    TransGen (Feeds steps) v.position n := by
  have hchain : (path.map (·.position) ++ [n]).IsChain (TransGen (Feeds steps)) :=
    (positions_isChain h ht hfold).imp fun _ _ => TransGen.single
  have hpairs := (List.pairwise_append.mp hchain.pairwise).2.2
  exact hpairs v.position (List.mem_map_of_mem hv) n List.mem_cons_self

theorem le_of_mem_positions (h : Explains d roles (steps.take n) t.owner.name link path) {m : Nat}
    (hm : m ∈ path.map (·.position) ++ [n]) : m ≤ n := by
  rcases List.mem_append.mp hm with hstop | hend
  · obtain ⟨v, hv, rfl⟩ := List.mem_map.mp hstop
    have hposition := h.position_lt hv
    rw [List.length_take] at hposition
    omega
  · exact (List.mem_singleton.mp hend).le

/-- What feeds a stop of a path is a stop of the path. -/
theorem mem_positions_of_feeds (h : Explains d roles (steps.take n) t.owner.name link path)
    (ht : steps[n]? = some t) (hfold : t.owner.fold = true) {m : Nat} (hfeeds : Feeds steps k m)
    (hm : m ∈ path.map (·.position) ++ [n]) : k ∈ path.map (·.position) := by
  have hchain := positions_isChain h ht hfold
  obtain ⟨first, own, receiver, hfirst, hplain, -⟩ := h.start
  obtain ⟨before, after, hsplit⟩ := List.append_of_mem hm
  rcases List.eq_nil_or_concat before with rfl | ⟨front, j, rfl⟩
  · -- the path starts at an owner that is no fold, so nothing feeds its first stop
    obtain ⟨rest, rfl⟩ : ∃ rest, path = first :: rest := List.head?_eq_some_iff.mp hfirst
    obtain ⟨rfl, -⟩ := List.cons.inj hsplit
    obtain ⟨s, hs, hfolded, -⟩ := hfeeds
    have hstep := step_of_mem_path h (List.mem_cons_self : first ∈ first :: rest)
    obtain rfl := Option.some.inj (hs.symm.trans hstep)
    rw [hplain] at hfolded
    cases hfolded
  · rw [hsplit, List.concat_eq_append, List.append_assoc, List.singleton_append] at hchain
    have hpair := (List.isChain_append.mp hchain).2.1
    obtain rfl := hfeeds.unique (List.isChain_cons_cons.mp hpair).1
    have hmem : k ∈ path.map (·.position) ++ [n] := by
      rw [hsplit]
      simp
    have hlt : k < n := by
      obtain ⟨s, -, -, hlast⟩ := hfeeds
      have hbefore := hlast.before
      have hle := le_of_mem_positions h hm
      omega
    rcases List.mem_append.mp hmem with hstop | hend
    · exact hstop
    · have hsame := List.mem_singleton.mp hend
      omega

theorem exists_mem_path_of_transGen
    (h : Explains d roles (steps.take n) t.owner.name link path)
    (ht : steps[n]? = some t) (hfold : t.owner.fold = true)
    (hreach : TransGen (Feeds steps) k n) : ∃ v ∈ path, v.position = k := by
  have hmem : k ∈ path.map (·.position) := by
    -- from the end of the sequence back to its start
    induction hreach using TransGen.head_induction_on with
    | single hfeeds =>
      exact mem_positions_of_feeds h ht hfold hfeeds (List.mem_append_right _ List.mem_cons_self)
    | head hfeeds _ ih =>
      exact mem_positions_of_feeds h ht hfold hfeeds (List.mem_append_left _ ih)
  exact List.mem_map.mp hmem

/-! ## The export at a position -/

theorem exportMethods_at {ms : List Method} {exports : List Export}
    (h : d.exportMethods roles i chains ms = .ok (exports, last))
    (ht : (stepsOf i ms)[n]? = some t) :
    ∃ middle c, d.chainsAfter roles chains ((stepsOf i ms).take n) = .ok middle ∧
      d.exportMethod roles middle t.owner t.method = .ok c ∧ ∀ e, c.made = some e → e ∈ exports := by
  induction ms generalizing chains exports n with
  | nil => cases ht
  | cons m ms ih =>
    obtain ⟨c, rest, hc, hrest, rfl⟩ := exportMethods_cons_ok.mp h
    cases n with
    | zero =>
      obtain rfl := Option.some.inj ht
      refine ⟨chains, c, rfl, hc, fun e he => ?_⟩
      rw [he]
      exact List.mem_cons_self
    | succ n =>
      obtain ⟨middle, c', hmiddle, hc', hmem⟩ := ih hrest ht
      exact ⟨middle, c', bind_eq_ok.mpr ⟨c, hc, hmiddle⟩, hc',
        fun e he => List.mem_append_right _ (hmem e he)⟩

/-- The step at a position of a run meets the chains that the steps before it leave, and what it makes
is among the exports. -/
theorem exportInterfaces_at {is : List Interface} {chapters : List Chapter}
    (h : d.exportInterfaces roles chains is = .ok chapters) (ht : (allSteps is)[n]? = some t) :
    ∃ middle c, d.chainsAfter roles chains ((allSteps is).take n) = .ok middle ∧
      d.exportMethod roles middle t.owner t.method = .ok c ∧
      ∀ e, c.made = some e → e ∈ chapters.flatMap (·.exports) := by
  induction is generalizing chains chapters n with
  | nil => cases ht
  | cons i is ih =>
    obtain ⟨exports, next, rest, hexports, hrest, rfl⟩ := exportInterfaces_cons_ok.mp h
    have hsteps : allSteps (i :: is) = stepsOf i i.methods ++ allSteps is := List.flatMap_cons
    rw [hsteps] at ht ⊢
    rw [List.flatMap_cons]
    rcases Nat.lt_or_ge n (stepsOf i i.methods).length with hlt | hge
    · rw [List.getElem?_append_left hlt] at ht
      rw [List.take_append_of_le_length hlt.le]
      obtain ⟨middle, c, hmiddle, hc, hmem⟩ := exportMethods_at hexports ht
      exact ⟨middle, c, hmiddle, hc, fun e he => List.mem_append_left _ (hmem e he)⟩
    · rw [List.getElem?_append_right hge] at ht
      obtain ⟨middle, c, hmiddle, hc, hmem⟩ := ih hrest ht
      refine ⟨middle, c, ?_, hc, fun e he => List.mem_append_right _ (hmem e he)⟩
      rw [List.take_append, List.take_of_length_le hge, chainsAfter_append_ok]
      exact ⟨next, exportMethods_chainsAfter hexports, hmiddle⟩

/-- The method of a fold meets a chain to the fold. -/
theorem isSome_get?_of_exportMethod {c : Contribution}
    (h : d.exportMethod roles chains t.owner t.method = .ok c) (hfold : t.owner.fold = true) :
    (chains.get? t.owner.name).isSome := by
  cases hreturns : roles.hasFold t.method.returns with
  | false =>
    obtain ⟨p, hfit, -⟩ := (exportMethod_terminal_iff hreturns).mp h
    have hchain := hfit.chain
    rw [if_pos hfold] at hchain
    obtain ⟨link, hget, -⟩ := hchain
    exact Option.isSome_of_eq_some hget
  | true =>
    obtain ⟨_, _, _, head, -, -, hhead, -⟩ := (exportMethod_link_iff hreturns).mp h
    cases hhead with
    | fresh hplain => cases hplain.symm.trans hfold
    | onward _ hget => exact Option.isSome_of_eq_some hget

section Description
variable {api : Api} {chapters : List Chapter} {s : Step}

/-- The step at a position is a stop on the chain of some export: its call is one of the calls of
the chain, and what its parameters are declared as stands among the parameters of the export. -/
def Contributes (d : Dialect) (api : Api) (chapters : List Chapter) (k : Nat) (s : Step) : Prop :=
  ∃ n t link path e declared arguments, e ∈ chapters.flatMap (·.exports) ∧
    ChainedExport d (Roles.ofApi api) (allSteps api.interfaces) n t link path e ∧
    ⟨k, s, declared, arguments⟩ ∈ path ∧
    d.inputs (Roles.ofApi api) s.owner s.method = .ok (declared, arguments) ∧
    declared <:+: e.params ∧
    ∃ receiver later,
      link.expr = d.calls (d.call receiver (d.methodName s.method.name) arguments) later

theorem exists_chainedExport (h : d.chapters api = .ok chapters)
    (ht : (allSteps api.interfaces)[n]? = some t) (hfold : t.owner.fold = true)
    (hterminal : (Roles.ofApi api).hasFold t.method.returns = false) :
    ∃ link path e, e ∈ chapters.flatMap (·.exports) ∧
      ChainedExport d (Roles.ofApi api) (allSteps api.interfaces) n t link path e := by
  obtain ⟨chains, c, hchains, hc, hmem⟩ := exportInterfaces_at (chapters_eq_ok_iff.mp h).2 ht
  obtain ⟨p, hfit, rfl⟩ := (exportMethod_terminal_iff hterminal).mp hc
  have hchain := hfit.chain
  rw [if_pos hfold] at hchain
  obtain ⟨link, hget, hlink⟩ := hchain
  obtain ⟨path, hpath⟩ := explained_chainsAfter hchains _ _ hget
  have hopening := hfit.opening
  rw [hlink] at hopening
  obtain ⟨opening, hbind, hopening⟩ := hopening
  refine ⟨link, path, p.made d t.owner t.method, hmem _ rfl,
    ⟨ht, hfold, hterminal, ⟨chains, hchains, hc⟩, hpath, ⟨p.own ++ p.declared ++ p.reports, ?_⟩,
    opening, p.statements ++ p.closing, hbind, ?_⟩⟩
  · simp [Parts.made, Parts.params, hlink]
  · simp [Parts.made, Parts.body, hopening]

theorem contributes_of_mem_path {e : Export} {v : Stop} (he : e ∈ chapters.flatMap (·.exports))
    (h : ChainedExport d (Roles.ofApi api) (allSteps api.interfaces) n t link path e)
    (hv : v ∈ path) : Contributes d api chapters v.position v.step := by
  refine ⟨n, t, link, path, e, v.declared, v.arguments, he, h, hv, (h.explained.visits v hv).2, ?_⟩
  obtain ⟨first, own, receiver, -, -, -, -, hparams, hexpr⟩ := h.explained.start
  obtain ⟨before, after, rfl⟩ := List.append_of_mem hv
  obtain ⟨more, hmore⟩ := h.params
  constructor
  · refine ⟨own ++ before.flatMap (·.declared), after.flatMap (·.declared) ++ more, ?_⟩
    rw [hmore, hparams]
    simp
  · refine ⟨d.calls receiver before, after, ?_⟩
    rw [hexpr]
    simp [calls]

theorem contributes_iff (h : d.chapters api = .ok chapters)
    (hs : (allSteps api.interfaces)[k]? = some s) :
    Contributes d api chapters k s ↔
      ∃ n t, TransGen (Feeds (allSteps api.interfaces)) k n ∧
        (allSteps api.interfaces)[n]? = some t ∧
        (Roles.ofApi api).hasFold t.method.returns = false := by
  constructor
  · rintro ⟨n, t, link, path, e, declared, arguments, -, hchained, hv, -⟩
    have hreach := transGen_of_mem_path hchained.explained hchained.step hchained.fold hv
    exact ⟨n, t, hreach, hchained.step, hchained.terminal⟩
  · rintro ⟨n, t, hreach, ht, hterminal⟩
    have hfold : t.owner.fold = true := by
      obtain ⟨m, -, t', ht', hfold, -⟩ := TransGen.tail'_iff.mp hreach
      obtain rfl := Option.some.inj (ht.symm.trans ht')
      exact hfold
    obtain ⟨link, path, e, he, hchained⟩ := exists_chainedExport h ht hfold hterminal
    obtain ⟨v, hv, rfl⟩ := exists_mem_path_of_transGen hchained.explained ht hfold hreach
    have hstep := step_of_mem_path hchained.explained hv
    obtain rfl := Option.some.inj (hs.symm.trans hstep)
    exact contributes_of_mem_path he hchained hv

/-- A method that alone leads to a fold feeds every method of it. -/
theorem feeds_of_sole (h : d.chapters api = .ok chapters)
    (hsole : ∀ j u, (allSteps api.interfaces)[j]? = some u →
      u.method.returns = t.owner.name → j = k)
    (ht : (allSteps api.interfaces)[n]? = some t) (hfold : t.owner.fold = true) :
    Feeds (allSteps api.interfaces) k n := by
  obtain ⟨chains, c, hchains, hc, -⟩ := exportInterfaces_at (chapters_eq_ok_iff.mp h).2 ht
  have hseeded := isSome_get?_of_exportMethod hc hfold
  obtain ⟨-, u, hu, hreturns⟩ := (isSome_get?_chainsAfter_empty hchains _).mp hseeded
  obtain ⟨j, hlt, hj⟩ := List.mem_iff_getElem.mp hu
  have hbound : j < n := by
    rw [List.length_take] at hlt
    omega
  have hstep : (allSteps api.interfaces)[j]? = some u := by
    rw [← List.getElem?_take_of_lt hbound]
    exact List.getElem?_eq_some_iff.mpr ⟨hlt, hj⟩
  obtain rfl := hsole j u hstep hreturns
  refine ⟨t, ht, hfold, hbound, ⟨u, hstep, hreturns⟩, ?_⟩
  intro m w hm _ hw hagain
  have hsame := hsole m w hw hagain
  omega

/-- A method that returns a fold has its call in the chain of an export, and its parameters among the
parameters of that export, exactly when steps that feed one another lead from it to a method that
returns no fold. A method that alone returns a fold with such a method is always in an export. -/
theorem link_contributes_iff (h : d.chapters api = .ok chapters)
    (hs : (allSteps api.interfaces)[k]? = some s)
    (hlink : (Roles.ofApi api).hasFold s.method.returns = true) :
    (Contributes d api chapters k s ↔
      ∃ n t, TransGen (Feeds (allSteps api.interfaces)) k n ∧
        (allSteps api.interfaces)[n]? = some t ∧
        (Roles.ofApi api).hasFold t.method.returns = false) ∧
    ((∀ j u, (allSteps api.interfaces)[j]? = some u →
        u.method.returns = s.method.returns → j = k) →
      (∃ i ∈ api.interfaces, i.name = s.method.returns ∧
        ∃ m ∈ i.methods, (Roles.ofApi api).hasFold m.returns = false) →
      Contributes d api chapters k s) := by
  refine ⟨contributes_iff h hs, fun hsole hends => ?_⟩
  obtain ⟨i, hi, hname, m, hm, hterminal⟩ := hends
  have hfold : i.fold = true := by
    obtain ⟨i', hi', hfold', hname'⟩ := Roles.hasFold_ofApi.mp hlink
    have hnames := (Api.validate_eq_ok_iff.mp (chapters_eq_ok_iff.mp h).1).interfaceNames
    obtain rfl := List.inj_on_of_nodup_map hnames hi hi' (hname.trans hname'.symm)
    exact hfold'
  have hstep : (⟨i, m⟩ : Step) ∈ allSteps api.interfaces := mem_allSteps.mpr ⟨hi, hm⟩
  obtain ⟨n, hlt, hn⟩ := List.mem_iff_getElem.mp hstep
  have ht : (allSteps api.interfaces)[n]? = some ⟨i, m⟩ :=
    List.getElem?_eq_some_iff.mpr ⟨hlt, hn⟩
  have hfeeds : Feeds (allSteps api.interfaces) k n := by
    refine feeds_of_sole h ?_ ht hfold
    intro j u hu hreturns
    exact hsole j u hu (hreturns.trans hname)
  exact (contributes_iff h hs).mpr ⟨n, ⟨i, m⟩, .single hfeeds, ht, hterminal⟩

end Description

/-- The only method of the store of blobs that leads to a reader is in an export. -/
theorem link_contributes_iff_stores :
    ∃ chapters s, Host.dialect.chapters Api.stores = .ok chapters ∧
      (allSteps Api.stores.interfaces)[4]? = some s ∧ s.method.returns = "BlobReader" ∧
      Contributes Host.dialect Api.stores chapters 4 s := by
  obtain ⟨chapters, h⟩ : Succeeds (Host.dialect.chapters Api.stores) := .of_isOk (by decide +kernel)
  obtain ⟨s, hs, hreturns⟩ : ∃ s, (allSteps Api.stores.interfaces)[4]? = some s ∧
      s.method.returns = "BlobReader" := ⟨_, rfl, by decide⟩
  have hlink : (Roles.ofApi Api.stores).hasFold s.method.returns = true := by
    rw [hreturns]
    decide
  have hsole : ∀ j < (allSteps Api.stores.interfaces).length, ∀ u,
      (allSteps Api.stores.interfaces)[j]? = some u →
        u.method.returns = "BlobReader" → j = 4 := by
    have hall : ∀ j < (allSteps Api.stores.interfaces).length,
        ((allSteps Api.stores.interfaces)[j]?.map (·.method.returns)) = some "BlobReader" →
          j = 4 := by decide +kernel
    intro j hj u hu hreturns
    exact hall j hj (by rw [hu, Option.map_some, hreturns])
  refine ⟨chapters, s, h, hs, hreturns, (link_contributes_iff h hs hlink).2 ?_ ?_⟩
  · intro j u hu hsame
    exact hsole j (List.getElem?_eq_some_iff.mp hu).1 u hu (hsame.trans hreturns)
  · rw [hreturns]
    decide +kernel

/-- A singleton with two methods that lead to the same fold. -/
def twiceOpened : Api :=
  { interfaces := [
      { name := "Stores", singleton := true
        methods := [
          { name := "first", params := [{ name := "path", type := "string" }]
            returns := "Reader" },
          { name := "second", params := [{ name := "index", type := "bigint" }]
            returns := "Reader" }] },
      { name := "Reader", fold := true
        methods := [{ name := "size", returns := "bigint" }] }] }

/-- Of two methods that lead to a fold one after the other, the first is in no export. -/
theorem twiceOpened_loses_first :
    ∃ chapters s, Host.dialect.chapters twiceOpened = .ok chapters ∧
      chapters = [⟨"Stores", []⟩,
        ⟨"Reader", [
          { name := "Reader_Size", params := ["index C.longlong"], result := "C.longlong"
            body := ["folded := stores.Second(int64(index))",
              "return C.longlong(folded.Size())"] }]⟩] ∧
      (allSteps twiceOpened.interfaces)[0]? = some s ∧ s.method.name = "first" ∧
      (Roles.ofApi twiceOpened).hasFold s.method.returns = true ∧
      (∃ i ∈ twiceOpened.interfaces, i.name = s.method.returns ∧
        ∃ m ∈ i.methods, (Roles.ofApi twiceOpened).hasFold m.returns = false) ∧
      ¬ Contributes Host.dialect twiceOpened chapters 0 s := by
  have hchapters : Host.dialect.chapters twiceOpened = .ok [⟨"Stores", []⟩,
      ⟨"Reader", [
        { name := "Reader_Size", params := ["index C.longlong"], result := "C.longlong"
          body := ["folded := stores.Second(int64(index))",
            "return C.longlong(folded.Size())"] }]⟩] := by decide +kernel
  refine ⟨_, _, hchapters, rfl, rfl, by decide, by decide +kernel, by decide +kernel, ?_⟩
  rw [contributes_iff hchapters rfl]
  rintro ⟨n, t, hreach, -, -⟩
  obtain ⟨m, ⟨u, hu, hfold, hlast⟩, -⟩ := TransGen.head'_iff.mp hreach
  have hend : ∀ m < (allSteps twiceOpened.interfaces).length, 0 < m →
      ((allSteps twiceOpened.interfaces)[m]?.map (·.owner.fold)) = some true → m = 2 := by
    decide +kernel
  have hm : m = 2 := hend m (List.getElem?_eq_some_iff.mp hu).1 hlast.before (by
    rw [hu, Option.map_some, hfold])
  subst hm
  obtain rfl := Option.some.inj hu
  exact hlast.last 1 _ (by omega) (by omega) rfl rfl

end Bindery.Dialect

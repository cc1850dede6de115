import Bindery.Proofs.Export.Parts

/-!
# Runs

Exporting a description is a run over its methods in declaration order, each with its owner. A run
passes the chains from step to step. Here runs are cut at any point, and the names that have a chain
at the end of a run are found: a step gives a chain to the fold that its method returns and takes
none away.
-/
namespace Bindery.Dialect
open Export Outcome
variable {d : Dialect} {roles : Roles} {chains last : Chains} {i : Interface} {m : Method}

/-- One step of a run: a method with its owner. -/
structure Step where
  owner : Interface
  method : Method
  deriving DecidableEq, Repr

def stepsOf (i : Interface) (methods : List Method) : List Step :=
  methods.map fun m => ⟨i, m⟩

def allSteps (interfaces : List Interface) : List Step :=
  interfaces.flatMap fun i => stepsOf i i.methods

def chainsAfter (d : Dialect) (roles : Roles) (chains : Chains) :
    List Step → Except Error Chains
  | [] => return chains
  | s :: steps => do
    let first ← d.exportMethod roles chains s.owner s.method
    d.chainsAfter roles first.chains steps

theorem chainsAfter_append (before after : List Step) :
    d.chainsAfter roles chains (before ++ after) =
      d.chainsAfter roles chains before >>= fun middle => d.chainsAfter roles middle after := by
  induction before generalizing chains with
  | nil => rfl
  | cons s before ih =>
    simp only [List.cons_append, chainsAfter]
    cases d.exportMethod roles chains s.owner s.method with
    | error e => rfl
    | ok first => exact ih

theorem chainsAfter_append_ok {before after : List Step} :
    d.chainsAfter roles chains (before ++ after) = .ok last ↔
      ∃ middle, d.chainsAfter roles chains before = .ok middle ∧
        d.chainsAfter roles middle after = .ok last := by
  rw [chainsAfter_append, bind_eq_ok]

theorem chainsAfter_concat_ok {before : List Step} {s : Step} :
    d.chainsAfter roles chains (before ++ [s]) = .ok last ↔
      ∃ middle c, d.chainsAfter roles chains before = .ok middle ∧
        d.exportMethod roles middle s.owner s.method = .ok c ∧ last = c.chains := by
  simp only [chainsAfter_append_ok, chainsAfter, bind_eq_ok, pure_eq_ok]
  constructor
  · intro hok
    obtain ⟨middle, hm, c, hc, rfl⟩ := hok
    exact ⟨middle, c, hm, hc, rfl⟩
  · intro hok
    obtain ⟨middle, c, hm, hc, rfl⟩ := hok
    exact ⟨middle, hm, c, hc, rfl⟩

theorem exportMethods_cons_ok {ms : List Method} {exports : List Export} :
    d.exportMethods roles i chains (m :: ms) = .ok (exports, last) ↔
      ∃ c rest, d.exportMethod roles chains i m = .ok c ∧
        d.exportMethods roles i c.chains ms = .ok (rest, last) ∧
        exports = c.made.toList ++ rest := by
  simp only [exportMethods, bind_eq_ok, pure_eq_ok, Prod.exists, Prod.mk.injEq]
  constructor
  · intro hok
    obtain ⟨c, hc, rest, _, hr, rfl, rfl⟩ := hok
    exact ⟨c, rest, hc, hr, rfl⟩
  · intro hok
    obtain ⟨c, rest, hc, hr, rfl⟩ := hok
    exact ⟨c, hc, rest, last, hr, rfl, rfl⟩

/-- The exports of a list of methods split where the list does. -/
theorem exportMethods_append {before after : List Method} {exports : List Export}
    (h : d.exportMethods roles i chains (before ++ after) = .ok (exports, last)) :
    ∃ early middle late, d.exportMethods roles i chains before = .ok (early, middle) ∧
      d.exportMethods roles i middle after = .ok (late, last) ∧ exports = early ++ late := by
  induction before generalizing chains exports with
  | nil => exact ⟨[], chains, exports, rfl, h, rfl⟩
  | cons m before ih =>
    obtain ⟨c, rest, hc, hr, rfl⟩ := exportMethods_cons_ok.mp h
    obtain ⟨early, middle, late, he, hl, rfl⟩ := ih hr
    exact ⟨c.made.toList ++ early, middle, late,
      exportMethods_cons_ok.mpr ⟨c, early, hc, he, rfl⟩, hl, (List.append_assoc ..).symm⟩

theorem exportMethods_chainsAfter {ms : List Method} {exports : List Export}
    (h : d.exportMethods roles i chains ms = .ok (exports, last)) :
    d.chainsAfter roles chains (stepsOf i ms) = .ok last := by
  induction ms generalizing chains exports with
  | nil =>
    simp only [exportMethods, pure_eq_ok, Prod.mk.injEq] at h
    exact pure_eq_ok.mpr h.2
  | cons m ms ih =>
    obtain ⟨c, rest, hc, hr, -⟩ := exportMethods_cons_ok.mp h
    exact bind_eq_ok.mpr ⟨c, hc, ih hr⟩

theorem exportInterfaces_cons_ok {is : List Interface} {chapters : List Chapter} :
    d.exportInterfaces roles chains (i :: is) = .ok chapters ↔
      ∃ exports middle rest, d.exportMethods roles i chains i.methods = .ok (exports, middle) ∧
        d.exportInterfaces roles middle is = .ok rest ∧
        chapters = ⟨i.name, exports⟩ :: rest := by
  simp only [exportInterfaces, exportInterface, bind_eq_ok, pure_eq_ok, Prod.exists]
  constructor
  · intro hok
    obtain ⟨exports, middle, he, rest, hr, rfl⟩ := hok
    exact ⟨exports, middle, rest, he, hr, rfl⟩
  · intro hok
    obtain ⟨exports, middle, rest, he, hr, rfl⟩ := hok
    exact ⟨exports, middle, he, rest, hr, rfl⟩

/-- The chapters of a list of interfaces split where the list does, and the later ones start from
the chains that the steps of the earlier ones leave. -/
theorem exportInterfaces_append {before after : List Interface} {chapters : List Chapter}
    (h : d.exportInterfaces roles chains (before ++ after) = .ok chapters) :
    ∃ early middle late, early.length = before.length ∧
      d.chainsAfter roles chains (allSteps before) = .ok middle ∧
      d.exportInterfaces roles middle after = .ok late ∧ chapters = early ++ late := by
  induction before generalizing chains chapters with
  | nil => exact ⟨[], chains, chapters, rfl, rfl, h, rfl⟩
  | cons i before ih =>
    obtain ⟨exports, next, rest, he, hr, rfl⟩ := exportInterfaces_cons_ok.mp h
    obtain ⟨early, middle, late, hlen, hc, hl, rfl⟩ := ih hr
    refine ⟨⟨i.name, exports⟩ :: early, middle, late, congrArg (· + 1) hlen, ?_, hl, rfl⟩
    rw [allSteps, List.flatMap_cons, chainsAfter_append_ok]
    exact ⟨next, exportMethods_chainsAfter he, hc⟩

/-- A step keeps all chains but the one of the fold that its method returns. -/
theorem get?_exportMethod {c : Contribution} (h : d.exportMethod roles chains i m = .ok c)
    {fold : String} (hne : roles.hasFold m.returns = true → fold ≠ m.returns) :
    c.chains.get? fold = chains.get? fold := by
  cases hf : roles.hasFold m.returns with
  | false =>
    obtain ⟨p, -, rfl⟩ := (exportMethod_terminal_iff hf).mp h
    rfl
  | true =>
    obtain ⟨_, _, _, _, -, -, -, rfl⟩ := (exportMethod_link_iff hf).mp h
    exact Chains.get?_insert_of_ne (hne hf) _ _

theorem isSome_get?_exportMethod {c : Contribution}
    (h : d.exportMethod roles chains i m = .ok c) (fold : String) :
    (c.chains.get? fold).isSome ↔
      (chains.get? fold).isSome ∨ (roles.hasFold fold = true ∧ m.returns = fold) := by
  by_cases hm : roles.hasFold fold = true ∧ m.returns = fold
  · obtain ⟨hf, rfl⟩ := hm
    obtain ⟨_, _, _, _, -, -, -, rfl⟩ := (exportMethod_link_iff hf).mp h
    simp [hf]
  · have hne : roles.hasFold m.returns = true → fold ≠ m.returns := by
      intro hf he
      exact hm ⟨he ▸ hf, he.symm⟩
    rw [get?_exportMethod h hne, or_iff_left hm]

/-- At the end of a run, a name has a chain if it had one at the start or if it is a fold that some
method of the run returns. -/
theorem isSome_get?_chainsAfter {steps : List Step}
    (h : d.chainsAfter roles chains steps = .ok last) (fold : String) :
    (last.get? fold).isSome ↔ (chains.get? fold).isSome ∨
      (roles.hasFold fold = true ∧ ∃ s ∈ steps, s.method.returns = fold) := by
  induction steps generalizing chains with
  | nil =>
    obtain rfl := pure_eq_ok.mp h
    simp
  | cons s steps ih =>
    obtain ⟨c, hc, hr⟩ := bind_eq_ok.mp h
    rw [ih hr, isSome_get?_exportMethod hc]
    simp only [List.exists_mem_cons_iff]
    tauto

theorem isSome_get?_chainsAfter_empty {steps : List Step}
    (h : d.chainsAfter roles {} steps = .ok last) (fold : String) :
    (last.get? fold).isSome ↔
      roles.hasFold fold = true ∧ ∃ s ∈ steps, s.method.returns = fold := by
  simpa using isSome_get?_chainsAfter h fold

theorem chaptersWith_eq_ok_iff {api : Api} {chapters : List Chapter} :
    d.chaptersWith roles api = .ok chapters ↔ api.validate = .ok () ∧
      d.exportInterfaces roles {} api.interfaces = .ok chapters := by
  rw [chaptersWith, check_bind_eq_ok, mapError_eq_ok]

theorem chapters_eq_ok_iff {api : Api} {chapters : List Chapter} :
    d.chapters api = .ok chapters ↔ api.validate = .ok () ∧
      d.exportInterfaces (Roles.ofApi api) {} api.interfaces = .ok chapters :=
  chaptersWith_eq_ok_iff

end Bindery.Dialect

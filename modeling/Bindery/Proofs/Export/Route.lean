import Bindery.Proofs.Export.Run

/-!
# Routes

The body of an export makes the calls of a whole route: from an object at hand along the links of a
chain to the method that is exported. Which route that is follows from the description alone. Each
method that returns a fold renews the links that lead to it, and the methods of the fold are reached
through the links in force. The main statement, `exports_follow_routes`, says that the exports of a
description are, in order, those of its routes.
-/
namespace Bindery.Dialect
open Export Outcome
variable {d : Dialect} {roles : Roles}

/-- The methods that one export calls: the links of its chain, and the exported method last. -/
structure Route where
  links : List Step
  last : Step
  deriving DecidableEq, Repr

namespace Route

/-- All methods of the route in the order of their calls. -/
def steps (r : Route) : List Step := r.links ++ [r.last]

/-- The interface whose object the first call is made on. -/
def root (r : Route) : Interface := (r.links.headD r.last).owner

theorem last_mem_steps (r : Route) : r.last ∈ r.steps :=
  List.mem_append_right _ List.mem_cons_self

theorem head_mem_steps (r : Route) : r.links.headD r.last ∈ r.steps := by
  unfold steps
  cases r.links <;> simp

end Route

/-- The links that lead to each fold. -/
abbrev Paths := String → List Step

namespace Paths

/-- The links that lead to an interface: there are none unless it is a fold. -/
def linksTo (paths : Paths) (i : Interface) : List Step :=
  if i.fold then paths i.name else []

/-- A method that returns a fold renews the links to it. -/
def after (paths : Paths) (roles : Roles) (s : Step) : Paths := fun fold =>
  if roles.hasFold s.method.returns ∧ fold = s.method.returns then paths.linksTo s.owner ++ [s]
  else paths fold

end Paths

/-- The route that ends at a step, unless the step is a link itself. -/
def routeAt (roles : Roles) (paths : Paths) (s : Step) : Option Route :=
  if roles.hasFold s.method.returns then none else some ⟨paths.linksTo s.owner, s⟩

def routesFrom (roles : Roles) (paths : Paths) : List Step → List Route
  | [] => []
  | s :: steps => (routeAt roles paths s).toList ++ routesFrom roles (paths.after roles s) steps

def routes (api : Api) : List Route :=
  routesFrom (Roles.ofApi api) (fun _ => []) (allSteps api.interfaces)

theorem routesFrom_append (before after : List Step) (paths : Paths) :
    routesFrom roles paths (before ++ after) = routesFrom roles paths before ++
      routesFrom roles (before.foldl (·.after roles ·) paths) after := by
  induction before generalizing paths with
  | nil => rfl
  | cons s before ih =>
    simp only [List.cons_append, routesFrom, List.foldl_cons, ih, List.append_assoc]

/-- Every method that returns no fold ends one route. -/
theorem map_last_routesFrom (paths : Paths) (steps : List Step) :
    (routesFrom roles paths steps).map (·.last) =
      steps.filter fun s => !roles.hasFold s.method.returns := by
  induction steps generalizing paths with
  | nil => rfl
  | cons s steps ih =>
    rw [routesFrom, List.map_append, ih, List.filter_cons]
    cases hf : roles.hasFold s.method.returns <;> simp [routeAt, hf]

theorem mem_linksTo {paths : Paths} {i : Interface} {s : Step} (h : s ∈ paths.linksTo i) :
    ∃ fold, s ∈ paths fold := by
  unfold Paths.linksTo at h
  split at h
  · exact ⟨i.name, h⟩
  · cases h

theorem mem_after {paths : Paths} {s t : Step} {fold : String}
    (h : t ∈ paths.after roles s fold) :
    (t = s ∧ roles.hasFold t.method.returns = true) ∨ ∃ other, t ∈ paths other := by
  unfold Paths.after at h
  split at h
  · rename_i hreturns
    rcases List.mem_append.mp h with ht | ht
    · exact .inr (mem_linksTo ht)
    · obtain rfl := List.mem_singleton.mp ht
      exact .inl ⟨rfl, hreturns.1⟩
  · exact .inr ⟨fold, h⟩

/-- The links of a route are methods of the run that return folds. -/
theorem mem_links_of_mem_routesFrom {paths : Paths} {steps : List Step} {r : Route}
    (hr : r ∈ routesFrom roles paths steps) {t : Step} (ht : t ∈ r.links) :
    (t ∈ steps ∧ roles.hasFold t.method.returns = true) ∨ ∃ fold, t ∈ paths fold := by
  induction steps generalizing paths with
  | nil => cases hr
  | cons s steps ih =>
    rcases List.mem_append.mp hr with hr | hr
    · unfold routeAt at hr
      split at hr
      · cases hr
      · obtain rfl := List.mem_singleton.mp hr
        exact .inr (mem_linksTo ht)
    · rcases ih hr with ⟨hsteps, hfold⟩ | ⟨fold, ht⟩
      · exact .inl ⟨List.mem_cons_of_mem s hsteps, hfold⟩
      · rcases mem_after ht with ⟨rfl, hfold⟩ | hold
        · exact .inl ⟨List.mem_cons_self, hfold⟩
        · exact .inr hold

section Description
variable {api : Api} {r : Route} {s : Step}

theorem mem_allSteps : s ∈ allSteps api.interfaces ↔
    s.owner ∈ api.interfaces ∧ s.method ∈ s.owner.methods := by
  constructor
  · intro hs
    obtain ⟨i, hi, hstep⟩ := List.mem_flatMap.mp hs
    obtain ⟨m, hm, rfl⟩ := List.mem_map.mp hstep
    exact ⟨hi, hm⟩
  · rintro ⟨howner, hmethod⟩
    exact List.mem_flatMap.mpr ⟨s.owner, howner, List.mem_map.mpr ⟨s.method, hmethod, rfl⟩⟩

theorem mem_links_of_mem_routes (hr : r ∈ routes api) (hs : s ∈ r.links) :
    s ∈ allSteps api.interfaces ∧ (Roles.ofApi api).hasFold s.method.returns = true := by
  rcases mem_links_of_mem_routesFrom hr hs with hmem | ⟨_, hnone⟩
  · exact hmem
  · cases hnone

/-- The methods at the ends of routes are those that return no fold. -/
theorem exists_last_eq_iff : (∃ r ∈ routes api, r.last = s) ↔
    s ∈ allSteps api.interfaces ∧ (Roles.ofApi api).hasFold s.method.returns = false := by
  rw [← List.mem_map, routes, map_last_routesFrom, List.mem_filter, Bool.not_eq_true']

/-- A route passes only through methods of the description. -/
theorem mem_of_mem_routes (hr : r ∈ routes api) (hs : s ∈ r.steps) :
    s.owner ∈ api.interfaces ∧ s.method ∈ s.owner.methods := by
  rw [← mem_allSteps]
  rcases List.mem_append.mp hs with hlink | hlast
  · exact (mem_links_of_mem_routes hr hlink).1
  · exact (exists_last_eq_iff.mp ⟨r, hr, (List.mem_singleton.mp hlast).symm⟩).1

theorem root_mem_of_mem_routes (hr : r ∈ routes api) : r.root ∈ api.interfaces :=
  (mem_of_mem_routes hr r.head_mem_steps).1

end Description

/-- The chain of a fold that the steps of a path make. The path starts at an owner that is no fold,
and every later step belongs to the fold that the one before it returns. -/
inductive Linked (d : Dialect) (roles : Roles) : String → List Step → Link → Prop
  | fresh {s : Step} {declared arguments own : List String} {receiver : String} :
      s.owner.fold = false → Passes d roles s.owner s.method declared arguments →
      d.ownerParams s.owner = .ok own → d.owner s.owner = .ok receiver →
      Linked d roles s.method.returns [s] (d.extend ⟨own, receiver⟩ s.method declared arguments)
  | onward {s : Step} {path : List Step} {link : Link} {declared arguments : List String} :
      s.owner.fold = true → Linked d roles s.owner.name path link →
      Passes d roles s.owner s.method declared arguments →
      Linked d roles s.method.returns (path ++ [s]) (d.extend link s.method declared arguments)

theorem Linked.ne_nil {fold : String} {path : List Step} {link : Link}
    (h : Linked d roles fold path link) : path ≠ [] := by
  cases h <;> simp

theorem Linked.fold_head {fold : String} {path : List Step} {link : Link}
    (h : Linked d roles fold path link) (other : Step) :
    (path.headD other).owner.fold = false := by
  induction h with
  | fresh hplain => exact hplain
  | onward _ hlinked _ ih =>
    obtain ⟨first, rest, rfl⟩ := List.exists_cons_of_ne_nil hlinked.ne_nil
    exact ih

/-- The export at the end of a route: its parts fit the last method, and its chain is the one that
the links make. -/
structure Route.Makes (d : Dialect) (roles : Roles) (r : Route) (e : Export) : Prop where
  terminal : roles.hasFold r.last.method.returns = false
  parts : ∃ (chains : Chains) (p : Parts), p.Fit d roles chains r.last.owner r.last.method ∧
    e = p.made d r.last.owner r.last.method ∧
    match p.chain with
    | some link => r.last.owner.fold = true ∧ Linked d roles r.last.owner.name r.links link
    | none => r.last.owner.fold = false ∧ r.links = []

/-- No route starts at a fold. -/
theorem Route.Makes.fold_root {r : Route} {e : Export} (h : r.Makes d roles e) :
    r.root.fold = false := by
  obtain ⟨chains, p, -, -, hchain⟩ := h.parts
  unfold Route.root
  split at hchain
  · exact hchain.2.fold_head r.last
  · rw [hchain.2]
    exact hchain.1

/-- Every chain is the one that the links to its fold make. -/
def Follows (d : Dialect) (roles : Roles) (paths : Paths) (chains : Chains) : Prop :=
  ∀ fold link, chains.get? fold = some link → Linked d roles fold (paths fold) link

theorem Follows.initial (paths : Paths) : Follows d roles paths {} := by
  intro fold link h
  cases h

theorem Follows.step {paths : Paths} {chains : Chains} {s : Step} {c : Contribution}
    (hf : Follows d roles paths chains)
    (h : d.exportMethod roles chains s.owner s.method = .ok c) :
    Follows d roles (paths.after roles s) c.chains := by
  intro fold link hlink
  cases hr : roles.hasFold s.method.returns with
  | false =>
    rw [get?_exportMethod h (by simp [hr])] at hlink
    simpa [Paths.after, hr] using hf fold link hlink
  | true =>
    by_cases hname : fold = s.method.returns
    · subst hname
      obtain ⟨declared, arguments, own, head, hpass, hown, hhead, rfl⟩ :=
        (exportMethod_link_iff hr).mp h
      rw [Chains.get?_insert_self] at hlink
      obtain rfl := Option.some.inj hlink
      cases hhead with
      | fresh hplain hreceiver =>
        simpa [Paths.after, Paths.linksTo, hr, hplain] using
          Linked.fresh hplain hpass hown hreceiver
      | onward hfold hget =>
        simpa [Paths.after, Paths.linksTo, hr, hfold] using
          Linked.onward hfold (hf _ _ hget) hpass
    · rw [get?_exportMethod h fun _ => hname] at hlink
      simpa [Paths.after, hr, hname] using hf fold link hlink

theorem Follows.route {paths : Paths} {chains : Chains} {s : Step} {c : Contribution}
    (hf : Follows d roles paths chains)
    (h : d.exportMethod roles chains s.owner s.method = .ok c) :
    List.Forall₂ (Route.Makes d roles) (routeAt roles paths s).toList c.made.toList := by
  cases hr : roles.hasFold s.method.returns with
  | true =>
    obtain ⟨_, _, _, _, -, -, -, rfl⟩ := (exportMethod_link_iff hr).mp h
    simp [routeAt, hr]
  | false =>
    obtain ⟨p, hp, rfl⟩ := (exportMethod_terminal_iff hr).mp h
    have hmakes : Route.Makes d roles ⟨paths.linksTo s.owner, s⟩ (p.made d s.owner s.method) := by
      refine ⟨hr, chains, p, hp, rfl, ?_⟩
      have hchain := hp.chain
      cases hfold : s.owner.fold with
      | false =>
        rw [hfold] at hchain
        rw [hchain]
        exact ⟨rfl, by simp [Paths.linksTo, hfold]⟩
      | true =>
        rw [hfold] at hchain
        obtain ⟨link, hget, hlink⟩ := hchain
        rw [hlink]
        exact ⟨rfl, by simpa [Paths.linksTo, hfold] using hf _ _ hget⟩
    simpa [routeAt, hr] using hmakes

theorem exportMethods_follow_routes {i : Interface} {ms : List Method} {paths : Paths}
    {chains last : Chains} {exports : List Export} (hf : Follows d roles paths chains)
    (h : d.exportMethods roles i chains ms = .ok (exports, last)) :
    List.Forall₂ (Route.Makes d roles) (routesFrom roles paths (stepsOf i ms)) exports ∧
      Follows d roles ((stepsOf i ms).foldl (·.after roles ·) paths) last := by
  induction ms generalizing paths chains exports with
  | nil =>
    obtain ⟨rfl, rfl⟩ := Prod.mk.inj (pure_eq_ok.mp h)
    exact ⟨.nil, hf⟩
  | cons m ms ih =>
    obtain ⟨c, rest, hc, hrest, rfl⟩ := exportMethods_cons_ok.mp h
    have hfirst := Follows.route (s := ⟨i, m⟩) hf hc
    obtain ⟨hlater, hlast⟩ := ih (Follows.step (s := ⟨i, m⟩) hf hc) hrest
    exact ⟨List.rel_append hfirst hlater, hlast⟩

theorem exportInterfaces_follow_routes {is : List Interface} {paths : Paths} {chains : Chains}
    {chapters : List Chapter} (hf : Follows d roles paths chains)
    (h : d.exportInterfaces roles chains is = .ok chapters) :
    List.Forall₂ (Route.Makes d roles) (routesFrom roles paths (allSteps is))
      (chapters.flatMap (·.exports)) := by
  induction is generalizing paths chains chapters with
  | nil =>
    obtain rfl := pure_eq_ok.mp h
    exact .nil
  | cons i is ih =>
    obtain ⟨exports, middle, rest, hexports, hrest, rfl⟩ := exportInterfaces_cons_ok.mp h
    obtain ⟨hfirst, hmiddle⟩ := exportMethods_follow_routes hf hexports
    rw [allSteps, List.flatMap_cons, routesFrom_append, List.flatMap_cons]
    exact List.rel_append hfirst (ih hmiddle hrest)

/-- The exports of a description are, in order, the exports at the ends of its routes. -/
theorem exports_follow_routes {api : Api} {chapters : List Chapter}
    (h : d.chapters api = .ok chapters) :
    List.Forall₂ (Route.Makes d (Roles.ofApi api)) (routes api)
      (chapters.flatMap (·.exports)) :=
  exportInterfaces_follow_routes (Follows.initial _) (chapters_eq_ok_iff.mp h).2

end Bindery.Dialect

import Bindery.Host.Dialect
import Bindery.Proofs.Api.Sound
import Bindery.Proofs.Export.Run
import Mathlib.Data.String.Basic

/-!
# Independent interfaces commute

A method reads one chain at most, that of its owner, and writes one chain at most, that of the fold
it returns. So the methods of an owner do the same whatever else the chains hold: they make the same
exports and write the same links. When neither of two interfaces writes what the other reads, and
no fold is written by both, they can be exported in either order, with the same exports and the
same chains in the end. The main statement is `swap_adjacent`.
-/
namespace Bindery

namespace Chains

theorem insertLink_of_lt {fold name : String} (h : fold < name) (link other : Link)
    (rest : List (String × Link)) :
    insertLink fold link ((name, other) :: rest) = (fold, link) :: (name, other) :: rest := by
  simp [insertLink, h]

theorem insertLink_of_gt {fold name : String} (h : name < fold) (link other : Link)
    (rest : List (String × Link)) :
    insertLink fold link ((name, other) :: rest) = (name, other) :: insertLink fold link rest := by
  simp [insertLink, h.asymm, h.ne']

theorem insertLink_self (name : String) (link other : Link) (rest : List (String × Link)) :
    insertLink name link ((name, other) :: rest) = (name, link) :: rest := by
  simp [insertLink]

theorem insertLink_comm_of_lt {first second : String} (h : first < second) (link other : Link)
    (links : List (String × Link)) :
    insertLink first link (insertLink second other links) =
      insertLink second other (insertLink first link links) := by
  induction links with
  | nil => rw [insertLink, insertLink, insertLink_of_lt h, insertLink_of_gt h, insertLink]
  | cons head rest ih =>
    obtain ⟨name, old⟩ := head
    rcases lt_trichotomy second name with hs | rfl | hs
    · have hf := h.trans hs
      rw [insertLink_of_lt hs, insertLink_of_lt h, insertLink_of_lt hf, insertLink_of_gt h,
        insertLink_of_lt hs]
    · rw [insertLink_self, insertLink_of_lt h, insertLink_of_lt h, insertLink_of_gt h,
        insertLink_self]
    · rw [insertLink_of_gt hs]
      rcases lt_trichotomy first name with hf | rfl | hf
      · rw [insertLink_of_lt hf, insertLink_of_lt hf, insertLink_of_gt h, insertLink_of_gt hs]
      · rw [insertLink_self, insertLink_self, insertLink_of_gt h]
      · rw [insertLink_of_gt hf, insertLink_of_gt hf, insertLink_of_gt hs, ih]

theorem insert_comm {first second : String} (h : first ≠ second) (chains : Chains)
    (link other : Link) :
    (chains.insert first link).insert second other =
      (chains.insert second other).insert first link := by
  rcases lt_or_gt_of_ne h with hlt | hgt
  · exact congrArg Chains.mk (insertLink_comm_of_lt hlt link other chains.links).symm
  · exact congrArg Chains.mk (insertLink_comm_of_lt hgt other link chains.links)

/-- The chains after links were written one by one. -/
def insertAll (chains : Chains) (written : List (String × Link)) : Chains :=
  written.foldl (fun chains w => chains.insert w.1 w.2) chains

theorem insertAll_append (chains : Chains) (early late : List (String × Link)) :
    chains.insertAll (early ++ late) = (chains.insertAll early).insertAll late := by
  simp [insertAll]

theorem get?_insertAll_of_ne {name : String} {written : List (String × Link)} (chains : Chains)
    (h : ∀ w ∈ written, w.1 ≠ name) : (chains.insertAll written).get? name = chains.get? name := by
  induction written generalizing chains with
  | nil => rfl
  | cons w written ih =>
    have hrest := ih (chains.insert w.1 w.2) fun v hv => h v (List.mem_cons_of_mem w hv)
    have hfirst := get?_insert_of_ne (h w List.mem_cons_self).symm chains w.2
    exact hrest.trans hfirst

theorem get?_insertAll_congr {chains chains' : Chains} {name : String}
    (h : chains'.get? name = chains.get? name) (written : List (String × Link)) :
    (chains'.insertAll written).get? name = (chains.insertAll written).get? name := by
  induction written generalizing chains chains' with
  | nil => exact h
  | cons w written ih =>
    apply ih
    by_cases hw : name = w.1
    · rw [hw, get?_insert_self, get?_insert_self]
    · rw [get?_insert_of_ne hw, get?_insert_of_ne hw, h]

theorem insertAll_insert_comm {name : String} {written : List (String × Link)} (chains : Chains)
    (link : Link) (h : ∀ w ∈ written, w.1 ≠ name) :
    (chains.insert name link).insertAll written = (chains.insertAll written).insert name link := by
  induction written generalizing chains with
  | nil => rfl
  | cons w written ih =>
    have hswap := insert_comm (h w List.mem_cons_self).symm chains link w.2
    have hrest := ih (chains.insert w.1 w.2) fun v hv => h v (List.mem_cons_of_mem w hv)
    rw [← hswap] at hrest
    exact hrest

theorem insertAll_comm {written written' : List (String × Link)} (chains : Chains)
    (h : ∀ w ∈ written, ∀ w' ∈ written', w.1 ≠ w'.1) :
    (chains.insertAll written).insertAll written' =
      (chains.insertAll written').insertAll written := by
  induction written generalizing chains with
  | nil => rfl
  | cons w written ih =>
    have hrest := ih (chains.insert w.1 w.2) fun v hv => h v (List.mem_cons_of_mem w hv)
    have hfirst := insertAll_insert_comm chains w.2 fun w' hw' =>
      (h w List.mem_cons_self w' hw').symm
    rw [hfirst] at hrest
    exact hrest

end Chains

namespace Dialect
open Export Outcome
variable {d : Dialect} {roles : Roles} {chains chains' last : Chains} {i : Interface} {m : Method}

/-! ## What an owner reads and writes -/

theorem Parts.Fit.congr {p : Parts} (h : p.Fit d roles chains i m)
    (hsame : i.fold = true → chains'.get? i.name = chains.get? i.name) :
    p.Fit d roles chains' i m := by
  have hchain := h.chain
  refine { h with chain := ?_ }
  cases hf : i.fold with
  | false => simpa [hf] using hchain
  | true =>
    rw [hsame hf]
    simpa [hf] using hchain

theorem Head.congr {own : List String} {head : Link} (h : Head d chains i own head)
    (hsame : i.fold = true → chains'.get? i.name = chains.get? i.name) :
    Head d chains' i own head := by
  cases h with
  | fresh hf hr => exact .fresh hf hr
  | onward hf hl => exact .onward hf ((hsame hf).trans hl)

/-- A step writes the chain of the fold that its method returns, if any, and does the same under all
chains that agree on what its owner reads. -/
theorem exportMethod_elsewhere {c : Contribution} (h : d.exportMethod roles chains i m = .ok c) :
    ∃ written, (∀ w ∈ written, w.1 = m.returns ∧ roles.hasFold w.1 = true) ∧
      c.chains = chains.insertAll written ∧
      ∀ chains', (i.fold = true → chains'.get? i.name = chains.get? i.name) →
        d.exportMethod roles chains' i m = .ok ⟨c.made, chains'.insertAll written⟩ := by
  cases hf : roles.hasFold m.returns with
  | false =>
    obtain ⟨p, hp, rfl⟩ := (exportMethod_terminal_iff hf).mp h
    refine ⟨[], by simp, rfl, fun chains' hsame => ?_⟩
    exact (exportMethod_terminal_iff hf).mpr ⟨p, hp.congr hsame, rfl⟩
  | true =>
    obtain ⟨declared, arguments, own, head, hp, ho, hh, rfl⟩ := (exportMethod_link_iff hf).mp h
    refine ⟨[(m.returns, d.extend head m declared arguments)], by simp [hf], rfl,
      fun chains' hsame => ?_⟩
    exact (exportMethod_link_iff hf).mpr
      ⟨declared, arguments, own, head, hp, ho, hh.congr hsame, rfl⟩

/-- The run of an owner writes chains of folds that its methods return, and does the same under all
chains that agree on what the owner reads. -/
theorem exportMethods_elsewhere {ms : List Method} {exports : List Export}
    (h : d.exportMethods roles i chains ms = .ok (exports, last)) :
    ∃ written, (∀ w ∈ written, (∃ m ∈ ms, m.returns = w.1) ∧ roles.hasFold w.1 = true) ∧
      last = chains.insertAll written ∧
      ∀ chains', (i.fold = true → chains'.get? i.name = chains.get? i.name) →
        d.exportMethods roles i chains' ms = .ok (exports, chains'.insertAll written) := by
  induction ms generalizing chains exports with
  | nil =>
    obtain ⟨rfl, rfl⟩ := Prod.mk.inj (pure_eq_ok.mp h)
    exact ⟨[], by simp, rfl, fun chains' _ => rfl⟩
  | cons m ms ih =>
    obtain ⟨c, rest, hc, hr, rfl⟩ := exportMethods_cons_ok.mp h
    obtain ⟨first, hfirst, hnext, hstep⟩ := exportMethod_elsewhere hc
    obtain ⟨more, hmore, rfl, hrun⟩ := ih hr
    refine ⟨first ++ more, ?_, by rw [hnext, Chains.insertAll_append], ?_⟩
    · intro w hw
      rcases List.mem_append.mp hw with hw | hw
      · obtain ⟨hname, hfold⟩ := hfirst w hw
        exact ⟨⟨m, List.mem_cons_self, hname.symm⟩, hfold⟩
      · obtain ⟨⟨n, hn, hname⟩, hfold⟩ := hmore w hw
        exact ⟨⟨n, List.mem_cons_of_mem m hn, hname⟩, hfold⟩
    · intro chains' hsame
      -- The step writes the same link on both sides, so the owner goes on to read the same chain.
      have hagree : i.fold = true →
          (chains'.insertAll first).get? i.name = c.chains.get? i.name := by
        intro hf
        rw [hnext]
        exact Chains.get?_insertAll_congr (hsame hf) first
      rw [Chains.insertAll_append]
      exact exportMethods_cons_ok.mpr ⟨_, rest, hstep chains' hsame, hrun _ hagree, rfl⟩

/-- Neither of two interfaces leads to the other, and no fold is returned by methods of both. -/
structure Independent (roles : Roles) (x y : Interface) : Prop where
  onward : y.fold = true → ∀ m ∈ x.methods, roles.hasFold m.returns = true → m.returns ≠ y.name
  back : x.fold = true → ∀ m ∈ y.methods, roles.hasFold m.returns = true → m.returns ≠ x.name
  apart : ∀ m ∈ x.methods, ∀ n ∈ y.methods, roles.hasFold m.returns = true → m.returns ≠ n.returns

theorem exportInterface_swap {x y : Interface} (hind : Independent roles x y)
    {ex ey : List Export} {middle : Chains}
    (hx : d.exportInterface roles chains x = .ok (ex, middle))
    (hy : d.exportInterface roles middle y = .ok (ey, last)) :
    ∃ middle', d.exportInterface roles chains y = .ok (ey, middle') ∧
      d.exportInterface roles middle' x = .ok (ex, last) := by
  obtain ⟨wx, hwx, rfl, hrunx⟩ := exportMethods_elsewhere hx
  obtain ⟨wy, hwy, rfl, hruny⟩ := exportMethods_elsewhere hy
  have hready : y.fold = true → chains.get? y.name = (chains.insertAll wx).get? y.name := by
    intro hf
    refine (Chains.get?_insertAll_of_ne chains fun w hw he => ?_).symm
    obtain ⟨⟨m, hm, hname⟩, hfold⟩ := hwx w hw
    exact hind.onward hf m hm (hname ▸ hfold) (hname.trans he)
  have hreadx : x.fold = true → (chains.insertAll wy).get? x.name = chains.get? x.name := by
    intro hf
    refine Chains.get?_insertAll_of_ne chains fun w hw he => ?_
    obtain ⟨⟨m, hm, hname⟩, hfold⟩ := hwy w hw
    exact hind.back hf m hm (hname ▸ hfold) (hname.trans he)
  have hapart : ∀ w ∈ wx, ∀ w' ∈ wy, w.1 ≠ w'.1 := by
    intro w hw w' hw' he
    obtain ⟨⟨m, hm, hname⟩, hfold⟩ := hwx w hw
    obtain ⟨⟨n, hn, hname'⟩, -⟩ := hwy w' hw'
    exact hind.apart m hm n hn (hname ▸ hfold) (hname.trans (he.trans hname'.symm))
  refine ⟨chains.insertAll wy, hruny chains hready, ?_⟩
  rw [Chains.insertAll_comm chains hapart]
  exact hrunx (chains.insertAll wy) hreadx

/-- The chapter at the position and the one after it have changed places. -/
inductive SwappedAt : Nat → List Chapter → List Chapter → Prop
  | here {first second : Chapter} {late : List Chapter} :
      SwappedAt 0 (first :: second :: late) (second :: first :: late)
  | later {position : Nat} {chapter : Chapter} {chapters chapters' : List Chapter} :
      SwappedAt position chapters chapters' →
      SwappedAt (position + 1) (chapter :: chapters) (chapter :: chapters')

theorem exportInterfaces_swap {before after : List Interface} {x y : Interface}
    (hind : Independent roles x y) {chapters : List Chapter}
    (h : d.exportInterfaces roles chains (before ++ x :: y :: after) = .ok chapters) :
    ∃ chapters', d.exportInterfaces roles chains (before ++ y :: x :: after) = .ok chapters' ∧
      SwappedAt before.length chapters chapters' := by
  induction before generalizing chains chapters with
  | nil =>
    obtain ⟨ex, middle, rest, hx, hr, rfl⟩ := exportInterfaces_cons_ok.mp h
    obtain ⟨ey, last, late, hy, hl, rfl⟩ := exportInterfaces_cons_ok.mp hr
    obtain ⟨middle', hy', hx'⟩ := exportInterface_swap hind hx hy
    have hrest := exportInterfaces_cons_ok.mpr ⟨ex, last, late, hx', hl, rfl⟩
    exact ⟨_, exportInterfaces_cons_ok.mpr ⟨ey, middle', _, hy', hrest, rfl⟩, .here⟩
  | cons i before ih =>
    obtain ⟨exports, next, rest, he, hr, rfl⟩ := exportInterfaces_cons_ok.mp h
    obtain ⟨rest', hswap, hat⟩ := ih hr
    exact ⟨_, exportInterfaces_cons_ok.mpr ⟨exports, next, rest', he, hswap, rfl⟩, .later hat⟩

/-! ## Whole descriptions -/

section Roles
variable {roles' : Roles} (hhandle : ∀ name, roles'.hasHandle name = roles.hasHandle name)
  (hfold : ∀ name, roles'.hasFold name = roles.hasFold name)
include hhandle

theorem closed?_congr (m : Method) : ExportKind.closed? roles' m = ExportKind.closed? roles m := by
  simp only [ExportKind.closed?, hhandle]

theorem ofMethod_congr (m : Method) :
    ExportKind.ofMethod roles' m = ExportKind.ofMethod roles m := by
  simp only [ExportKind.ofMethod, closed?_congr hhandle, hhandle]

include hfold

theorem exportMethod_congr (chains : Chains) (i : Interface) (m : Method) :
    d.exportMethod roles' chains i m = d.exportMethod roles chains i m := by
  simp only [exportMethod, inputs, closing, closed?_congr hhandle, ofMethod_congr hhandle, hfold]

theorem exportMethods_congr (chains : Chains) (i : Interface) (ms : List Method) :
    d.exportMethods roles' i chains ms = d.exportMethods roles i chains ms := by
  induction ms generalizing chains with
  | nil => rfl
  | cons m ms ih => simp only [exportMethods, exportMethod_congr hhandle hfold, ih]

theorem exportInterfaces_congr (chains : Chains) (is : List Interface) :
    d.exportInterfaces roles' chains is = d.exportInterfaces roles chains is := by
  induction is generalizing chains with
  | nil => rfl
  | cons i is ih =>
    simp only [exportInterfaces, exportInterface, exportMethods_congr hhandle hfold, ih]

end Roles

theorem perm_swap {api : Api} {before after : List Interface} {x y : Interface}
    (hapi : api.interfaces = before ++ x :: y :: after) :
    api.interfaces.Perm (before ++ y :: x :: after) := by
  rw [hapi]
  exact (List.Perm.swap y x after).append_left before

theorem hasHandle_reorder {api : Api} {is : List Interface} (hp : api.interfaces.Perm is)
    (name : String) :
    (Roles.ofApi { api with interfaces := is }).hasHandle name =
      (Roles.ofApi api).hasHandle name := by
  rw [Bool.eq_iff_iff, Roles.hasHandle_ofApi, Roles.hasHandle_ofApi]
  simp only [hp.mem_iff]

theorem hasFold_reorder {api : Api} {is : List Interface} (hp : api.interfaces.Perm is)
    (name : String) :
    (Roles.ofApi { api with interfaces := is }).hasFold name = (Roles.ofApi api).hasFold name := by
  rw [Bool.eq_iff_iff, Roles.hasFold_ofApi, Roles.hasFold_ofApi]
  simp only [hp.mem_iff]

theorem chaptersWith_swap {api : Api} {before after : List Interface} {x y : Interface}
    (hapi : api.interfaces = before ++ x :: y :: after) (hind : Independent roles x y)
    {chapters : List Chapter} (h : d.chaptersWith roles api = .ok chapters) :
    ∃ chapters', d.chaptersWith roles { api with interfaces := before ++ y :: x :: after } =
      .ok chapters' ∧ SwappedAt before.length chapters chapters' := by
  obtain ⟨hv, he⟩ := chaptersWith_eq_ok_iff.mp h
  have hsound := (Api.validate_eq_ok_iff.mp hv).reorder (perm_swap hapi)
  rw [hapi] at he
  obtain ⟨chapters', hswap, hat⟩ := exportInterfaces_swap hind he
  exact ⟨chapters', chaptersWith_eq_ok_iff.mpr ⟨Api.validate_eq_ok_iff.mpr hsound, hswap⟩, hat⟩

theorem chapters_swap {api : Api} {before after : List Interface} {x y : Interface}
    (hapi : api.interfaces = before ++ x :: y :: after)
    (hind : Independent (Roles.ofApi api) x y) {chapters : List Chapter}
    (h : d.chapters api = .ok chapters) :
    ∃ chapters', d.chapters { api with interfaces := before ++ y :: x :: after } = .ok chapters' ∧
      SwappedAt before.length chapters chapters' := by
  obtain ⟨chapters', hswap, hat⟩ := chaptersWith_swap hapi hind h
  -- The roles are read from the interfaces in their new order, which holds the same names.
  have hroles := hasHandle_reorder (perm_swap hapi)
  refine ⟨chapters', ?_, hat⟩
  rw [Dialect.chapters, chaptersWith,
    exportInterfaces_congr hroles (hasFold_reorder (perm_swap hapi))]
  exact hswap

/-- Independent interfaces can be exported in either order: from any chains they make the same
exports and leave the same chains. Where they are neighbours in a description, swapping them swaps
their chapters and changes nothing else, under roles that are given as well as under those of the
description. -/
theorem swap_adjacent (d : Dialect) :
    (∀ roles chains x y ex ey middle last, Independent roles x y →
      d.exportInterface roles chains x = .ok (ex, middle) →
      d.exportInterface roles middle y = .ok (ey, last) →
      ∃ middle', d.exportInterface roles chains y = .ok (ey, middle') ∧
        d.exportInterface roles middle' x = .ok (ex, last)) ∧
    (∀ roles (api : Api) before x y after chapters,
      api.interfaces = before ++ x :: y :: after → Independent roles x y →
      d.chaptersWith roles api = .ok chapters →
      ∃ chapters', d.chaptersWith roles { api with interfaces := before ++ y :: x :: after } =
        .ok chapters' ∧ SwappedAt before.length chapters chapters') ∧
    ∀ (api : Api) before x y after chapters,
      api.interfaces = before ++ x :: y :: after → Independent (Roles.ofApi api) x y →
      d.chapters api = .ok chapters →
      ∃ chapters', d.chapters { api with interfaces := before ++ y :: x :: after } =
        .ok chapters' ∧ SwappedAt before.length chapters chapters' := by
  refine ⟨?_, ?_, ?_⟩
  · intro roles chains x y ex ey middle last hind hx hy
    exact exportInterface_swap hind hx hy
  · intro roles api before x y after chapters hapi hind h
    exact chaptersWith_swap hapi hind h
  · intro api before x y after chapters hapi hind h
    exact chapters_swap hapi hind h

/-- Two folds that lead to themselves and start at one singleton change places. -/
theorem swap_adjacent_folds :
    let root : Interface :=
      { name := "Root", singleton := true
        methods := [
          { name := "left", returns := "Left" },
          { name := "right", returns := "Right" }] }
    let left : Interface :=
      { name := "Left", fold := true
        methods := [
          { name := "more", returns := "Left" },
          { name := "text", returns := "string" }] }
    let right : Interface :=
      { name := "Right", fold := true
        methods := [
          { name := "more", returns := "Right" },
          { name := "text", returns := "string" }] }
    ∃ chapters chapters', Host.dialect.chapters { interfaces := [root, left, right] } =
        .ok chapters ∧
      Host.dialect.chapters { interfaces := [root, right, left] } = .ok chapters' ∧
      SwappedAt 1 chapters chapters' := by
  intro root left right
  obtain ⟨chapters, h⟩ : Succeeds (Host.dialect.chapters { interfaces := [root, left, right] }) :=
    .of_isOk (by decide +kernel)
  have hind : Independent (Roles.ofApi { interfaces := [root, left, right] }) left right :=
    ⟨by decide, by decide, by decide⟩
  obtain ⟨chapters', h', hat⟩ := (swap_adjacent Host.dialect).2.2
    { interfaces := [root, left, right] } [root] left right [] chapters rfl hind h
  exact ⟨chapters, chapters', h, h', hat⟩

end Dialect
end Bindery

import Bindery.Proofs.Api.Sound
import Bindery.Proofs.Export.Accounting

/-!
# Exports do not depend on each other

A method that returns no fold leaves the chains alone, so no other method can tell whether it is
there. Any set of such methods can be removed from a description, wherever they stand: the
description without them has the same exports in the same order, less those of the removed methods.
Read the other way, a new method that returns no fold changes no export that was there before. The
main statement is `removal_keeps_rest`.
-/
namespace Bindery

/-- The elements whose positions are not removed. -/
def removeAt {α : Type} (removed : Nat → Bool) (xs : List α) : List α :=
  (xs.zipIdx.filter fun x => !removed x.2).map (·.1)

theorem removeAt_cons {α : Type} (removed : Nat → Bool) (x : α) (xs : List α) :
    removeAt removed (x :: xs) =
      (if removed 0 then [] else [x]) ++ removeAt (fun k => removed (k + 1)) xs := by
  cases h : removed 0 <;>
    simp [removeAt, h, List.zipIdx_succ, List.filter_map, Function.comp_def]

theorem mem_of_mem_removeAt {α : Type} {removed : Nat → Bool} {xs : List α} {x : α}
    (h : x ∈ removeAt removed xs) : x ∈ xs := by
  obtain ⟨⟨_, k⟩, hk, rfl⟩ := List.mem_map.mp h
  exact List.fst_mem_of_mem_zipIdx (List.mem_of_mem_filter hk)

def Interface.without (i : Interface) (removed : Nat → Bool) : Interface :=
  { i with methods := removeAt removed i.methods }

/-- The interfaces without the methods at the removed positions: first comes the position of the
interface and then that of the method in it. -/
def withoutMethods (removed : Nat → Nat → Bool) (is : List Interface) : List Interface :=
  is.mapIdx fun k i => i.without (removed k)

def Api.without (api : Api) (removed : Nat → Nat → Bool) : Api :=
  { api with interfaces := withoutMethods removed api.interfaces }

theorem withoutMethods_cons (removed : Nat → Nat → Bool) (i : Interface) (is : List Interface) :
    withoutMethods removed (i :: is) =
      i.without (removed 0) :: withoutMethods (fun k => removed (k + 1)) is := by
  simp [withoutMethods, List.mapIdx_cons]

theorem mem_withoutMethods {removed : Nat → Nat → Bool} {is : List Interface} {i : Interface}
    (h : i ∈ withoutMethods removed is) : ∃ j ∈ is, ∃ gone, i = j.without gone := by
  obtain ⟨k, hk, rfl⟩ := List.mem_mapIdx.mp h
  exact ⟨is[k], List.getElem_mem hk, removed k, rfl⟩

/-- Interfaces that are told apart by anything but their methods keep their names and their
order. -/
theorem map_name_filter_withoutMethods (model : Interface → Bool)
    (hmodel : ∀ i gone, model (i.without gone) = model i) (removed : Nat → Nat → Bool)
    (is : List Interface) :
    ((withoutMethods removed is).filter model).map (·.name) = (is.filter model).map (·.name) := by
  induction is generalizing removed with
  | nil => rfl
  | cons i is ih =>
    rw [withoutMethods_cons, List.filter_cons, List.filter_cons, hmodel]
    split
    · rw [List.map_cons, List.map_cons, ih]
      rfl
    · exact ih _

theorem map_name_withoutMethods (removed : Nat → Nat → Bool) (is : List Interface) :
    (withoutMethods removed is).map (·.name) = is.map (·.name) := by
  have hall := map_name_filter_withoutMethods (fun _ => true) (fun _ _ => rfl) removed is
  simpa only [List.filter_true] using hall

theorem Api.Sound.without {api : Api} (h : api.Sound) (removed : Nat → Nat → Bool) :
    (api.without removed).Sound := by
  have hinterfaces := map_name_withoutMethods removed api.interfaces
  have hnames : (api.without removed).names = api.names := by
    simp only [Api.names, Api.without, hinterfaces]
  refine { h with interfaceNames := ?_, fields := ?_, interfaces := ?_ }
  · rw [Api.without, hinterfaces]
    exact h.interfaceNames
  · rw [hnames]
    exact h.fields
  · intro i hi
    obtain ⟨j, hj, gone, rfl⟩ := mem_withoutMethods hi
    have hsound := h.interfaces j hj
    rw [hnames]
    exact ⟨hsound.model, fun m hm => hsound.methods m (mem_of_mem_removeAt hm)⟩

theorem Roles.ofApi_without (api : Api) (removed : Nat → Nat → Bool) :
    Roles.ofApi (api.without removed) = Roles.ofApi api := by
  have hhandles := map_name_filter_withoutMethods (·.handle) (fun _ _ => rfl) removed
    api.interfaces
  have hfolds := map_name_filter_withoutMethods (·.fold) (fun _ _ => rfl) removed
    api.interfaces
  simp only [Roles.ofApi, Api.handles, Api.folds, Api.without, hhandles, hfolds]

namespace Dialect
open Export Outcome
variable {d : Dialect} {roles : Roles} {chains last : Chains} {i : Interface} {m : Method}

/-- The exports that are left when methods are removed. The methods that return no fold stand
beside their exports, and an export goes when its method is at a removed position. -/
def remainingExports (roles : Roles) (removed : Nat → Bool) (ms : List Method)
    (exports : List Export) : List Export :=
  (((ms.zipIdx.filter fun m => !roles.hasFold m.1.returns).zip exports).filter
    fun made => !removed made.1.2).map (·.2)

theorem remainingExports_link (hf : roles.hasFold m.returns = true) (removed : Nat → Bool)
    (ms : List Method) (exports : List Export) :
    remainingExports roles removed (m :: ms) exports =
      remainingExports roles (fun k => removed (k + 1)) ms exports := by
  simp [remainingExports, hf, List.zipIdx_succ, List.filter_map, List.zip_map_left,
    Function.comp_def]

theorem remainingExports_terminal (hf : roles.hasFold m.returns = false) (removed : Nat → Bool)
    (ms : List Method) (e : Export) (exports : List Export) :
    remainingExports roles removed (m :: ms) (e :: exports) = (if removed 0 then [] else [e]) ++
      remainingExports roles (fun k => removed (k + 1)) ms exports := by
  cases h : removed 0 <;>
    simp [remainingExports, hf, h, List.zipIdx_succ, List.filter_map, List.zip_map_left,
      Function.comp_def]

/-- The chapters that are left when methods are removed. -/
def remainingChapters (roles : Roles) (removed : Nat → Nat → Bool) (is : List Interface)
    (chapters : List Chapter) : List Chapter :=
  (is.zip chapters).mapIdx fun k ic =>
    { ic.2 with exports := remainingExports roles (removed k) ic.1.methods ic.2.exports }

/-- Only methods that return no fold are removed. -/
def RemovesTerminal (roles : Roles) (removed : Nat → Nat → Bool) (is : List Interface) : Prop :=
  ∀ i k, is[k]? = some i → ∀ m j, i.methods[j]? = some m → removed k j = true →
    roles.hasFold m.returns = false

instance (roles : Roles) (removed : Nat → Nat → Bool) (is : List Interface) :
    Decidable (RemovesTerminal roles removed is) :=
  decidable_of_iff (∀ i ∈ is.zipIdx, ∀ m ∈ i.1.methods.zipIdx, removed i.2 m.2 = true →
      roles.hasFold m.1.returns = false) <| by
    simp only [RemovesTerminal, List.mem_zipIdx_iff_getElem?, Prod.forall]

/-- Each interface has its chapter, with an export for each method that returns no fold. -/
def Tally (roles : Roles) (is : List Interface) (chapters : List Chapter) : Prop :=
  List.Forall₂ (fun i c => c.name = i.name ∧ c.exports.length = (terminal roles i.methods).length)
    is chapters

theorem tally_exportInterfaces {is : List Interface} {chapters : List Chapter}
    (h : d.exportInterfaces roles chains is = .ok chapters) : Tally roles is chapters := by
  induction is generalizing chains chapters with
  | nil =>
    obtain rfl := pure_eq_ok.mp h
    exact .nil
  | cons i is ih =>
    obtain ⟨exports, middle, rest, he, hr, rfl⟩ := exportInterfaces_cons_ok.mp h
    exact .cons ⟨rfl, length_exportMethods he⟩ (ih hr)

theorem exportMethods_without {removed : Nat → Bool} {ms : List Method} {exports : List Export}
    (hterminal : ∀ m k, ms[k]? = some m → removed k = true → roles.hasFold m.returns = false)
    (h : d.exportMethods roles i chains ms = .ok (exports, last)) :
    d.exportMethods roles i chains (removeAt removed ms) =
      .ok (remainingExports roles removed ms exports, last) := by
  induction ms generalizing removed chains exports with
  | nil =>
    obtain ⟨rfl, rfl⟩ := Prod.mk.inj (pure_eq_ok.mp h)
    rfl
  | cons m ms ih =>
    obtain ⟨c, rest, hc, hr, rfl⟩ := exportMethods_cons_ok.mp h
    have hrest := ih (fun n k hn hk => hterminal n (k + 1) hn hk) hr
    cases hf : roles.hasFold m.returns with
    | true =>
      have hkept : removed 0 = false := by
        by_contra hgone
        simp [hterminal m 0 rfl (by simpa using hgone)] at hf
      obtain ⟨_, _, _, _, -, -, -, rfl⟩ := (exportMethod_link_iff hf).mp hc
      rw [removeAt_cons, hkept, remainingExports_link hf]
      exact exportMethods_cons_ok.mpr ⟨_, _, hc, hrest, rfl⟩
    | false =>
      obtain ⟨p, -, rfl⟩ := (exportMethod_terminal_iff hf).mp hc
      rw [removeAt_cons, Option.toList_some, List.singleton_append, remainingExports_terminal hf]
      cases removed 0 with
      | true => exact hrest
      | false => exact exportMethods_cons_ok.mpr ⟨_, _, hc, hrest, rfl⟩

/-- The methods of an owner are exported one by one, whatever other methods it has. -/
theorem exportMethods_owner (removed : Nat → Bool) (ms : List Method) :
    d.exportMethods roles (i.without removed) chains ms = d.exportMethods roles i chains ms := by
  induction ms generalizing chains with
  | nil => rfl
  | cons m ms ih =>
    have hstep : d.exportMethod roles chains (i.without removed) m =
        d.exportMethod roles chains i m := rfl
    simp only [exportMethods, hstep, ih]

theorem exportInterfaces_without {removed : Nat → Nat → Bool} {is : List Interface}
    {chapters : List Chapter} (hterminal : RemovesTerminal roles removed is)
    (h : d.exportInterfaces roles chains is = .ok chapters) :
    d.exportInterfaces roles chains (withoutMethods removed is) =
      .ok (remainingChapters roles removed is chapters) := by
  induction is generalizing removed chains chapters with
  | nil =>
    obtain rfl := pure_eq_ok.mp h
    rfl
  | cons i is ih =>
    obtain ⟨exports, middle, rest, he, hr, rfl⟩ := exportInterfaces_cons_ok.mp h
    have hfirst := exportMethods_without (hterminal i 0 rfl) he
    have hrest := ih (fun j k hj => hterminal j (k + 1) hj) hr
    rw [withoutMethods_cons, exportInterfaces_cons_ok]
    refine ⟨_, middle, _, (exportMethods_owner _ _).trans hfirst, hrest, ?_⟩
    simp [remainingChapters, List.mapIdx_cons, Interface.without]

theorem chaptersWith_without {api : Api} {removed : Nat → Nat → Bool} {chapters : List Chapter}
    (hterminal : RemovesTerminal roles removed api.interfaces)
    (h : d.chaptersWith roles api = .ok chapters) :
    Tally roles api.interfaces chapters ∧
      d.chaptersWith roles (api.without removed) =
        .ok (remainingChapters roles removed api.interfaces chapters) := by
  obtain ⟨hv, he⟩ := chaptersWith_eq_ok_iff.mp h
  have hsound := (Api.validate_eq_ok_iff.mp hv).without removed
  exact ⟨tally_exportInterfaces he, chaptersWith_eq_ok_iff.mpr
    ⟨Api.validate_eq_ok_iff.mpr hsound, exportInterfaces_without hterminal he⟩⟩

/-- Whichever methods that return no fold are removed, a description that has chapters keeps them,
less the exports of the removed methods and with nothing else changed. This holds under roles that
are given as well as under those of the description. -/
theorem removal_keeps_rest (d : Dialect) :
    (∀ roles (api : Api) removed chapters, RemovesTerminal roles removed api.interfaces →
      d.chaptersWith roles api = .ok chapters →
      Tally roles api.interfaces chapters ∧
        d.chaptersWith roles (api.without removed) =
          .ok (remainingChapters roles removed api.interfaces chapters)) ∧
    ∀ (api : Api) removed chapters, RemovesTerminal (Roles.ofApi api) removed api.interfaces →
      d.chapters api = .ok chapters →
      Tally (Roles.ofApi api) api.interfaces chapters ∧
        d.chapters (api.without removed) =
          .ok (remainingChapters (Roles.ofApi api) removed api.interfaces chapters) := by
  constructor
  · intro roles api removed chapters hterminal h
    exact chaptersWith_without hterminal h
  · intro api removed chapters hterminal h
    -- The roles come from the names and models of the interfaces, not from their methods.
    rw [Dialect.chapters, Roles.ofApi_without]
    exact chaptersWith_without hterminal h

/-- The store of blobs loses a method of each kind: one that closes, one of a handle and one of a
fold. -/
theorem removal_keeps_rest_stores :
    let removed : Nat → Nat → Bool := fun k j => [(0, 1), (1, 0), (3, 1)].contains (k, j)
    RemovesTerminal (Roles.ofApi Api.stores) removed Api.stores.interfaces ∧
    ∃ chapters, Host.dialect.chapters Api.stores = .ok chapters ∧
      Host.dialect.chapters (Api.stores.without removed) = .ok
        (remainingChapters (Roles.ofApi Api.stores) removed Api.stores.interfaces chapters) := by
  intro removed
  have hterminal : RemovesTerminal (Roles.ofApi Api.stores) removed Api.stores.interfaces := by
    decide +kernel
  obtain ⟨chapters, h⟩ : Succeeds (Host.dialect.chapters Api.stores) := .of_isOk (by decide +kernel)
  exact ⟨hterminal, chapters, h,
    ((removal_keeps_rest Host.dialect).2 Api.stores removed chapters hterminal h).2⟩

end Dialect
end Bindery

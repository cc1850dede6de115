import Bindery.Proofs.Api.Readable
import Bindery.Proofs.Export.Run

/-!
# Seeding

A fold is seeded once a method that returns it has been exported. A dialect that can spell every
part of a readable method stops at one place only: at the first interface that is a fold, has a
method, and comes before any method that returns it. The main statement,
`chapters_eq_error_iff`, gives the failures of such a dialect exactly.
-/
namespace Bindery

/-- A fold with methods that is not returned by any method of the interfaces before it. -/
def Unseeded (past : List Interface) (i : Interface) : Prop :=
  i.fold = true ∧ i.methods ≠ [] ∧ ∀ j ∈ past, ∀ m ∈ j.methods, m.returns ≠ i.name

instance (past : List Interface) (i : Interface) : Decidable (Unseeded past i) :=
  inferInstanceAs (Decidable (_ ∧ _ ∧ _))

/-- The first interface in declaration order that is unseeded. -/
def FirstUnseeded (interfaces : List Interface) (i : Interface) : Prop :=
  ∃ before after, interfaces = before ++ i :: after ∧ Unseeded before i ∧
    ∀ early j late, before = early ++ j :: late → ¬ Unseeded early j

/-- Finds the first unseeded interface after those that are past. -/
def firstUnseeded? (past : List Interface) : List Interface → Option Interface
  | [] => none
  | i :: is => if Unseeded past i then some i else firstUnseeded? (past ++ [i]) is

theorem firstUnseeded?_eq_some {past is : List Interface} {i : Interface}
    (h : firstUnseeded? past is = some i) :
    ∃ before after, is = before ++ i :: after ∧ Unseeded (past ++ before) i ∧
      ∀ early j late, before = early ++ j :: late → ¬ Unseeded (past ++ early) j := by
  induction is generalizing past with
  | nil => cases h
  | cons k is ih =>
    unfold firstUnseeded? at h
    split at h
    · rename_i hk
      obtain rfl := Option.some.inj h
      refine ⟨[], is, rfl, by simpa using hk, ?_⟩
      intro early j late he
      exact absurd he.symm (List.append_ne_nil_of_right_ne_nil early (List.cons_ne_nil j late))
    · rename_i hk
      obtain ⟨before, after, rfl, hu, hall⟩ := ih h
      refine ⟨k :: before, after, rfl, by simpa using hu, ?_⟩
      intro early j late he
      cases early with
      | nil =>
        obtain ⟨rfl, -⟩ := List.cons.inj he
        simpa using hk
      | cons e early =>
        obtain ⟨rfl, ht⟩ := List.cons.inj he
        simpa using hall early j late ht

theorem firstUnseeded?_eq_none {past is : List Interface} (h : firstUnseeded? past is = none)
    {before after : List Interface} {i : Interface} (hs : is = before ++ i :: after) :
    ¬ Unseeded (past ++ before) i := by
  induction is generalizing past before with
  | nil => simp at hs
  | cons k is ih =>
    unfold firstUnseeded? at h
    split at h
    · cases h
    · rename_i hk
      cases before with
      | nil =>
        obtain ⟨rfl, -⟩ := List.cons.inj hs
        simpa using hk
      | cons b before =>
        obtain ⟨rfl, ht⟩ := List.cons.inj hs
        simpa using ih h ht

/-- There is one first unseeded interface at most. -/
theorem FirstUnseeded.unique {interfaces : List Interface} {i j : Interface}
    (hi : FirstUnseeded interfaces i) (hj : FirstUnseeded interfaces j) : i = j := by
  obtain ⟨before, after, rfl, hu, hall⟩ := hi
  obtain ⟨before', after', he, hu', hall'⟩ := hj
  rcases List.append_eq_append_iff.mp he with ⟨gap, rfl, hg⟩ | ⟨gap, rfl, hg⟩
  · cases gap with
    | nil => exact (List.cons.inj hg).1
    | cons g gap =>
      obtain ⟨rfl, -⟩ := List.cons.inj hg
      exact absurd hu (hall' before i gap rfl)
  · cases gap with
    | nil => exact (List.cons.inj hg).1.symm
    | cons g gap =>
      obtain ⟨rfl, -⟩ := List.cons.inj hg
      exact absurd hu' (hall before' j gap rfl)

theorem firstUnseeded?_eq_some_iff {interfaces : List Interface} {i : Interface} :
    firstUnseeded? [] interfaces = some i ↔ FirstUnseeded interfaces i := by
  constructor
  · exact firstUnseeded?_eq_some
  · intro h
    cases hf : firstUnseeded? [] interfaces with
    | none =>
      obtain ⟨before, after, hs, hu, -⟩ := h
      exact absurd hu (firstUnseeded?_eq_none hf hs)
    | some j => exact congrArg some (FirstUnseeded.unique (firstUnseeded?_eq_some hf) h)

namespace Dialect
open Export Outcome
variable {d : Dialect} {roles : Roles} {chains : Chains} {i : Interface} {m : Method}

/-- A dialect that spells every part of a method whose types can be read. -/
structure Complete (d : Dialect) : Prop where
  indexParam : ∀ index, Succeeds (d.indexParam index)
  objectAt : ∀ interface index, Succeeds (d.objectAt interface index)
  forget : ∀ object, Succeeds (d.forget object)
  chainEnd : Succeeds d.chainEnd
  bindChain : ∀ chain, Succeeds (d.bindChain chain)
  storing : ∀ interface call, Succeeds (d.storing interface call)
  declare : ∀ v : Variable, v.Readable → Succeeds (d.declare v)
  argument : ∀ v : Variable, v.Readable → Succeeds (d.argument v)
  reporting : ∀ m : Method, m.Readable → ∀ call, Succeeds (d.reporting m call)
  returning : ∀ m : Method, m.Readable → ∀ call, Succeeds (d.returning m call)
  result : ∀ m : Method, m.Readable → ∀ newHandle, Succeeds (d.result m newHandle)

namespace Complete
variable (hd : d.Complete)
include hd

theorem passParams {ps : List Variable} (hps : ∀ p ∈ ps, p.Readable) :
    Succeeds (d.passParams ps) := by
  induction ps with
  | nil => exact .pure _
  | cons p ps ih =>
    have hp := hps p List.mem_cons_self
    have hrest := ih fun q hq => hps q (List.mem_cons_of_mem p hq)
    exact (hd.declare p hp).bind fun _ _ => (hd.argument p hp).bind fun _ _ =>
      hrest.bind fun _ _ => .pure _

theorem inputs (roles : Roles) (i : Interface) (hm : m.Readable) :
    Succeeds (d.inputs roles i m) := by
  unfold Dialect.inputs
  split
  · exact (hd.objectAt _ _).bind fun _ _ => (hd.indexParam _).bind fun _ _ => .pure _
  · exact hd.passParams hm.params

theorem ownerParams (i : Interface) : Succeeds (d.ownerParams i) := by
  unfold Dialect.ownerParams
  split
  · exact (hd.indexParam ownIndex).bind fun _ _ => .pure _
  · exact .pure _

theorem owner (i : Interface) : Succeeds (d.owner i) := by
  unfold Dialect.owner
  split
  · exact hd.objectAt i.name ownIndex
  · split
    · exact hd.chainEnd
    · exact .pure _

theorem chainHead (i : Interface) (chain : Option Link) (own : List String) :
    Succeeds (d.chainHead i chain own) := by
  cases chain with
  | none => exact (hd.owner i).bind fun _ _ => .pure _
  | some link => exact .pure link

theorem opening (chain : Option Link) : Succeeds (d.opening chain) := by
  cases chain with
  | none => exact .pure _
  | some link => exact (hd.bindChain link.expr).bind fun _ _ => .pure _

theorem delivery (kind : ExportKind) (hm : m.Readable) (call : String) :
    Succeeds (d.delivery kind m call) := by
  unfold Dialect.delivery
  split
  · exact (hd.storing m.returns call).bind fun _ _ => .pure _
  · split
    · exact (hd.reporting m hm call).bind fun _ _ => .pure _
    · exact (hd.returning m hm call).bind fun _ _ => .pure _

theorem closing (roles : Roles) (i : Interface) (m : Method) :
    Succeeds (d.closing roles i m) := by
  unfold Dialect.closing
  split
  · exact (hd.objectAt _ _).bind fun object _ => (hd.forget object).bind fun _ _ => .pure _
  · exact .pure _

/-- A method with readable types is exported unless its owner is a fold without a chain. -/
theorem exportMethod (roles : Roles) (hm : m.Readable)
    (hc : i.fold = true → (chains.get? i.name).isSome) :
    Succeeds (d.exportMethod roles chains i m) := by
  have hchain : Succeeds (chainOf chains i) := by
    unfold chainOf
    split
    · rename_i hf
      obtain ⟨link, hl⟩ := Option.isSome_iff_exists.mp (hc hf)
      exact ⟨some link, by rw [hl]⟩
    · exact .pure _
  refine (hd.inputs roles i hm).bind fun ⟨declared, arguments⟩ _ =>
    (hd.ownerParams i).bind fun own _ => hchain.bind fun chain _ => ?_
  split
  · exact (hd.chainHead i chain own).bind fun _ _ => .pure _
  · exact (hd.owner i).bind fun _ _ => (hd.opening chain).bind fun _ _ =>
      (hd.delivery _ hm _).bind fun _ _ => (hd.closing roles i m).bind fun _ _ =>
        (hd.result m hm _).bind fun _ _ => .pure _

/-- A method of a fold without a chain is not exported. -/
theorem exportMethod_unseeded (roles : Roles) (hm : m.Readable) (hf : i.fold = true)
    (hc : chains.get? i.name = none) :
    d.exportMethod roles chains i m = .error (.unseededFold i.name) := by
  obtain ⟨⟨declared, arguments⟩, hi⟩ := hd.inputs roles i hm
  obtain ⟨own, ho⟩ := hd.ownerParams i
  simp [Dialect.exportMethod, hi, ho, chainOf, hf, hc]

theorem exportMethods (roles : Roles) {ms : List Method} (hms : ∀ m ∈ ms, m.Readable)
    (hc : i.fold = true → (chains.get? i.name).isSome) :
    Succeeds (d.exportMethods roles i chains ms) := by
  induction ms generalizing chains with
  | nil => exact .pure _
  | cons m ms ih =>
    refine (hd.exportMethod roles (hms m List.mem_cons_self) hc).bind fun c hm => ?_
    -- A step takes no chain away, so the owner still has its chain.
    have hc' : i.fold = true → (c.chains.get? i.name).isSome := fun hf =>
      (isSome_get?_exportMethod hm i.name).mpr (.inl (hc hf))
    exact (ih (fun n hn => hms n (List.mem_cons_of_mem m hn)) hc').bind fun _ _ => .pure _

theorem exportMethods_unseeded (roles : Roles) {ms : List Method} (hms : ∀ m ∈ ms, m.Readable)
    (hne : ms ≠ []) (hf : i.fold = true) (hc : chains.get? i.name = none) :
    d.exportMethods roles i chains ms = .error (.unseededFold i.name) := by
  obtain ⟨m, ms, rfl⟩ := List.exists_cons_of_ne_nil hne
  simp [Dialect.exportMethods, hd.exportMethod_unseeded roles (hms m List.mem_cons_self) hf hc]

end Complete

/-- The folds that have a chain are those that the methods of the past interfaces return. -/
def Seeded (roles : Roles) (past : List Interface) (chains : Chains) : Prop :=
  ∀ fold, roles.hasFold fold = true →
    ((chains.get? fold).isSome ↔ ∃ j ∈ past, ∃ m ∈ j.methods, m.returns = fold)

theorem Seeded.initial (roles : Roles) : Seeded roles [] {} := by
  intro fold _
  simp

theorem Seeded.step {past : List Interface} {exports : List Export} {last : Chains}
    (hs : Seeded roles past chains)
    (h : d.exportMethods roles i chains i.methods = .ok (exports, last)) :
    Seeded roles (past ++ [i]) last := by
  intro fold hf
  rw [isSome_get?_chainsAfter (exportMethods_chainsAfter h), hs fold hf]
  simp [hf, stepsOf, or_and_right, exists_or]

theorem Seeded.get?_eq_none {past : List Interface} (hs : Seeded roles past chains)
    (hr : roles.hasFold i.name = true) (hu : Unseeded past i) : chains.get? i.name = none := by
  rw [← Option.not_isSome_iff_eq_none, hs i.name hr]
  intro hreturned
  obtain ⟨j, hj, m, hm, he⟩ := hreturned
  exact hu.2.2 j hj m hm he

theorem Seeded.isSome_get? {past : List Interface} (hs : Seeded roles past chains)
    (hr : i.fold = true → roles.hasFold i.name = true) (hu : ¬ Unseeded past i)
    (hne : i.methods ≠ []) (hf : i.fold = true) : (chains.get? i.name).isSome := by
  rw [hs i.name (hr hf)]
  by_contra hno
  exact hu ⟨hf, hne, fun j hj m hm he => hno ⟨j, hj, m, hm, he⟩⟩

/-- Interfaces with readable methods are exported up to the first unseeded one. -/
theorem Complete.exportInterfaces_outcome (hd : d.Complete) {past is : List Interface}
    (hr : ∀ i ∈ is, i.fold = true → roles.hasFold i.name = true) (hm : ∀ i ∈ is, i.Readable)
    (hs : Seeded roles past chains) :
    match firstUnseeded? past is with
    | some i => d.exportInterfaces roles chains is = .error (.unseededFold i.name)
    | none => Succeeds (d.exportInterfaces roles chains is) := by
  induction is generalizing past chains with
  | nil => exact .pure _
  | cons k is ih =>
    have hk := hr k List.mem_cons_self
    unfold firstUnseeded?
    by_cases hu : Unseeded past k
    · have hstop := hd.exportMethods_unseeded roles (hm k List.mem_cons_self) hu.2.1
        hu.1 (hs.get?_eq_none (hk hu.1) hu)
      simp only [hu, if_true, exportInterfaces, exportInterface, hstop, error_bind]
    · obtain ⟨⟨exports, last⟩, he⟩ : Succeeds (d.exportMethods roles k chains k.methods) := by
        by_cases hne : k.methods = []
        · exact ⟨([], chains), by rw [hne]; rfl⟩
        · exact hd.exportMethods roles (hm k List.mem_cons_self) (hs.isSome_get? hk hu hne)
      have hrest := ih (fun i hi => hr i (List.mem_cons_of_mem k hi))
        (fun i hi => hm i (List.mem_cons_of_mem k hi)) (hs.step he)
      simp only [hu, if_false, exportInterfaces, exportInterface, he, ok_bind]
      cases hf : firstUnseeded? (past ++ [k]) is with
      | some i =>
        simp only [hf] at hrest
        simp only [hrest, error_bind]
      | none =>
        simp only [hf] at hrest
        exact hrest.bind fun _ _ => .pure _

/-- A valid description is exported up to the first unseeded interface. -/
theorem Complete.chapters_outcome (hd : d.Complete) {api : Api} (hv : api.validate = .ok ()) :
    match firstUnseeded? [] api.interfaces with
    | some i => d.chapters api = .error (.unseededFold i.name)
    | none => Succeeds (d.chapters api) := by
  have hr := Api.readable_of_validate hv
  have h := hd.exportInterfaces_outcome (fun i hi hf => Roles.hasFold_ofApi.mpr ⟨i, hi, hf, rfl⟩)
    hr.interfaces (Seeded.initial (Roles.ofApi api))
  simpa only [chapters, chaptersWith, hv, Except.mapError, ok_bind] using h

/-- A description has no chapters exactly when it has a flaw or an unseeded interface. -/
theorem Complete.chapters_eq_error_iff (hd : d.Complete) {api : Api} {e : Error} :
    d.chapters api = .error e ↔
      (∃ flaw, api.validate = .error flaw ∧ e = .invalid flaw) ∨
      (api.validate = .ok () ∧ ∃ i, FirstUnseeded api.interfaces i ∧ e = .unseededFold i.name) := by
  cases hv : api.validate with
  | error flaw => simp [chapters, chaptersWith, hv, Except.mapError, eq_comm]
  | ok u =>
    have h := hd.chapters_outcome hv
    cases hf : firstUnseeded? [] api.interfaces with
    | none =>
      simp only [hf] at h
      obtain ⟨chapters, hc⟩ := h
      simp [hc, ← firstUnseeded?_eq_some_iff, hf]
    | some i =>
      simp only [hf] at h
      simp [h, ← firstUnseeded?_eq_some_iff, hf, eq_comm]

end Dialect
end Bindery

import Bindery.Api.Samples
import Bindery.Host.Dialect
import Bindery.Proofs.Api.Sound
import Bindery.Proofs.Export.Run
import Mathlib.Data.List.Nodup

/-!
# What a description needs of a dialect

Handles and folds are served by capabilities that a dialect may lack. A method asks for some of
them, by the model of its owner, by its kind and by whether it returns a fold: `Needs`. A dialect
that keeps only some of its capabilities never exports a method differently. It either agrees with
the whole dialect or fails, and it fails exactly when one of the capabilities that are needed is not
kept. The main statement is `restrict_agrees_or_lacks`.
-/
namespace Bindery
open ExportKind

/-- The capabilities that a method of an interface needs. A closer looks an object up even where its
owner is no handle. A link of a fold needs no receiver of its own, for it is part of the chain. -/
def Needs (roles : Roles) (i : Interface) (m : Method) : Capability → Prop
  | .indexParam | .objectAt => i.handle = true ∨ ofMethod roles m = .closer
  | .forget => ofMethod roles m = .closer ∧ roles.hasFold m.returns = false
  | .chainEnd | .bindChain => i.fold = true ∧ roles.hasFold m.returns = false
  | .storing => ofMethod roles m = .newHandle

instance (roles : Roles) (i : Interface) (m : Method) : DecidablePred (Needs roles i m)
  | .indexParam | .objectAt => inferInstanceAs (Decidable (_ ∨ _))
  | .forget | .chainEnd | .bindChain => inferInstanceAs (Decidable (_ ∧ _))
  | .storing => inferInstanceAs (Decidable (_ = _))

/-- The capabilities that some method of a description needs. -/
def Api.Needs (api : Api) (capability : Capability) : Prop :=
  ∃ i ∈ api.interfaces, ∃ m ∈ i.methods, Bindery.Needs (Roles.ofApi api) i m capability

instance (api : Api) : DecidablePred api.Needs :=
  fun _ => inferInstanceAs (Decidable (∃ i ∈ _, ∃ m ∈ _, _))

namespace Dialect
open Export Outcome
variable {d : Dialect} {name : String} {keeps : Capability → Bool}
variable {roles : Roles} {chains last : Chains} {i : Interface} {m : Method}

/-! ## The parts of an export -/

/-- A capability that is kept gives what it gave, and one that is not kept gives nothing. -/
theorem kept_eq_ok {α : Type} {kept : Bool} {x : Except Error α} {capability : Capability} {a : α} :
    (if kept then x else lacking name capability) = .ok a ↔ kept = true ∧ x = .ok a := by
  cases kept <;> simp [lacking]

theorem passes_restrict {declared arguments : List String} :
    Passes (d.restrict name keeps) roles i m declared arguments ↔
      (ofMethod roles m = .closer → keeps .objectAt = true ∧ keeps .indexParam = true) ∧
        Passes d roles i m declared arguments := by
  constructor
  · intro hpass
    cases hpass with
    | closer hp ho hx =>
      obtain ⟨hobject, ho⟩ := kept_eq_ok.mp ho
      obtain ⟨hindex, hx⟩ := kept_eq_ok.mp hx
      exact ⟨fun _ => ⟨hobject, hindex⟩, .closer hp ho hx⟩
    | each hn hd ha =>
      refine ⟨fun hcloser => ?_, .each hn hd ha⟩
      simp [ofMethod_eq_closer_iff, hn] at hcloser
  · rintro ⟨hkept, hpass⟩
    cases hpass with
    | closer hp ho hx =>
      obtain ⟨hobject, hindex⟩ := hkept (ofMethod_eq_closer_iff.mpr (by simp [hp]))
      exact .closer hp (kept_eq_ok.mpr ⟨hobject, ho⟩) (kept_eq_ok.mpr ⟨hindex, hx⟩)
    | each hn hd ha => exact .each hn hd ha

theorem ownerParams_restrict {own : List String} :
    (d.restrict name keeps).ownerParams i = .ok own ↔
      (i.handle = true → keeps .indexParam = true) ∧ d.ownerParams i = .ok own := by
  unfold ownerParams
  cases i.handle <;> simp [restrict, kept_eq_ok, and_assoc]

theorem owner_restrict {receiver : String} :
    (d.restrict name keeps).owner i = .ok receiver ↔
      ((i.handle = true → keeps .objectAt = true) ∧
        (i.handle = false → i.fold = true → keeps .chainEnd = true)) ∧
      d.owner i = .ok receiver := by
  unfold owner
  cases i.handle <;> cases i.fold <;> simp [restrict, kept_eq_ok]

theorem opening_restrict {chain : Option Link} {statements : List String} :
    (d.restrict name keeps).opening chain = .ok statements ↔
      (chain.isSome → keeps .bindChain = true) ∧ d.opening chain = .ok statements := by
  unfold opening
  cases chain <;> simp [restrict, kept_eq_ok, and_assoc]

theorem callStatements_restrict {call : String} {statements : List String} :
    (d.restrict name keeps).callStatements roles m call = .ok statements ↔
      (ofMethod roles m = .newHandle → keeps .storing = true) ∧
        d.callStatements roles m call = .ok statements := by
  unfold callStatements
  cases ofMethod roles m <;> simp [restrict, kept_eq_ok]

theorem closing_restrict {statements : List String} :
    (d.restrict name keeps).closing roles i m = .ok statements ↔
      (ofMethod roles m = .closer → keeps .objectAt = true ∧ keeps .forget = true) ∧
        d.closing roles i m = .ok statements := by
  rw [ofMethod_eq_closer_iff]
  unfold closing
  cases closed? roles m with
  | none => simp
  | some p => simp [restrict, bind_eq_ok, kept_eq_ok, and_assoc, and_left_comm]

theorem isSome_chain {p : Parts} (h : p.Fit d roles chains i m) :
    p.chain.isSome ↔ i.fold = true := by
  have hchain := h.chain
  cases hfold : i.fold with
  | true =>
    rw [if_pos hfold] at hchain
    obtain ⟨link, -, hlink⟩ := hchain
    simp [hlink]
  | false => simpa [hfold] using hchain

/-- What an export needs is what its parts ask for: the index and the object of a handle, the end
and the binding of a chain, and what the kind of the export adds. -/
theorem fit_of_restrict {p : Parts} (hmodel : i.handle = true → i.fold = false)
    (h : p.Fit (d.restrict name keeps) roles chains i m) :
    (∀ c, Needs roles i m c → keeps c = true) ∧ p.Fit d roles chains i m := by
  obtain ⟨kown, hown⟩ := ownerParams_restrict.mp (ownerParams_eq_ok_iff.mpr h.own)
  obtain ⟨kpasses, hpasses⟩ := passes_restrict.mp h.passes
  obtain ⟨⟨kobject, kend⟩, hreceiver⟩ := owner_restrict.mp h.receiver
  obtain ⟨kbind, hopening⟩ := opening_restrict.mp (opening_eq_ok_iff.mpr h.opening)
  obtain ⟨kstoring, hstatements⟩ := callStatements_restrict.mp h.statements
  obtain ⟨kclosing, hclosing⟩ := closing_restrict.mp (closing_eq_ok_iff.mpr h.closing)
  refine ⟨?_, h.chain, ownerParams_eq_ok_iff.mp hown, hpasses, hreceiver, h.reports,
    opening_eq_ok_iff.mp hopening, hstatements, closing_eq_ok_iff.mp hclosing, h.result⟩
  intro c hneeds
  cases c with
  | indexParam => exact hneeds.elim kown fun hcloser => (kpasses hcloser).2
  | objectAt => exact hneeds.elim kobject fun hcloser => (kpasses hcloser).1
  | forget => exact (kclosing hneeds.1).2
  | chainEnd =>
    -- The receiver of a handle would come first, but a handle is no fold.
    refine kend (Bool.eq_false_iff.mpr fun hh => ?_) hneeds.1
    simp [Needs, hmodel hh] at hneeds
  | bindChain => exact kbind ((isSome_chain h).mpr hneeds.1)
  | storing => exact kstoring hneeds

theorem fit_restrict {p : Parts} (hf : roles.hasFold m.returns = false)
    (hkept : ∀ c, Needs roles i m c → keeps c = true) (h : p.Fit d roles chains i m) :
    p.Fit (d.restrict name keeps) roles chains i m := by
  have hown : i.handle = true → keeps .indexParam = true := fun hh => hkept .indexParam (.inl hh)
  have hobject : i.handle = true → keeps .objectAt = true := fun hh => hkept .objectAt (.inl hh)
  have hpasses : ofMethod roles m = .closer → keeps .objectAt = true ∧ keeps .indexParam = true :=
    fun hcloser => ⟨hkept .objectAt (.inr hcloser), hkept .indexParam (.inr hcloser)⟩
  have hclosing : ofMethod roles m = .closer → keeps .objectAt = true ∧ keeps .forget = true :=
    fun hcloser => ⟨hkept .objectAt (.inr hcloser), hkept .forget ⟨hcloser, hf⟩⟩
  have hend : i.handle = false → i.fold = true → keeps .chainEnd = true :=
    fun _ hfold => hkept .chainEnd ⟨hfold, hf⟩
  have hbind : p.chain.isSome → keeps .bindChain = true :=
    fun hsome => hkept .bindChain ⟨(isSome_chain h).mp hsome, hf⟩
  exact {
    chain := h.chain
    own := ownerParams_eq_ok_iff.mp <|
      ownerParams_restrict.mpr ⟨hown, ownerParams_eq_ok_iff.mpr h.own⟩
    passes := passes_restrict.mpr ⟨hpasses, h.passes⟩
    receiver := owner_restrict.mpr ⟨⟨hobject, hend⟩, h.receiver⟩
    reports := h.reports
    opening := opening_eq_ok_iff.mp <|
      opening_restrict.mpr ⟨hbind, opening_eq_ok_iff.mpr h.opening⟩
    statements := callStatements_restrict.mpr ⟨hkept .storing, h.statements⟩
    closing := closing_eq_ok_iff.mp <|
      closing_restrict.mpr ⟨hclosing, closing_eq_ok_iff.mpr h.closing⟩
    result := h.result }

theorem head_restrict {own : List String} {link : Link} :
    Head (d.restrict name keeps) chains i own link ↔
      (i.fold = false → i.handle = true → keeps .objectAt = true) ∧ Head d chains i own link := by
  constructor
  · intro hhead
    cases hhead with
    | fresh hf hr =>
      obtain ⟨⟨hobject, -⟩, hr⟩ := owner_restrict.mp hr
      exact ⟨fun _ => hobject, .fresh hf hr⟩
    | onward hf hl => exact ⟨fun hn => by simp [hf] at hn, .onward hf hl⟩
  · rintro ⟨hkept, hhead⟩
    cases hhead with
    | fresh hf hr =>
      have hend : i.handle = false → i.fold = true → keeps .chainEnd = true := by
        intro _ hfold
        simp [hf] at hfold
      exact .fresh hf (owner_restrict.mpr ⟨⟨hkept hf, hend⟩, hr⟩)
    | onward hf hl => exact .onward hf hl

/-! ## Runs -/

/-- One step: the restricted dialect exports a method as the whole one does if it keeps what the
method needs, and not at all otherwise. -/
theorem exportMethod_restrict (hmodel : i.handle = true → i.fold = false)
    (hroles : roles.hasHandle m.returns = true → roles.hasFold m.returns = false)
    {c : Contribution} :
    (d.restrict name keeps).exportMethod roles chains i m = .ok c ↔
      (∀ c, Needs roles i m c → keeps c = true) ∧ d.exportMethod roles chains i m = .ok c := by
  cases hf : roles.hasFold m.returns with
  | false =>
    rw [exportMethod_terminal_iff hf, exportMethod_terminal_iff hf]
    constructor
    · rintro ⟨p, hp, hc⟩
      obtain ⟨hkept, hp⟩ := fit_of_restrict hmodel hp
      exact ⟨hkept, p, hp, hc⟩
    · rintro ⟨hkept, p, hp, hc⟩
      exact ⟨p, fit_restrict hf hkept hp, hc⟩
  | true =>
    rw [exportMethod_link_iff hf, exportMethod_link_iff hf]
    simp only [passes_restrict, ownerParams_restrict, head_restrict]
    constructor
    · rintro ⟨declared, arguments, own, head, ⟨kpasses, hpasses⟩, ⟨kown, hown⟩,
        ⟨khead, hhead⟩, hc⟩
      refine ⟨?_, declared, arguments, own, head, hpasses, hown, hhead, hc⟩
      intro capability hneeds
      cases capability with
      | indexParam => exact hneeds.elim kown fun hcloser => (kpasses hcloser).2
      | objectAt =>
        exact hneeds.elim (fun hh => khead (hmodel hh) hh) fun hcloser => (kpasses hcloser).1
      | storing => simp [hroles (hasHandle_of_newHandle hneeds)] at hf
      | forget | chainEnd | bindChain => simp [Needs, hf] at hneeds
    · rintro ⟨hkept, declared, arguments, own, head, hpasses, hown, hhead, hc⟩
      exact ⟨declared, arguments, own, head,
        ⟨fun hcl => ⟨hkept .objectAt (.inr hcl), hkept .indexParam (.inr hcl)⟩, hpasses⟩,
        ⟨fun hh => hkept .indexParam (.inl hh), hown⟩,
        ⟨fun _ hh => hkept .objectAt (.inl hh), hhead⟩, hc⟩

theorem exportMethods_restrict (hmodel : i.handle = true → i.fold = false)
    (hroles : ∀ name, roles.hasHandle name = true → roles.hasFold name = false)
    {ms : List Method} {exports : List Export} :
    (d.restrict name keeps).exportMethods roles i chains ms = .ok (exports, last) ↔
      (∀ m ∈ ms, ∀ c, Needs roles i m c → keeps c = true) ∧
        d.exportMethods roles i chains ms = .ok (exports, last) := by
  induction ms generalizing chains exports with
  | nil => simp [exportMethods]
  | cons m ms ih =>
    simp only [exportMethods_cons_ok, exportMethod_restrict hmodel (hroles m.returns), ih,
      List.forall_mem_cons]
    constructor
    · rintro ⟨c, rest, ⟨hkept, hc⟩, ⟨hmore, hr⟩, he⟩
      exact ⟨⟨hkept, hmore⟩, c, rest, hc, hr, he⟩
    · rintro ⟨⟨hkept, hmore⟩, c, rest, hc, hr, he⟩
      exact ⟨c, rest, ⟨hkept, hc⟩, ⟨hmore, hr⟩, he⟩

theorem exportInterfaces_restrict {is : List Interface}
    (hmodel : ∀ i ∈ is, i.handle = true → i.fold = false)
    (hroles : ∀ name, roles.hasHandle name = true → roles.hasFold name = false)
    {chapters : List Chapter} :
    (d.restrict name keeps).exportInterfaces roles chains is = .ok chapters ↔
      (∀ i ∈ is, ∀ m ∈ i.methods, ∀ c, Needs roles i m c → keeps c = true) ∧
        d.exportInterfaces roles chains is = .ok chapters := by
  induction is generalizing chains chapters with
  | nil => simp [exportInterfaces]
  | cons i is ih =>
    obtain ⟨hfirst, hrest⟩ := List.forall_mem_cons.mp hmodel
    simp only [exportInterfaces_cons_ok, exportMethods_restrict hfirst hroles, ih hrest,
      List.forall_mem_cons]
    constructor
    · rintro ⟨exports, middle, rest, ⟨hkept, he⟩, ⟨hmore, hr⟩, hch⟩
      exact ⟨⟨hkept, hmore⟩, exports, middle, rest, he, hr, hch⟩
    · rintro ⟨⟨hkept, hmore⟩, exports, middle, rest, he, hr, hch⟩
      exact ⟨exports, middle, rest, ⟨hkept, he⟩, ⟨hmore, hr⟩, hch⟩

/-- In a sound description no name is both that of a handle and that of a fold. -/
theorem hasFold_of_hasHandle {api : Api} (h : api.Sound) {name : String}
    (hh : (Roles.ofApi api).hasHandle name = true) : (Roles.ofApi api).hasFold name = false := by
  rw [← Bool.not_eq_true, Roles.hasFold_ofApi]
  rintro ⟨j, hj, hfold, hname⟩
  obtain ⟨i, hi, hhandle, rfl⟩ := Roles.hasHandle_ofApi.mp hh
  obtain rfl := List.inj_on_of_nodup_map h.interfaceNames hi hj hname.symm
  simp [(h.interfaces i hi).fold_of_handle hhandle] at hfold

theorem chapters_restrict {api : Api} {chapters : List Chapter} :
    (d.restrict name keeps).chapters api = .ok chapters ↔
      d.chapters api = .ok chapters ∧ ∀ c, api.Needs c → keeps c = true := by
  have hneeds : (∀ i ∈ api.interfaces, ∀ m ∈ i.methods, ∀ c,
      Needs (Roles.ofApi api) i m c → keeps c = true) ↔ ∀ c, api.Needs c → keeps c = true := by
    constructor
    · rintro hall c ⟨i, hi, m, hm, hc⟩
      exact hall i hi m hm c hc
    · intro hall i hi m hm c hc
      exact hall c ⟨i, hi, m, hm, hc⟩
  rw [chapters_eq_ok_iff, chapters_eq_ok_iff, and_assoc]
  refine and_congr_right fun hv => ?_
  have hsound := Api.validate_eq_ok_iff.mp hv
  rw [exportInterfaces_restrict (fun i hi => (hsound.interfaces i hi).fold_of_handle)
    (fun name => hasFold_of_hasHandle hsound), hneeds, and_comm]

/-- A dialect that keeps only some of its capabilities has the chapters of the whole dialect or
none, and it has them exactly when it keeps every capability that the description needs. -/
theorem restrict_agrees_or_lacks (d : Dialect) (name : String) (keeps : Capability → Bool)
    (api : Api) :
    (∀ chapters, (d.restrict name keeps).chapters api = .ok chapters →
      d.chapters api = .ok chapters) ∧
    (Succeeds (d.chapters api) →
      (Succeeds ((d.restrict name keeps).chapters api) ↔ ∀ c, api.Needs c → keeps c = true)) := by
  constructor
  · intro chapters h
    exact (chapters_restrict.mp h).1
  · rintro ⟨chapters, hwhole⟩
    constructor
    · rintro ⟨_, h⟩
      exact (chapters_restrict.mp h).2
    · intro hkept
      exact ⟨chapters, chapters_restrict.mpr ⟨hwhole, hkept⟩⟩

/-- The store of blobs needs every capability, and the singleton that executes commands needs
none. -/
theorem restrict_agrees_or_lacks_samples :
    (∀ keeps, Succeeds ((Host.dialect.restrict "flat" keeps).chapters Api.stores) ↔
      ∀ c, keeps c = true) ∧
    ∃ chapters,
      (Host.dialect.restrict "flat" fun _ => false).chapters Api.commandHandler = .ok chapters ∧
      Host.dialect.chapters Api.commandHandler = .ok chapters := by
  have hstores : Succeeds (Host.dialect.chapters Api.stores) := .of_isOk (by decide +kernel)
  have hplain : Succeeds (Host.dialect.chapters Api.commandHandler) := .of_isOk (by decide +kernel)
  have hall : ∀ c, Api.stores.Needs c := by
    intro c
    cases c <;> decide +kernel
  have hnone : ∀ c, ¬ Api.commandHandler.Needs c := by
    intro c
    cases c <;> decide +kernel
  constructor
  · intro keeps
    rw [(restrict_agrees_or_lacks Host.dialect "flat" keeps Api.stores).2 hstores]
    exact forall_congr' fun c => forall_prop_of_true (hall c)
  · obtain ⟨hsame, hiff⟩ :=
      restrict_agrees_or_lacks Host.dialect "flat" (fun _ => false) Api.commandHandler
    obtain ⟨chapters, h⟩ := (hiff hplain).mpr fun c hc => absurd hc (hnone c)
    exact ⟨chapters, h, hsame chapters h⟩

end Dialect
end Bindery

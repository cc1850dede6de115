import Bindery.Api.Samples
import Bindery.Host.Dialect
import Bindery.Proofs.Export.Run

/-!
# Every method is accounted for

The chapters of a description follow its interfaces, and the exports of a chapter follow the methods
that return no fold: none is lost, none is added, and their order is kept. Each export is laid out
from parts that fit its method under the chains that the steps before it leave, which is the main
statement, `chapters_account`.
-/
namespace Bindery.Dialect
open Export Outcome
variable {d : Dialect} {roles : Roles} {chains last : Chains} {i : Interface} {m : Method}

/-- The methods that become exports: those that return no fold. -/
def terminal (roles : Roles) (methods : List Method) : List Method :=
  methods.filter fun m => !roles.hasFold m.returns

theorem terminal_cons (roles : Roles) (m : Method) (ms : List Method) :
    terminal roles (m :: ms) = terminal roles [m] ++ terminal roles ms := by
  simp only [terminal, ← List.filter_append, List.singleton_append]

theorem length_made {c : Contribution} (h : d.exportMethod roles chains i m = .ok c) :
    c.made.toList.length = (terminal roles [m]).length := by
  cases hf : roles.hasFold m.returns with
  | false =>
    obtain ⟨p, -, rfl⟩ := (exportMethod_terminal_iff hf).mp h
    simp [terminal, hf]
  | true =>
    obtain ⟨_, _, _, _, -, -, -, rfl⟩ := (exportMethod_link_iff hf).mp h
    simp [terminal, hf]

theorem length_exportMethods {ms : List Method} {exports : List Export}
    (h : d.exportMethods roles i chains ms = .ok (exports, last)) :
    exports.length = (terminal roles ms).length := by
  induction ms generalizing chains exports with
  | nil =>
    obtain ⟨rfl, -⟩ := Prod.mk.inj (pure_eq_ok.mp h)
    rfl
  | cons m ms ih =>
    obtain ⟨c, rest, hc, hr, rfl⟩ := exportMethods_cons_ok.mp h
    rw [terminal_cons, List.length_append, List.length_append, length_made hc, ih hr]

/-- A method stands in its chapter after the exports of the methods before it. -/
theorem exportMethods_position {early late : List Method} {exports : List Export}
    (h : d.exportMethods roles i chains (early ++ m :: late) = .ok (exports, last)) :
    ∃ middle c, d.chainsAfter roles chains (stepsOf i early) = .ok middle ∧
      d.exportMethod roles middle i m = .ok c ∧
      ∀ e, c.made = some e → exports[(terminal roles early).length]? = some e := by
  obtain ⟨before, middle, after, hb, ha, rfl⟩ := exportMethods_append h
  obtain ⟨c, rest, hc, -, rfl⟩ := exportMethods_cons_ok.mp ha
  refine ⟨middle, c, exportMethods_chainsAfter hb, hc, ?_⟩
  intro e he
  rw [← length_exportMethods hb, List.getElem?_append_right (Nat.le_refl _), Nat.sub_self, he]
  rfl

theorem names_exportInterfaces {is : List Interface} {chapters : List Chapter}
    (h : d.exportInterfaces roles chains is = .ok chapters) :
    chapters.map (·.name) = is.map (·.name) := by
  induction is generalizing chains chapters with
  | nil =>
    obtain rfl := pure_eq_ok.mp h
    rfl
  | cons i is ih =>
    obtain ⟨exports, middle, rest, -, hr, rfl⟩ := exportInterfaces_cons_ok.mp h
    rw [List.map_cons, List.map_cons, ih hr]

theorem exportInterfaces_position {before after : List Interface} {chapters : List Chapter}
    (h : d.exportInterfaces roles chains (before ++ i :: after) = .ok chapters) :
    ∃ middle exports last, d.chainsAfter roles chains (allSteps before) = .ok middle ∧
      d.exportMethods roles i middle i.methods = .ok (exports, last) ∧
      chapters[before.length]? = some ⟨i.name, exports⟩ := by
  obtain ⟨early, middle, late, hlen, hm, hl, rfl⟩ := exportInterfaces_append h
  obtain ⟨exports, last, rest, he, -, rfl⟩ := exportInterfaces_cons_ok.mp hl
  refine ⟨middle, exports, last, hm, he, ?_⟩
  rw [← hlen, List.getElem?_append_right (Nat.le_refl _), Nat.sub_self]
  rfl

/-- There is a chapter for each interface and, within it, an export for each method that returns no
fold, in declaration order. Such an export is made from parts that fit the method under the chains
in force, and leaves the chains alone. A closer is a method that takes a single handle and returns
nothing, and any other method that returns a handle makes a new one. A method that returns a fold
makes no export and changes no chain but the one of that fold. -/
theorem chapters_account {api : Api} {chapters : List Chapter}
    (h : d.chapters api = .ok chapters) :
    chapters.map (·.name) = api.interfaces.map (·.name) ∧
    ∀ before i after, api.interfaces = before ++ i :: after →
      ∃ exports, chapters[before.length]? = some ⟨i.name, exports⟩ ∧
        exports.length = (terminal (Roles.ofApi api) i.methods).length ∧
        ∀ early m late, i.methods = early ++ m :: late →
          ∃ chains c,
            d.chainsAfter (Roles.ofApi api) {} (allSteps before ++ stepsOf i early) = .ok chains ∧
            d.exportMethod (Roles.ofApi api) chains i m = .ok c ∧
            (∀ v, ExportKind.closed? (Roles.ofApi api) m = some v ↔
              m.params = [v] ∧ (∃ j ∈ api.interfaces, j.handle = true ∧ j.name = v.type) ∧
                m.returns = "void") ∧
            (ExportKind.ofMethod (Roles.ofApi api) m = .newHandle ↔
              ExportKind.closed? (Roles.ofApi api) m = none ∧
                ∃ j ∈ api.interfaces, j.handle = true ∧ j.name = m.returns) ∧
            ((Roles.ofApi api).hasFold m.returns = false →
              ∃ p : Parts, p.Fit d (Roles.ofApi api) chains i m ∧
                exports[(terminal (Roles.ofApi api) early).length]? = some (p.made d i m) ∧
                c = ⟨some (p.made d i m), chains⟩) ∧
            ((Roles.ofApi api).hasFold m.returns = true →
              ∃ link, c = ⟨none, chains.insert m.returns link⟩ ∧
                c.chains.get? m.returns = some link ∧
                ∀ name, name ≠ m.returns → c.chains.get? name = chains.get? name) := by
  have he := (chapters_eq_ok_iff.mp h).2
  refine ⟨names_exportInterfaces he, ?_⟩
  intro before i after hi
  rw [hi] at he
  obtain ⟨start, exports, last, hs, hm, hch⟩ := exportInterfaces_position he
  refine ⟨exports, hch, length_exportMethods hm, ?_⟩
  intro early m late hsplit
  rw [hsplit] at hm
  obtain ⟨chains, c, hc, hstep, hpos⟩ := exportMethods_position hm
  refine ⟨chains, c, chainsAfter_append_ok.mpr ⟨start, hs, hc⟩, hstep, ?_, ?_, ?_, ?_⟩
  · intro v
    rw [ExportKind.closed?_eq_some_iff, Roles.hasHandle_ofApi]
  · rw [ExportKind.ofMethod_eq_newHandle_iff, Roles.hasHandle_ofApi]
  · intro hf
    obtain ⟨p, hp, rfl⟩ := (exportMethod_terminal_iff hf).mp hstep
    exact ⟨p, hp, hpos _ rfl, rfl⟩
  · intro hf
    obtain ⟨declared, arguments, own, head, -, -, -, rfl⟩ := (exportMethod_link_iff hf).mp hstep
    exact ⟨d.extend head m declared arguments, rfl, Chains.get?_insert_self .., fun name hne =>
      Chains.get?_insert_of_ne hne ..⟩

/-- The last of four chapters of the store of blobs holds three exports. The first one holds two,
and the closer among them takes the index of a store and forgets the store at the end. -/
theorem chapters_account_stores :
    ∃ chapters, Host.dialect.chapters Api.stores = .ok chapters ∧
      chapters.map (·.name) = ["Stores", "Store", "BlobReader", "ReadOnlyBlob"] ∧
      (∃ exports, chapters[3]? = some ⟨"ReadOnlyBlob", exports⟩ ∧ exports.length = 3) ∧
      ∃ exports e, chapters[0]? = some ⟨"Stores", exports⟩ ∧ exports.length = 2 ∧
        exports[1]? = some e ∧ e.name = "Stores_Close" ∧ e.params = ["handle int64"] ∧
        e.body.getLast? = some "store_handles[handle] = nil" := by
  obtain ⟨chapters, h⟩ : Succeeds (Host.dialect.chapters Api.stores) := .of_isOk (by decide +kernel)
  obtain ⟨hnames, hall⟩ := chapters_account h
  refine ⟨chapters, h, hnames, ?_, ?_⟩
  · obtain ⟨exports, hch, hlen, -⟩ := hall (Api.stores.interfaces.take 3)
      { name := "ReadOnlyBlob", fold := true
        methods := [
          { name := "path", returns := "string" },
          { name := "exists", returns := "boolean" },
          { name := "size", returns := "bigint", optional := true }] } [] (by decide)
    exact ⟨exports, hch, hlen⟩
  · obtain ⟨exports, hch, hlen, hmethods⟩ := hall [] Api.stores.interfaces[0]
      Api.stores.interfaces.tail (by decide +kernel)
    obtain ⟨chains, c, -, -, hcloser, -, hmade, -⟩ := hmethods
      [{ name := "open", params := [{ name := "cfg", type := "StoreCfg" }], returns := "Store" }]
      { name := "close", params := [{ name := "store", type := "Store" }], returns := "void" } []
      (by decide +kernel)
    obtain ⟨p, hfit, hpos, -⟩ := hmade (by decide +kernel)
    have hclosed := (hcloser { name := "store", type := "Store" }).mpr
      ⟨rfl, by decide +kernel, rfl⟩
    have hown : p.own = [] := hfit.own
    have hchain : p.chain = none := hfit.chain
    have hreports : p.reports = [] := hfit.reports
    obtain ⟨param, hparam, hdeclared⟩ := hfit.passes.declared_of_closer hclosed
    obtain rfl := Except.ok.inj hparam
    have hclosing := hfit.closing
    rw [hclosed] at hclosing
    obtain ⟨object, statement, hobject, hforget, hlast⟩ := hclosing
    obtain rfl := Except.ok.inj hobject
    obtain rfl := Except.ok.inj hforget
    refine ⟨exports, _, hch, hlen, hpos, rfl, ?_, ?_⟩
    · simp only [Parts.made, Parts.params, hown, hchain, hreports, hdeclared]
      rfl
    · simp only [Parts.made, Parts.body, hlast, List.getLast?_concat]
      rfl

end Bindery.Dialect

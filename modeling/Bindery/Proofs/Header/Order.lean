import Bindery.Proofs.Header.Search
import Bindery.Proofs.Header.Texts
import Bindery.Proofs.Text.Holds
import Mathlib.Data.List.Nodup
import Mathlib.Logic.Relation

/-!
# The order of definitions

A struct has to be defined before it is embedded by value, as far as that is possible. A struct that
the search has entered and not yet left is open, and the search only goes on from an open struct to
one that it embeds, so every open struct leads to the one at hand. When a struct is left, what it
embeds is either defined by then or open, and in the second case there is a circle.
`definitions_in_order` puts this together for the emitted text: each name has one definition, that
of the first struct with the name, and a struct stands after all that it embeds and that does not
lead back to it.
-/
namespace Bindery.Header
open Outcome Relation Text
variable {api : Api} {r r' : Search} {s t : Record} {ss : List Record} {fields : List String}

/-- The struct with the first name has a field that holds a struct with the second name by value. -/
def Embeds (api : Api) (user part : String) : Prop :=
  ∃ s f, api.struct? user = some s ∧ f ∈ s.fields ∧ f.enumTyped = false ∧
    f.typeExpr = .ok ⟨.named part, false⟩ ∧ (api.struct? part).isSome

/-- The first struct embeds the second one, maybe through others, or they are the same. -/
def Reaches (api : Api) : String → String → Prop := ReflTransGen (Embeds api)

theorem name_of_struct? {name : String} (h : api.struct? name = some s) : s.name = name := by
  have hfound := List.find?_some h
  simpa using hfound

theorem embedded?_eq_some_iff {f : Variable} :
    embedded? api f = .ok (some t) ↔
      f.enumTyped = false ∧ f.typeExpr = .ok ⟨.named t.name, false⟩ ∧
        api.struct? t.name = some t := by
  simp only [embedded?, bind_eq_ok, pure_eq_ok]
  constructor
  · rintro ⟨type, htype, hsome⟩
    obtain ⟨base, array⟩ := type
    cases array with
    | true => simp at hsome
    | false =>
      cases henum : f.enumTyped with
      | true => simp [henum] at hsome
      | false =>
        simp only [henum, Bool.or_self, Bool.false_eq_true, if_false, TypeExpr.named?] at hsome
        obtain ⟨name, hname, hfound⟩ := Option.bind_eq_some_iff.mp hsome.symm
        cases base with
        | builtin b => cases hname
        | named other =>
          obtain rfl := Option.some.inj hname
          obtain rfl := name_of_struct? hfound
          exact ⟨rfl, htype, hfound⟩
  · rintro ⟨henum, htype, hfound⟩
    refine ⟨_, htype, ?_⟩
    simp [henum, TypeExpr.named?, Base.named?, hfound]

theorem mem_embeddedIn :
    t ∈ embeddedIn api s ↔ ∃ f ∈ s.fields, f.enumTyped = false ∧
      f.typeExpr = .ok ⟨.named t.name, false⟩ ∧ api.struct? t.name = some t := by
  simp only [embeddedIn, List.mem_filterMap, ← embedded?_eq_some_iff]
  have hjoin (f : Variable) :
      (embedded? api f).toOption.join = some t ↔ embedded? api f = .ok (some t) := by
    cases embedded? api f with
    | error e => simp [Except.toOption]
    | ok target => simp [Except.toOption]
  simp only [hjoin]

theorem embeds_of_mem (hs : api.struct? s.name = some s) (ht : t ∈ embeddedIn api s) :
    Embeds api s.name t.name := by
  obtain ⟨f, hf, henum, htype, hfound⟩ := mem_embeddedIn.mp ht
  exact ⟨s, f, hs, hf, henum, htype, Option.isSome_of_eq_some hfound⟩

theorem exists_mem_of_embeds {part : String} (hs : api.struct? s.name = some s)
    (h : Embeds api s.name part) : ∃ t ∈ embeddedIn api s, t.name = part := by
  obtain ⟨s', f, hs', hf, henum, htype, hpart⟩ := h
  obtain rfl := Option.some.inj (hs.symm.trans hs')
  obtain ⟨t, ht⟩ := Option.isSome_iff_exists.mp hpart
  obtain rfl := name_of_struct? ht
  exact ⟨t, mem_embeddedIn.mpr ⟨f, hf, henum, htype, ht⟩, rfl⟩

/-! ## Open structs -/

namespace Search

def names (r : Search) : List String := r.defined.map (·.name)

/-- The struct has been entered and not yet left. -/
def Open (r : Search) (name : String) : Prop := name ∈ r.reached ∧ name ∉ r.names

theorem names_leave (r : Search) (s : Record) (fields : List String) :
    (r.leave s fields).names = r.names ++ [s.name] := by
  simp [names, leave]

theorem open_enter {name : String} (hnew : s.name ∉ r.names) :
    (r.enter s).Open name ↔ name = s.name ∨ r.Open name := by
  have hreached : name ∈ (r.enter s).reached ↔ name = s.name ∨ name ∈ r.reached := List.mem_cons
  have hnames : (r.enter s).names = r.names := rfl
  unfold Open
  rw [hreached, hnames]
  constructor
  · rintro ⟨rfl | hmem, hundefined⟩
    · exact .inl rfl
    · exact .inr ⟨hmem, hundefined⟩
  · rintro (rfl | ⟨hmem, hundefined⟩)
    · exact ⟨.inl rfl, hnew⟩
    · exact ⟨.inr hmem, hundefined⟩

theorem open_leave {name : String} :
    (r.leave s fields).Open name ↔ r.Open name ∧ name ≠ s.name := by
  unfold Open
  rw [names_leave, List.mem_append, List.mem_singleton, not_or, and_assoc]
  rfl

end Search

theorem Defines.covers (h : Defines api r ss r') : ∀ s ∈ ss, s.name ∈ r'.reached := by
  induction h with
  | done r =>
    intro s hs
    cases hs
  | known hmem hrest ih => exact List.forall_mem_cons.mpr ⟨hrest.reached_subset hmem, ih⟩
  | fresh _ hinner _ hrest _ ih =>
    have hentered := hinner.reached_subset List.mem_cons_self
    exact List.forall_mem_cons.mpr ⟨hrest.reached_subset hentered, ih⟩

/-- What is open stays open: a struct that is entered on the way is left again. -/
theorem Defines.open_iff (h : Defines api r ss r') (hdefined : r.names ⊆ r.reached)
    (name : String) : r'.names ⊆ r'.reached ∧ (r'.Open name ↔ r.Open name) := by
  induction h with
  | done r => exact ⟨hdefined, Iff.rfl⟩
  | known _ _ ih => exact ih hdefined
  | @fresh r inner r' s ss fields hnew hinner _ _ ihinner ihrest =>
    have hentered : (r.enter s).names ⊆ (r.enter s).reached :=
      fun other hother => List.mem_cons_of_mem _ (hdefined hother)
    obtain ⟨hinside, hopen⟩ := ihinner hentered
    have hleft : (inner.leave s fields).names ⊆ (inner.leave s fields).reached := by
      rw [Search.names_leave]
      refine List.append_subset.mpr ⟨hinside, ?_⟩
      have hs := hinner.reached_subset List.mem_cons_self
      exact List.cons_subset.mpr ⟨hs, List.nil_subset _⟩
    obtain ⟨hlast, hrest⟩ := ihrest hleft
    refine ⟨hlast, ?_⟩
    have hundefined : s.name ∉ r.names := fun hmem => hnew (hdefined hmem)
    rw [hrest, Search.open_leave, hopen, Search.open_enter hundefined]
    constructor
    · rintro ⟨rfl | hold, hne⟩
      · exact absurd rfl hne
      · exact hold
    · intro hold
      refine ⟨.inr hold, ?_⟩
      rintro rfl
      exact hnew hold.1

/-! ## What the search keeps -/

/-- What holds between the steps of the search. -/
structure Search.Sound (api : Api) (r : Search) : Prop where
  reached : r.names ⊆ r.reached
  nodup : r.names.Nodup
  first : ∀ d ∈ r.defined, ∃ s, api.struct? d.name = some s ∧ declareFields s = .ok d.fields
  closed : ∀ user ∈ r.names, ∀ part, Embeds api user part →
    part ∈ r.names ∨ Reaches api part user
  ordered : r.names.Pairwise fun user part => Embeds api user part → Reaches api part user

/-- What the search needs of the structs that come next: each is the first one with its name unless
it is known by then, and all open structs lead to it. -/
structure Search.Ready (api : Api) (r : Search) (ss : List Record) : Prop where
  first : ∀ before s after, ss = before ++ s :: after →
    s.name ∈ r.reached ∨ s.name ∈ before.map (·.name) ∨ api.struct? s.name = some s
  leads : ∀ name, r.Open name → ∀ s ∈ ss, Reaches api name s.name

theorem Search.Ready.head (h : r.Ready api (s :: ss)) (hnew : s.name ∉ r.reached) :
    api.struct? s.name = some s := by
  rcases h.first [] s ss rfl with hmem | hmem | hfirst
  · exact absurd hmem hnew
  · cases hmem
  · exact hfirst

theorem Search.Ready.tail (h : r.Ready api (s :: ss)) (hreached : r.reached ⊆ r'.reached)
    (hs : s.name ∈ r'.reached) (hopen : ∀ name, r'.Open name → r.Open name) :
    r'.Ready api ss where
  first := by
    intro before t after hsplit
    have hcons : s :: ss = (s :: before) ++ t :: after := by rw [hsplit, List.cons_append]
    rcases h.first (s :: before) t after hcons with hmem | hmem | hfirst
    · exact .inl (hreached hmem)
    · rcases List.mem_cons.mp hmem with hname | hmem
      · exact .inl (hname ▸ hs)
      · exact .inr (.inl hmem)
    · exact .inr (.inr hfirst)
  leads := by
    intro name hname t ht
    exact h.leads name (hopen name hname) t (List.mem_cons_of_mem s ht)

theorem Search.Ready.enter (h : r.Ready api (s :: ss)) (hnew : s.name ∉ r.reached)
    (hundefined : s.name ∉ r.names) : (r.enter s).Ready api (embeddedIn api s) where
  first := by
    intro before t after hsplit
    have ht : t ∈ embeddedIn api s := by
      rw [hsplit]
      exact List.mem_append_right _ List.mem_cons_self
    obtain ⟨f, -, -, -, hfirst⟩ := mem_embeddedIn.mp ht
    exact .inr (.inr hfirst)
  leads := by
    intro name hname t ht
    have hlast := embeds_of_mem (h.head hnew) ht
    rcases (Search.open_enter hundefined).mp hname with rfl | hold
    · exact ReflTransGen.single hlast
    · exact (h.leads name hold s List.mem_cons_self).tail hlast

theorem Search.Sound.enter (h : r.Sound api) (s : Record) : (r.enter s).Sound api where
  reached := fun _ hname => List.mem_cons_of_mem _ (h.reached hname)
  nodup := h.nodup
  first := h.first
  closed := h.closed
  ordered := h.ordered

/-- A struct may be left when all that it embeds has been reached and all that is open leads to
it. -/
theorem Search.Sound.leave (h : r.Sound api) (hs : api.struct? s.name = some s)
    (hfields : declareFields s = .ok fields) (hopen : r.Open s.name)
    (hcovers : ∀ t ∈ embeddedIn api s, t.name ∈ r.reached)
    (hleads : ∀ name, r.Open name → Reaches api name s.name) :
    (r.leave s fields).Sound api where
  reached := by
    rw [names_leave]
    exact List.append_subset.mpr ⟨h.reached, List.cons_subset.mpr ⟨hopen.1, List.nil_subset _⟩⟩
  nodup := by
    rw [names_leave, List.nodup_append]
    refine ⟨h.nodup, List.pairwise_singleton _ _, ?_⟩
    intro name hname other hother hsame
    obtain rfl := List.mem_singleton.mp hother
    exact hopen.2 (hsame ▸ hname)
  first := by
    intro d hd
    rcases List.mem_append.mp hd with hd | hd
    · exact h.first d hd
    · obtain rfl := List.mem_singleton.mp hd
      exact ⟨s, hs, hfields⟩
  closed := by
    rw [names_leave]
    intro user huser part hembeds
    rcases List.mem_append.mp huser with hold | hnew
    · exact (h.closed user hold part hembeds).imp_left (List.mem_append_left _)
    · obtain rfl := List.mem_singleton.mp hnew
      obtain ⟨t, ht, rfl⟩ := exists_mem_of_embeds hs hembeds
      by_cases hdefined : t.name ∈ r.names
      · exact .inl (List.mem_append_left _ hdefined)
      · exact .inr (hleads t.name ⟨hcovers t ht, hdefined⟩)
  ordered := by
    rw [names_leave, List.pairwise_append]
    refine ⟨h.ordered, List.pairwise_singleton _ _, ?_⟩
    intro user huser part hpart hembeds
    obtain rfl := List.mem_singleton.mp hpart
    exact (h.closed user huser s.name hembeds).resolve_left hopen.2

theorem Defines.sound (h : Defines api r ss r') (hsound : r.Sound api) (hready : r.Ready api ss) :
    r'.Sound api := by
  induction h with
  | done r => exact hsound
  | known hmem _ ih =>
    exact ih hsound (hready.tail (List.Subset.refl _) hmem fun _ hname => hname)
  | @fresh r inner r' s ss fields hnew hinner hfields _ ihinner ihrest =>
    have hundefined : s.name ∉ r.names := fun hmem => hnew (hsound.reached hmem)
    have hentered := hsound.enter s
    have hopen (name : String) : inner.Open name ↔ name = s.name ∨ r.Open name := by
      rw [(hinner.open_iff hentered.reached name).2, Search.open_enter hundefined]
    have hreached : r.reached ⊆ inner.reached :=
      fun _ hname => hinner.reached_subset (List.mem_cons_of_mem _ hname)
    have hleads (name : String) (hname : inner.Open name) : Reaches api name s.name := by
      rcases (hopen name).mp hname with rfl | hold
      · exact ReflTransGen.refl
      · exact hready.leads name hold s List.mem_cons_self
    have hleft : (inner.leave s fields).Sound api :=
      (ihinner hentered (hready.enter hnew hundefined)).leave (hready.head hnew) hfields
        ((hopen s.name).mpr (.inl rfl)) hinner.covers hleads
    have hs : s.name ∈ inner.reached := hinner.reached_subset List.mem_cons_self
    refine ihrest hleft (hready.tail hreached hs ?_)
    intro name hname
    obtain ⟨hinside, hne⟩ := Search.open_leave.mp hname
    exact ((hopen name).mp hinside).resolve_left hne

/-! ## The outcome -/

theorem ready_initial (api : Api) : Search.Ready api {} api.structs where
  first := by
    intro before s after hsplit
    by_cases hbefore : s.name ∈ before.map (·.name)
    · exact .inr (.inl hbefore)
    · have hnone : before.find? (·.name == s.name) = none := by
        rw [List.find?_eq_none]
        intro t ht hname
        exact hbefore (List.mem_map.mpr ⟨t, ht, by simpa using hname⟩)
      refine .inr (.inr ?_)
      rw [Api.struct?, hsplit, List.find?_append, hnone, Option.none_or, List.find?_cons_of_pos]
      simp
  leads := by
    intro name hname
    cases hname.1

theorem sound_initial (api : Api) : Search.Sound api {} where
  reached := List.nil_subset _
  nodup := List.nodup_nil
  first := by
    intro d hd
    cases hd
  closed := by
    intro user huser
    cases huser
  ordered := List.Pairwise.nil

theorem mem_names_iff (h : Defines api {} api.structs r) {name : String} :
    name ∈ r.names ↔ (api.struct? name).isSome := by
  have hsound := h.sound (sound_initial api) (ready_initial api)
  constructor
  · intro hname
    obtain ⟨d, hd, rfl⟩ := List.mem_map.mp hname
    obtain ⟨s, hs, -⟩ := hsound.first d hd
    exact Option.isSome_of_eq_some hs
  · intro hsome
    obtain ⟨s, hs⟩ := Option.isSome_iff_exists.mp hsome
    have hreached := h.covers s (List.mem_of_find?_eq_some hs)
    rw [name_of_struct? hs] at hreached
    by_contra hundefined
    have hopen := (h.open_iff (List.nil_subset _) name).2.mp ⟨hreached, hundefined⟩
    cases hopen.1

theorem mem_defined_iff (h : Defines api {} api.structs r) {d : Definition} :
    d ∈ r.defined ↔ ∃ s, api.struct? d.name = some s ∧ declareFields s = .ok d.fields := by
  have hsound := h.sound (sound_initial api) (ready_initial api)
  constructor
  · exact hsound.first d
  · rintro ⟨s, hs, hfields⟩
    have hname := (mem_names_iff h).mpr (Option.isSome_of_eq_some hs)
    obtain ⟨d', hd', hsame⟩ := List.mem_map.mp hname
    obtain ⟨s', hs', hfields'⟩ := hsound.first d' hd'
    rw [hsame] at hs'
    obtain rfl := Option.some.inj (hs.symm.trans hs')
    have heq : d' = d := by
      obtain ⟨name, fields⟩ := d
      obtain ⟨name', fields'⟩ := d'
      obtain rfl : name' = name := hsame
      obtain rfl : fields = fields' := Except.ok.inj (hfields.symm.trans hfields')
      rfl
    exact heq ▸ hd'

/-- Of two members of a list, one stands before the other. -/
theorem sublist_or_sublist {α : Type} {xs : List α} {a b : α} (ha : a ∈ xs) (hb : b ∈ xs)
    (hne : a ≠ b) : [a, b].Sublist xs ∨ [b, a].Sublist xs := by
  obtain ⟨before, after, rfl⟩ := List.append_of_mem ha
  rcases List.mem_append.mp hb with hb | hb
  · exact .inr ((List.singleton_sublist.mpr hb).append
      (List.singleton_sublist.mpr List.mem_cons_self))
  · have hafter := (List.mem_cons.mp hb).resolve_left hne.symm
    exact .inl (((List.singleton_sublist.mpr hafter).cons_cons a).trans
      (List.sublist_append_right _ _))

theorem part_before_user (h : Defines api {} api.structs r) {user part : String}
    (hembeds : Embeds api user part) (hback : ¬ Reaches api part user) :
    [part, user].Sublist r.names := by
  have hsound := h.sound (sound_initial api) (ready_initial api)
  have ⟨s, f, hs, hf, henum, htype, hpart⟩ := hembeds
  have huser := (mem_names_iff h).mpr (Option.isSome_of_eq_some hs)
  have hpart := (mem_names_iff h).mpr hpart
  have hne : part ≠ user := by
    rintro rfl
    exact hback ReflTransGen.refl
  rcases sublist_or_sublist hpart huser hne with hbefore | hafter
  · exact hbefore
  · exact absurd (List.pairwise_iff_forall_sublist.mp hsound.ordered hafter hembeds) hback

/-- The definitions are those of structs of the description, of each name the first one. -/
theorem exists_order (h : Defines api {} api.structs r) (hapi : ∀ s ∈ api.structs, s.Readable) :
    ∃ order : List Record, r.defined = order.map definitionOf ∧
      ∀ s, s ∈ order ↔ api.struct? s.name = some s := by
  -- what is kept of a struct tells its name, and the name tells the struct
  have hfirst := (h.sound (sound_initial api) (ready_initial api)).first
  choose! struct hstruct hfields using hfirst
  have hdefined {s : Record} (hs : api.struct? s.name = some s) : definitionOf s ∈ r.defined :=
    (mem_defined_iff h).mpr ⟨s, hs, declareFields_eq (hapi s (List.mem_of_find?_eq_some hs))⟩
  have hdefinition : ∀ d ∈ r.defined, definitionOf (struct d) = d := by
    intro d hd
    have hreadable := hapi _ (List.mem_of_find?_eq_some (hstruct d hd))
    have hsame := Except.ok.inj ((declareFields_eq hreadable).symm.trans (hfields d hd))
    simp only [definitionOf, hsame, name_of_struct? (hstruct d hd)]
  refine ⟨r.defined.map struct, ?_, fun s => ?_⟩
  · rw [List.map_map]
    exact ((List.map_congr_left hdefinition).trans (List.map_id' _)).symm
  · rw [List.mem_map]
    constructor
    · rintro ⟨d, hd, rfl⟩
      rw [name_of_struct? (hstruct d hd)]
      exact hstruct d hd
    · intro hs
      exact ⟨definitionOf s, hdefined hs,
        Option.some.inj ((hstruct _ (hdefined hs)).symm.trans hs)⟩

/-- Texts that are joined stand in the order of what they are made from. -/
theorem before_of_names {order : List Record} {text : Record → String}
    (hnodup : (order.map (·.name)).Nodup) (hs : s ∈ order) (ht : t ∈ order)
    (h : [s.name, t.name].Sublist (order.map (·.name))) :
    Before (String.join (order.map text)) (text s) (text t) := by
  obtain ⟨pair, hpair, hnames⟩ := List.sublist_map_iff.mp h
  obtain ⟨s', rest, rfl, hs', hrest⟩ := List.map_eq_cons_iff.mp hnames.symm
  obtain ⟨t', rest, rfl, ht', hnil⟩ := List.map_eq_cons_iff.mp hrest
  obtain rfl := List.map_eq_nil_iff.mp hnil
  obtain ⟨hsmem, htmem⟩ : s' ∈ order ∧ t' ∈ order := by simpa using hpair.subset
  obtain rfl := List.inj_on_of_nodup_map hnodup hsmem hs hs'
  obtain rfl := List.inj_on_of_nodup_map hnodup htmem ht ht'
  exact Before.join (hpair.map text)

/-- The search for definitions always ends, and so with every bound from the number of structs on.
The text has one definition for each name of a struct, that of the first struct with the name, in
the order in which the search leaves them. All enums and announcements stand before the definitions,
and a definition stands after those of the structs that are embedded by value and do not lead back
to it; without circles, after all of them. -/
theorem definitions_in_order {api : Api} (hapi : ∀ s ∈ api.structs, s.Readable) :
    ∃ (last : Search) (order : List Record) (text : String), Defines api {} api.structs last ∧
      (∀ depth, api.structs.length ≤ depth →
        api.structs.foldlM (Search.define api depth) {} = .ok last) ∧
      declarations api = .ok text ∧
      text = forward api ++ String.join (order.map structText) ∧
      last.defined.map (·.name) = order.map (·.name) ∧
      (order.map (·.name)).Nodup ∧
      (∀ s, s ∈ order ↔ api.structs.find? (·.name == s.name) = some s) ∧
      (∀ user part, Embeds api user part → ¬ Reaches api part user →
        [part, user].Sublist (order.map (·.name))) ∧
      ((∀ name, ¬ TransGen (Embeds api) name name) →
        ∀ user part, Embeds api user part → [part, user].Sublist (order.map (·.name))) ∧
      (∀ s ∈ order, ∀ t ∈ order, [t.name, s.name].Sublist (order.map (·.name)) →
        Before text (structText t) (structText s)) := by
  obtain ⟨last, hdefines, hbounds⟩ := search_ends hapi
  have hsound := hdefines.sound (sound_initial api) (ready_initial api)
  obtain ⟨order, hdefined, hmem⟩ := exists_order hdefines hapi
  have hnames : last.names = order.map (·.name) := by
    rw [Search.names, hdefined, List.map_map]
    rfl
  have hdefinitions : definitions api = .ok (order.map definitionOf) :=
    bind_eq_ok.mpr ⟨last, hbounds _ (Nat.le_refl _), congrArg Except.ok hdefined⟩
  have hnodup := hnames ▸ hsound.nodup
  have hparts (user part : String) (hembeds : Embeds api user part)
      (hback : ¬ Reaches api part user) : [part, user].Sublist (order.map (·.name)) :=
    hnames ▸ part_before_user hdefines hembeds hback
  refine ⟨last, order, _, hdefines, hbounds, declarations_eq hdefinitions, rfl, hnames, hnodup,
    hmem, hparts, ?_, ?_⟩
  · intro hacyclic user part hembeds
    refine hparts user part hembeds fun hback => ?_
    exact hacyclic user (TransGen.head' hembeds hback)
  · intro s hs t ht hsublist
    exact (before_of_names hnodup ht hs hsublist).append_left _

/-- Structs of which two embed each other, and one shares its name with another. -/
def circledStructs : Api :=
  { structs := [
      { name := "Outer"
        fields := [{ name := "node", type := "Node" }, { name := "inner", type := "Inner" }] },
      { name := "Inner", fields := [{ name := "size", type := "number" }] },
      { name := "Node", fields := [{ name := "peer", type := "Peer" }] },
      { name := "Peer"
        fields := [{ name := "node", type := "Node" }, { name := "owners", type := "Outer[]" }] },
      { name := "Inner" }]
    enums := [
      { name := "Kind"
        fields := [{ name := "leaf", type := "string" }, { name := "root", type := "string" }] }] }

/-- In the text a struct stands after one that lies on a circle which does not lead back to it. -/
theorem definitions_in_order_circledStructs :
    let forward := "typedef long long longlong;\n"
      ++ "\ntypedef enum Kind \x7b\n  Kind_leaf,\n  Kind_root\n\x7d Kind;\n"
      ++ "\ntypedef struct Outer Outer;\ntypedef struct Inner Inner;\ntypedef struct Node Node;\n"
      ++ "typedef struct Peer Peer;\ntypedef struct Inner Inner;\n"
    let peer := "\nstruct Peer \x7b\n  Node node;\n  Outer* owners;\n"
      ++ "  size_t owners_length;\n\x7d;\n"
    let node := "\nstruct Node \x7b\n  Peer peer;\n\x7d;\n"
    let inner := "\nstruct Inner \x7b\n  double size;\n\x7d;\n"
    let outer := "\nstruct Outer \x7b\n  Node node;\n  Inner inner;\n\x7d;\n"
    let text := forward ++ peer ++ node ++ inner ++ outer
    (∀ s ∈ circledStructs.structs, s.Readable) ∧
    Embeds circledStructs "Node" "Peer" ∧ Embeds circledStructs "Peer" "Node" ∧
    Embeds circledStructs "Outer" "Node" ∧ ¬ Reaches circledStructs "Node" "Outer" ∧
    declarations circledStructs = .ok text ∧ Before text node outer := by
  intro forward peer node inner outer text
  have hreadable : ∀ s ∈ circledStructs.structs, s.Readable := by
    have hok : ∀ s ∈ circledStructs.structs, ∀ f ∈ s.fields, f.typeExpr.isOk = true := by
      decide +kernel
    exact fun s hs f hf => .of_isOk (hok s hs f hf)
  have hembeds (s t : Record) (hs : circledStructs.struct? s.name = some s)
      (ht : t ∈ embeddedIn circledStructs s) : Embeds circledStructs s.name t.name :=
    embeds_of_mem hs ht
  have hcircle : ∀ s ∈ circledStructs.structs, s.name ∈ ["Node", "Peer"] →
      ∀ t ∈ embeddedIn circledStructs s, t.name ∈ ["Node", "Peer"] := by decide +kernel
  have hback : ¬ Reaches circledStructs "Node" "Outer" := by
    have hstays {name : String} (h : Reaches circledStructs "Node" name) :
        name ∈ ["Node", "Peer"] := by
      induction h with
      | refl => decide
      | tail _ hstep ih =>
        have ⟨s, _, hs, _⟩ := hstep
        obtain rfl := name_of_struct? hs
        obtain ⟨t, ht, rfl⟩ := exists_mem_of_embeds hs hstep
        exact hcircle s (List.mem_of_find?_eq_some hs) ih t ht
    intro hreaches
    exact absurd (hstays hreaches) (by decide)
  have houter : Embeds circledStructs "Outer" "Node" :=
    hembeds (circledStructs.structs[0]) (circledStructs.structs[2]) (by decide +kernel)
      (by decide +kernel)
  have hdeclared : declarations circledStructs = .ok text := by decide +kernel
  obtain ⟨last, order, text', -, -, htext, -, -, -, hfirst, horder, -, hbefore⟩ :=
    definitions_in_order hreadable
  obtain rfl := Except.ok.inj (hdeclared.symm.trans htext)
  have hbefore : Before text (structText circledStructs.structs[2])
      (structText circledStructs.structs[0]) :=
    hbefore _ ((hfirst _).mpr (by decide +kernel)) _ ((hfirst _).mpr (by decide +kernel))
      (horder "Outer" "Node" houter hback)
  have hnode : structText circledStructs.structs[2] = node := by decide +kernel
  have houterText : structText circledStructs.structs[0] = outer := by decide +kernel
  rw [hnode, houterText] at hbefore
  exact ⟨hreadable,
    hembeds (circledStructs.structs[2]) (circledStructs.structs[3]) (by decide +kernel)
      (by decide +kernel),
    hembeds (circledStructs.structs[3]) (circledStructs.structs[2]) (by decide +kernel)
      (by decide +kernel),
    houter, hback, hdeclared, hbefore⟩

end Bindery.Header

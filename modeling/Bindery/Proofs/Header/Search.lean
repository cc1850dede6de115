import Bindery.Header.Declarations
import Bindery.Proofs.Spelling

/-!
# The search for definitions

Structs are defined in the order in which a depth-first search leaves them, and the search carries a
bound on its depth. `Defines` tells the same search without a bound, one rule for each way in which
it goes on. A search that is told so has come to its end, also among structs that embed each other
in a circle. `search_ends` says that there always is one, and that every bound from the number of
structs on gives the same outcome.
-/
namespace Bindery.Header
open Outcome
variable {api : Api} {r r' middle : Search} {s : Record} {ss : List Record} {depth : Nat}

theorem declareVariable_succeeds {v : Variable} (h : v.Readable) : Succeeds (declareVariable v) :=
  (types.spellText_succeeds h).bind fun _ _ => .pure _

theorem declareFields_succeeds (h : s.Readable) : Succeeds (declareFields s) :=
  (Succeeds.mapM fun f hf => declareVariable_succeeds (h f hf)).bind fun _ _ => .pure _

theorem embedded?_mem {f : Variable} (h : embedded? api f = .ok (some s)) : s ∈ api.structs := by
  simp only [embedded?, bind_eq_ok, pure_eq_ok] at h
  obtain ⟨t, -, he⟩ := h
  split at he
  · cases he
  · obtain ⟨name, -, hs⟩ := Option.bind_eq_some_iff.mp he.symm
    exact List.mem_of_find?_eq_some hs

/-- The structs that a struct embeds by value, in the order of its fields. -/
def embeddedIn (api : Api) (s : Record) : List Record :=
  s.fields.filterMap fun f => (embedded? api f).toOption.join

namespace Search

def enter (r : Search) (s : Record) : Search :=
  { r with reached := s.name :: r.reached }

def leave (r : Search) (s : Record) (fields : List String) : Search :=
  { r with defined := r.defined ++ [⟨s.name, fields⟩] }

/-- The number of structs that are still to be reached. -/
def unreached (api : Api) (r : Search) : Nat :=
  api.structs.countP fun s => !r.reached.contains s.name

theorem unreached_le_length (api : Api) (r : Search) : r.unreached api ≤ api.structs.length :=
  List.countP_le_length

theorem unreached_anti (h : r.reached ⊆ r'.reached) : r'.unreached api ≤ r.unreached api := by
  apply List.countP_mono_left
  intro s _ hnew
  simp only [Bool.not_eq_true', List.contains_eq_mem, decide_eq_false_iff_not] at hnew ⊢
  exact fun hmem => hnew (h hmem)

theorem unreached_pos (hs : s ∈ api.structs) (hnew : s.name ∉ r.reached) :
    0 < r.unreached api :=
  List.countP_pos_iff.mpr ⟨s, hs, by simpa using hnew⟩

theorem unreached_enter (hs : s ∈ api.structs) (hnew : s.name ∉ r.reached) :
    (r.enter s).unreached api < r.unreached api := by
  obtain ⟨before, after, hsplit⟩ := List.append_of_mem hs
  have hmono (ts : List Record) : ts.countP (fun t => !(r.enter s).reached.contains t.name) ≤
      ts.countP fun t => !r.reached.contains t.name := by
    apply List.countP_mono_left
    intro t _ ht
    simp only [enter, Bool.not_eq_true', List.contains_eq_mem, decide_eq_false_iff_not,
      List.mem_cons, not_or] at ht ⊢
    exact ht.2
  have hbefore := hmono before
  have hafter := hmono after
  have hentered : (!(r.enter s).reached.contains s.name) = false := by simp [enter]
  have hfresh : (!r.reached.contains s.name) = true := by simpa using hnew
  simp only [unreached, hsplit, List.countP_append, List.countP_cons, hentered, hfresh,
    Bool.false_eq_true, if_false, if_true]
  omega

end Search

/-- The search without a bound, over structs one after the other. A struct that is reached for the
first time is entered, then the structs that it embeds are searched, then it is left. -/
inductive Defines (api : Api) : Search → List Record → Search → Prop
  | done (r : Search) : Defines api r [] r
  | known {r r' : Search} {s : Record} {ss : List Record} :
      s.name ∈ r.reached → Defines api r ss r' → Defines api r (s :: ss) r'
  | fresh {r inner r' : Search} {s : Record} {ss : List Record} {fields : List String} :
      s.name ∉ r.reached → Defines api (r.enter s) (embeddedIn api s) inner →
      declareFields s = .ok fields → Defines api (inner.leave s fields) ss r' →
      Defines api r (s :: ss) r'

theorem Defines.cons (h : Defines api r [s] middle) (hrest : Defines api middle ss r') :
    Defines api r (s :: ss) r' := by
  cases h with
  | known hmem hdone =>
    cases hdone
    exact .known hmem hrest
  | fresh hnew hinner hfields hdone =>
    cases hdone
    exact .fresh hnew hinner hfields hrest

theorem Defines.reached_subset (h : Defines api r ss r') : r.reached ⊆ r'.reached := by
  induction h with
  | done r => exact List.Subset.refl _
  | known _ _ ih => exact ih
  | fresh _ _ _ _ ihinner ihrest =>
    intro name hname
    exact ihrest (ihinner (List.mem_cons_of_mem _ hname))

theorem Defines.unique {last : Search} (h : Defines api r ss r') (hother : Defines api r ss last) :
    r' = last := by
  induction h generalizing last with
  | done r =>
    cases hother
    rfl
  | known hmem _ ih =>
    cases hother with
    | known _ hrest => exact ih hrest
    | fresh hnew => exact absurd hmem hnew
  | fresh hnew _ hfields _ ihinner ihrest =>
    cases hother with
    | known hmem => exact absurd hmem hnew
    | fresh _ hinner hother hrest =>
      obtain rfl := ihinner hinner
      obtain rfl := Except.ok.inj (hfields.symm.trans hother)
      exact ihrest hrest

/-! ## The bound on the depth -/

def visitField (api : Api) (depth : Nat) (r : Search) (f : Variable) :
    Except TypeExpr.Error Search := do
  match ← embedded? api f with
  | none => return r
  | some t => Search.define api depth r t

theorem define_of_mem (h : s.name ∈ r.reached) : Search.define api depth r s = .ok r := by
  unfold Search.define
  rw [if_pos (List.contains_iff_mem.mpr h)]

theorem define_of_notMem (h : s.name ∉ r.reached) :
    Search.define api (depth + 1) r s = do
      let inner ← s.fields.foldlM (visitField api depth) (r.enter s)
      let fields ← declareFields s
      return inner.leave s fields := by
  conv_lhs => unfold Search.define
  rw [if_neg fun hmem => h (List.contains_iff_mem.mp hmem)]
  rfl

theorem visitFields_defines
    (hdefine : ∀ r : Search, ∀ s ∈ api.structs, r.unreached api ≤ depth →
      ∃ r', Search.define api depth r s = .ok r' ∧ Defines api r [s] r')
    {fs : List Variable} (hreadable : ∀ f ∈ fs, f.Readable) (hbound : r.unreached api ≤ depth) :
    ∃ r', fs.foldlM (visitField api depth) r = .ok r' ∧
      Defines api r (fs.filterMap fun f => (embedded? api f).toOption.join) r' := by
  induction fs generalizing r with
  | nil => exact ⟨r, rfl, .done r⟩
  | cons f fs ih =>
    obtain ⟨hf, hfs⟩ := List.forall_mem_cons.mp hreadable
    have hembedded : Succeeds (embedded? api f) := hf.bind fun _ _ => .pure _
    obtain ⟨target, htarget⟩ := hembedded
    rw [List.foldlM_cons, visitField, htarget, ok_bind, List.filterMap_cons, htarget]
    cases target with
    | none => exact ih hfs hbound
    | some t =>
      obtain ⟨middle, hmiddle, hfirst⟩ := hdefine r t (embedded?_mem htarget) hbound
      have hless : middle.unreached api ≤ r.unreached api :=
        Search.unreached_anti hfirst.reached_subset
      obtain ⟨r', hrun, hdefines⟩ := ih hfs (Nat.le_trans hless hbound)
      exact ⟨r', bind_eq_ok.mpr ⟨middle, hmiddle, hrun⟩, hfirst.cons hdefines⟩

/-- A struct is searched to the end when the bound leaves room for all structs not yet reached. -/
theorem define_defines (hapi : ∀ s ∈ api.structs, s.Readable) (hs : s ∈ api.structs)
    (hbound : r.unreached api ≤ depth) :
    ∃ r', Search.define api depth r s = .ok r' ∧ Defines api r [s] r' := by
  induction depth generalizing r s with
  | zero =>
    have hmem : s.name ∈ r.reached := by
      by_contra hnew
      have hpos := Search.unreached_pos hs hnew
      omega
    exact ⟨r, define_of_mem hmem, .known hmem (.done r)⟩
  | succ depth ih =>
    by_cases hmem : s.name ∈ r.reached
    · exact ⟨r, define_of_mem hmem, .known hmem (.done r)⟩
    · have hless := Search.unreached_enter hs hmem
      have hroom : (r.enter s).unreached api ≤ depth := by omega
      obtain ⟨inner, hrun, hinner⟩ :=
        visitFields_defines (fun _ _ ht hb => ih ht hb) (hapi s hs) hroom
      obtain ⟨fields, hfields⟩ := declareFields_succeeds (hapi s hs)
      refine ⟨inner.leave s fields, ?_, .fresh hmem hinner hfields (.done _)⟩
      rw [define_of_notMem hmem, hrun, ok_bind, hfields, ok_bind]
      rfl

theorem defineAll_defines (hapi : ∀ s ∈ api.structs, s.Readable) (hss : ss ⊆ api.structs)
    (hbound : r.unreached api ≤ depth) :
    ∃ r', ss.foldlM (Search.define api depth) r = .ok r' ∧ Defines api r ss r' := by
  induction ss generalizing r with
  | nil => exact ⟨r, rfl, .done r⟩
  | cons s ss ih =>
    obtain ⟨hs, hss⟩ := List.cons_subset.mp hss
    obtain ⟨middle, hmiddle, hfirst⟩ := define_defines hapi hs hbound
    have hless : middle.unreached api ≤ r.unreached api :=
      Search.unreached_anti hfirst.reached_subset
    obtain ⟨r', hrun, hdefines⟩ := ih hss (Nat.le_trans hless hbound)
    exact ⟨r', bind_eq_ok.mpr ⟨middle, hmiddle, hrun⟩, hfirst.cons hdefines⟩

/-- The search over all structs comes to an end, and a bound from their number on is not met. -/
theorem search_ends (hapi : ∀ s ∈ api.structs, s.Readable) :
    ∃ last, Defines api {} api.structs last ∧
      ∀ depth, api.structs.length ≤ depth →
        api.structs.foldlM (Search.define api depth) {} = .ok last := by
  have hrun (depth : Nat) (hdepth : api.structs.length ≤ depth) :=
    defineAll_defines hapi (List.Subset.refl _)
      (Nat.le_trans (Search.unreached_le_length api {}) hdepth)
  obtain ⟨last, -, hlast⟩ := hrun api.structs.length (Nat.le_refl _)
  refine ⟨last, hlast, fun depth hdepth => ?_⟩
  obtain ⟨other, hother, hdefines⟩ := hrun depth hdepth
  rw [hother, hlast.unique hdefines]

theorem definitions_succeeds (hapi : ∀ s ∈ api.structs, s.Readable) :
    Succeeds (definitions api) := by
  obtain ⟨last, -, hlast⟩ := search_ends hapi
  exact ⟨last.defined, bind_eq_ok.mpr ⟨last, hlast _ (Nat.le_refl _), rfl⟩⟩

theorem declarations_succeeds (hapi : ∀ s ∈ api.structs, s.Readable) :
    Succeeds (declarations api) :=
  (definitions_succeeds hapi).bind fun _ _ => .pure _

end Bindery.Header

import Bindery.Proofs.Api.Sound

/-!
# The flaw that is reported

What is asked of a description can be taken apart into requirements, each at one place: a name that
is new in its category, a member that is backed, a type that resolves, an interface with one model.
`Api.requirements` lists them in the order of the report and `Requirement.Breach` says in which way
one of them may fail. `validate_reports_first` ties validation to both: it passes exactly the sound
descriptions, and a flaw that it reports is really there and is the breach of the first requirement
that is not met.
-/
namespace Bindery.Api
open Outcome
variable {api : Api} {known : List String} {flaw : Flaw}

/-- What is asked at one place of a description. -/
inductive Requirement where
  | fresh (category : Category) (earlier : List String) (name : String)
  | backed (enum : Record) (member : Variable)
  | resolved (owner type : String)
  | oneModel (i : Interface)

/-- The interface follows more than one model. -/
def ManyModels (i : Interface) : Prop :=
  (i.singleton = true ∧ i.handle = true) ∨ (i.singleton = true ∧ i.fold = true) ∨
    (i.handle = true ∧ i.fold = true)

namespace Requirement

/-- The requirement is not met, and the flaw says why. -/
inductive Breach (known : List String) : Requirement → Flaw → Prop
  | repeated {category : Category} {earlier : List String} {name : String} :
      name ∈ earlier → Breach known (fresh category earlier name) (.duplicateName category name)
  | unbacked {enum : Record} {member : Variable} :
      member.type ≠ "string" → member.type ≠ "number" →
      Breach known (backed enum member) (.invalidEnumMember enum.name member.name member.type)
  | unreadable {owner type : String} {cause : TypeExpr.Error} :
      TypeExpr.parse type = .error cause →
      Breach known (resolved owner type) (.invalidType owner cause)
  | unresolved {owner type name : String} {t : TypeExpr} :
      TypeExpr.parse type = .ok t → t.base = .named name → name ∉ known →
      Breach known (resolved owner type) (.unresolvedType owner name)
  | conflicting {i : Interface} :
      ManyModels i → Breach known (oneModel i) (.conflictingModel i.name)

def check (known : List String) : Requirement → Except Flaw Unit
  | fresh category earlier name =>
    if earlier.contains name then .error (.duplicateName category name) else .ok ()
  | backed enum member => requireBacked enum member
  | resolved owner type => requireType known owner type
  | oneModel i => requireOneModel i

end Requirement

/-! ## One requirement -/

theorem requireBacked_eq_error_iff {enum : Record} {member : Variable} :
    requireBacked enum member = .error flaw ↔
      (Requirement.backed enum member).Breach known flaw := by
  have hbacked : backsEnum member.type = true ↔ member.type = "string" ∨ member.type = "number" :=
    backsEnum_iff
  unfold requireBacked
  split
  · rename_i htrue
    have htype := hbacked.mp htrue
    constructor
    · intro h
      cases h
    · intro h
      cases h with
      | unbacked hstring hnumber =>
        rcases htype with hs | hn
        · exact absurd hs hstring
        · exact absurd hn hnumber
  · rename_i hfalse
    have htype : ¬ (member.type = "string" ∨ member.type = "number") :=
      fun h => hfalse (hbacked.mpr h)
    rw [not_or] at htype
    constructor
    · intro h
      cases h
      exact .unbacked htype.1 htype.2
    · intro h
      cases h
      rfl

theorem requireType_eq_error_iff {owner type : String} :
    requireType known owner type = .error flaw ↔
      (Requirement.resolved owner type).Breach known flaw := by
  unfold requireType
  split
  · rename_i cause hparse
    constructor
    · intro h
      cases h
      exact .unreadable hparse
    · intro h
      cases h with
      | unreadable hcause =>
        cases hparse.symm.trans hcause
        rfl
      | unresolved ht => cases hparse.symm.trans ht
  · rename_i name array hparse
    have hknown : known.contains name = true ↔ name ∈ known := List.contains_iff_mem
    constructor
    · intro h
      split at h
      · cases h
      · rename_i hunknown
        cases h
        exact .unresolved hparse rfl fun hmem => hunknown (hknown.mpr hmem)
    · intro h
      cases h with
      | unreadable hcause => cases hparse.symm.trans hcause
      | unresolved ht hbase hmem =>
        cases hparse.symm.trans ht
        cases hbase
        rw [if_neg fun h => hmem (hknown.mp h)]
  · rename_i b array hparse
    constructor
    · intro h
      cases h
    · intro h
      cases h with
      | unreadable hcause => cases hparse.symm.trans hcause
      | unresolved ht hbase =>
        cases hparse.symm.trans ht
        cases hbase

theorem manyModels_iff {i : Interface} :
    [i.singleton, i.handle, i.fold].count true > 1 ↔ ManyModels i := by
  unfold ManyModels
  cases i.singleton <;> cases i.handle <;> cases i.fold <;> decide

theorem requireOneModel_eq_error_iff {i : Interface} :
    requireOneModel i = .error flaw ↔ (Requirement.oneModel i).Breach known flaw := by
  unfold requireOneModel
  split
  · rename_i hmany
    constructor
    · intro h
      cases h
      exact .conflicting (manyModels_iff.mp hmany)
    · intro h
      cases h
      rfl
  · rename_i hone
    constructor
    · intro h
      cases h
    · intro h
      cases h with
      | conflicting hmany => exact absurd (manyModels_iff.mpr hmany) hone

theorem Requirement.check_eq_error_iff {r : Requirement} :
    r.check known = .error flaw ↔ r.Breach known flaw := by
  cases r with
  | fresh category earlier name =>
    have hmem : earlier.contains name = true ↔ name ∈ earlier := List.contains_iff_mem
    rw [check]
    constructor
    · intro h
      split at h
      · rename_i htwice
        cases h
        exact .repeated (hmem.mp htwice)
      · cases h
    · intro h
      cases h with
      | repeated htwice => rw [if_pos (hmem.mpr htwice)]
  | backed enum member => exact requireBacked_eq_error_iff
  | resolved owner type => exact requireType_eq_error_iff
  | oneModel i => exact requireOneModel_eq_error_iff

theorem Requirement.check_eq_ok_iff {r : Requirement} :
    r.check known = .ok () ↔ ∀ flaw, ¬ r.Breach known flaw := by
  simp only [← check_eq_error_iff]
  cases r.check known with
  | error e => simp
  | ok _ => simp

/-! ## All requirements in order -/

/-- Each name is new after the ones before it. -/
def allFresh (category : Category) : (earlier names : List String) → List Requirement
  | _, [] => []
  | earlier, name :: names => .fresh category earlier name :: allFresh category (name :: earlier) names

/-- The types of a method: those of its parameters, and its result. -/
def methodTypes (i : Interface) (m : Method) : List Requirement :=
  m.params.map (fun p => .resolved s!"{i.name}.{m.name}({p.name})" p.type)
    ++ [.resolved s!"{i.name}.{m.name}" m.returns]

/-- What is asked of a description, in the order of the report. -/
def requirements (api : Api) : List Requirement :=
  allFresh .interface [] (api.interfaces.map (·.name))
    ++ (allFresh .struct [] (api.structs.map (·.name))
    ++ (allFresh .enum [] (api.enums.map (·.name))
    ++ (api.enums.flatMap (fun e => e.fields.map (.backed e))
    ++ (api.structs.flatMap (fun s =>
      s.fields.map fun f => .resolved s!"{s.name}.{f.name}" f.type)
    ++ api.interfaces.flatMap fun i => .oneModel i :: i.methods.flatMap (methodTypes i)))))

theorem requireUnique_eq_forM (category : Category) (names : List String) :
    requireUnique category names = (allFresh category [] names).forM (Requirement.check known) := by
  have hrun (earlier : List String) :
      (repeated? earlier names).elim (.ok ()) (fun name => .error (.duplicateName category name)) =
        (allFresh category earlier names).forM (Requirement.check known) := by
    induction names generalizing earlier with
    | nil => rfl
    | cons name names ih =>
      rw [allFresh, forM_cons, repeated?, Requirement.check]
      by_cases htwice : earlier.contains name = true
      · rw [if_pos htwice, if_pos htwice]
        rfl
      · rw [if_neg htwice, if_neg htwice]
        exact ih (name :: earlier)
  rw [← hrun [], requireUnique]
  cases repeated? [] names <;> rfl

theorem requireMethodTypes_eq_forM (i : Interface) (m : Method) :
    requireMethodTypes known i m = (methodTypes i m).forM (Requirement.check known) := by
  simp only [methodTypes, List.forM_eq_forM, List.forM_append, List.forM_map]
  simp only [← List.forM_eq_forM, forM_singleton]
  rfl

theorem requireInterface_eq_forM (i : Interface) :
    requireInterface known i =
      (Requirement.oneModel i :: i.methods.flatMap (methodTypes i)).forM
        (Requirement.check known) := by
  have hmethods : requireMethodTypes known i =
      fun m => (methodTypes i m).forM (Requirement.check known) :=
    funext fun m => requireMethodTypes_eq_forM i m
  rw [forM_cons, List.forM_eq_forM, forM_flatMap]
  simp only [← List.forM_eq_forM, ← hmethods]
  rfl

/-- Validation checks the requirements in order. -/
theorem validate_eq_forM (api : Api) :
    api.validate = api.requirements.forM (Requirement.check api.names) := by
  have hinterfaces : requireInterface api.names = fun i =>
      (Requirement.oneModel i :: i.methods.flatMap (methodTypes i)).forM
        (Requirement.check api.names) :=
    funext fun i => requireInterface_eq_forM i
  simp only [requirements, List.forM_eq_forM, List.forM_append, forM_flatMap, List.forM_map]
  simp only [← List.forM_eq_forM, ← hinterfaces, ← requireUnique_eq_forM]
  rfl

theorem validate_eq_error_iff :
    api.validate = .error flaw ↔ ∃ before r after, api.requirements = before ++ r :: after ∧
      r.Breach api.names flaw ∧ ∀ q ∈ before, ∀ other, ¬ q.Breach api.names other := by
  simp only [validate_eq_forM, forM_eq_error, Requirement.check_eq_ok_iff,
    Requirement.check_eq_error_iff]

/-! ## A reported flaw is there -/

def Category.names (api : Api) : Category → List String
  | interface => api.interfaces.map (·.name)
  | struct => api.structs.map (·.name)
  | enum => api.enums.map (·.name)

/-- The type is written in the description, and the owner says where. -/
inductive Written (api : Api) : (owner type : String) → Prop
  | field {s : Record} {f : Variable} :
      s ∈ api.structs → f ∈ s.fields → Written api s!"{s.name}.{f.name}" f.type
  | param {i : Interface} {m : Method} {p : Variable} :
      i ∈ api.interfaces → m ∈ i.methods → p ∈ m.params →
      Written api s!"{i.name}.{m.name}({p.name})" p.type
  | result {i : Interface} {m : Method} :
      i ∈ api.interfaces → m ∈ i.methods → Written api s!"{i.name}.{m.name}" m.returns

/-- The description has the flaw. -/
def Flaw.Genuine (api : Api) : Flaw → Prop
  | duplicateName category name => 2 ≤ (category.names api).count name
  | invalidType owner cause => ∃ type, Written api owner type ∧ TypeExpr.parse type = .error cause
  | unresolvedType owner name => ∃ type t, Written api owner type ∧
      TypeExpr.parse type = .ok t ∧ t.base = .named name ∧ name ∉ api.names
  | conflictingModel name => ∃ i ∈ api.interfaces, i.name = name ∧ ManyModels i
  | invalidEnumMember owner member type => ∃ e ∈ api.enums, ∃ v ∈ e.fields,
      e.name = owner ∧ v.name = member ∧ v.type = type ∧ type ≠ "string" ∧ type ≠ "number"

/-- What a requirement of the description is about is in the description. -/
def Requirement.About (api : Api) : Requirement → Prop
  | fresh category earlier name =>
    ∃ after, category.names api = earlier.reverse ++ name :: after
  | backed e v => e ∈ api.enums ∧ v ∈ e.fields
  | resolved owner type => Written api owner type
  | oneModel i => i ∈ api.interfaces

theorem about_of_mem_allFresh {category : Category} {earlier names : List String}
    (hsplit : category.names api = earlier.reverse ++ names) :
    ∀ r ∈ allFresh category earlier names, r.About api := by
  induction names generalizing earlier with
  | nil =>
    intro r hr
    cases hr
  | cons name names ih =>
    intro r hr
    rcases List.mem_cons.mp hr with rfl | hr
    · exact ⟨names, hsplit⟩
    · have hnext : category.names api = (name :: earlier).reverse ++ names := by
        rw [hsplit, List.reverse_cons, List.append_assoc, List.singleton_append]
      exact ih hnext r hr

theorem about_of_mem_requirements {r : Requirement} (h : r ∈ api.requirements) : r.About api := by
  simp only [requirements, List.mem_append] at h
  rcases h with h | h | h | h | h | h
  · exact about_of_mem_allFresh rfl r h
  · exact about_of_mem_allFresh rfl r h
  · exact about_of_mem_allFresh rfl r h
  · obtain ⟨e, he, hr⟩ := List.mem_flatMap.mp h
    obtain ⟨v, hv, rfl⟩ := List.mem_map.mp hr
    exact ⟨he, hv⟩
  · obtain ⟨s, hs, hr⟩ := List.mem_flatMap.mp h
    obtain ⟨f, hf, rfl⟩ := List.mem_map.mp hr
    exact .field hs hf
  · obtain ⟨i, hi, hr⟩ := List.mem_flatMap.mp h
    rcases List.mem_cons.mp hr with rfl | hr
    · exact hi
    · obtain ⟨m, hm, hr⟩ := List.mem_flatMap.mp hr
      rcases List.mem_append.mp hr with hr | hr
      · obtain ⟨p, hp, rfl⟩ := List.mem_map.mp hr
        exact .param hi hm hp
      · obtain rfl := List.mem_singleton.mp hr
        exact .result hi hm

theorem Requirement.Breach.genuine {r : Requirement} (h : r.Breach api.names flaw)
    (habout : r.About api) : flaw.Genuine api := by
  cases h with
  | @repeated category earlier name hmem =>
    obtain ⟨after, hsplit⟩ := habout
    have hearlier : 1 ≤ earlier.reverse.count name :=
      List.count_pos_iff.mpr (List.mem_reverse.mpr hmem)
    have hcount : (category.names api).count name =
        earlier.reverse.count name + (after.count name + 1) := by
      rw [hsplit, List.count_append, List.count_cons_self]
    show 2 ≤ (category.names api).count name
    omega
  | unbacked hstring hnumber =>
    exact ⟨_, habout.1, _, habout.2, rfl, rfl, rfl, hstring, hnumber⟩
  | unreadable hparse => exact ⟨_, habout, hparse⟩
  | unresolved hparse hbase hmem => exact ⟨_, _, habout, hparse, hbase, hmem⟩
  | conflicting hmany => exact ⟨_, habout, rfl, hmany⟩

/-- Validation passes exactly the sound descriptions. It reports a flaw exactly when the description
has it and it is the breach of the first requirement that is not met. -/
theorem validate_reports_first (api : Api) :
    (api.validate = .ok () ↔ api.Sound) ∧
    ∀ flaw, api.validate = .error flaw ↔
      flaw.Genuine api ∧
      ∃ before r after, api.requirements = before ++ r :: after ∧
        r.Breach api.names flaw ∧ ∀ q ∈ before, ∀ other, ¬ q.Breach api.names other := by
  refine ⟨validate_eq_ok_iff, fun flaw => ?_⟩
  rw [validate_eq_error_iff]
  constructor
  · rintro ⟨before, r, after, hsplit, hbreach, hfirst⟩
    have hmem : r ∈ api.requirements := by
      rw [hsplit]
      exact List.mem_append_right _ List.mem_cons_self
    exact ⟨hbreach.genuine (about_of_mem_requirements hmem), before, r, after, hsplit, hbreach,
      hfirst⟩
  · exact And.right

/-- Of several flaws the one of the first requirement is reported, not the one written first. -/
example : ({
    interfaces := [{ name := "Files", handle := true, fold := true }]
    structs := [{ name := "Entry" }, { name := "Entry" }]
    enums := [{ name := "Kind", fields := [{ name := "A", type := "boolean" }] }] } : Api).validate =
      .error (.duplicateName .struct "Entry") := by
  decide +kernel

end Bindery.Api

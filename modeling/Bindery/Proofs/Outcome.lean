import Mathlib.Data.List.Forall2

/-!
# Outcomes of computations that may fail

A computation either ends with a value or stops at its first failure. These lemmas take a sequence
of computations apart: what each part gave when the whole gave a value, and which part stopped when
the whole stopped. `Succeeds` says that a computation ends with a value, and follows its parts.
-/
namespace Bindery.Outcome
variable {ε ε' α β γ : Type}

@[simp] theorem pure_eq_ok {a b : α} : (pure a : Except ε α) = .ok b ↔ b = a := by
  simp [pure, Except.pure, eq_comm]

@[simp] theorem ok_bind (a : α) (f : α → Except ε β) : (Except.ok a >>= f) = f a := rfl

@[simp] theorem error_bind (e : ε) (f : α → Except ε β) :
    ((Except.error e : Except ε α) >>= f) = .error e := rfl

theorem bind_eq_ok {x : Except ε α} {f : α → Except ε β} {b : β} :
    (x >>= f) = .ok b ↔ ∃ a, x = .ok a ∧ f a = .ok b := by
  cases x <;> simp

theorem bind_eq_error {x : Except ε α} {f : α → Except ε β} {e : ε} :
    (x >>= f) = .error e ↔ x = .error e ∨ ∃ a, x = .ok a ∧ f a = .error e := by
  cases x <;> simp

/-- A check followed by a computation. -/
theorem check_bind_eq_ok {x : Except ε Unit} {y : Except ε β} {b : β} :
    (x >>= fun _ => y) = .ok b ↔ x = .ok () ∧ y = .ok b := by
  cases x <;> simp

@[simp] theorem map_eq_ok {x : Except ε α} {f : α → β} {b : β} :
    (f <$> x) = .ok b ↔ ∃ a, x = .ok a ∧ b = f a := by
  cases x <;> simp [Functor.map, Except.map, eq_comm]

@[simp] theorem mapError_eq_ok {x : Except ε α} {f : ε → ε'} {a : α} :
    x.mapError f = .ok a ↔ x = .ok a := by
  cases x <;> simp [Except.mapError]

@[simp] theorem mapError_eq_error {x : Except ε α} {f : ε → ε'} {e : ε'} :
    x.mapError f = .error e ↔ ∃ cause, x = .error cause ∧ e = f cause := by
  cases x <;> simp [Except.mapError, eq_comm]

theorem forM_cons {x : α} {xs : List α} {check : α → Except ε Unit} :
    (x :: xs).forM check = check x >>= fun _ => xs.forM check := rfl

/-- A check of every element passes exactly when each element passes. -/
theorem forM_eq_ok {xs : List α} {check : α → Except ε Unit} :
    xs.forM check = .ok () ↔ ∀ x ∈ xs, check x = .ok () := by
  induction xs with
  | nil => exact ⟨fun _ _ h => (List.not_mem_nil h).elim, fun _ => rfl⟩
  | cons x xs ih =>
    rw [forM_cons, bind_eq_ok, List.forall_mem_cons, ← ih]
    exact ⟨fun ⟨_, hx, hxs⟩ => ⟨hx, hxs⟩, fun ⟨hx, hxs⟩ => ⟨(), hx, hxs⟩⟩

theorem forM_singleton {x : α} {check : α → Except ε Unit} : [x].forM check = check x := by
  rw [forM_cons]
  cases check x <;> rfl

theorem forM_flatMap {xs : List β} {f : β → List α} {check : α → Except ε Unit} :
    forM (xs.flatMap f) check = forM xs fun x => forM (f x) check := by
  induction xs with
  | nil => rfl
  | cons x xs ih => rw [List.flatMap_cons, List.forM_append, ih, List.forM_cons]

/-- A check of every element stops at the first one that does not pass. -/
theorem forM_eq_error {xs : List α} {check : α → Except ε Unit} {e : ε} :
    xs.forM check = .error e ↔ ∃ before x after, xs = before ++ x :: after ∧
      check x = .error e ∧ ∀ y ∈ before, check y = .ok () := by
  induction xs with
  | nil =>
    constructor
    · intro h
      cases h
    · rintro ⟨before, x, after, hsplit, -, -⟩
      simp at hsplit
  | cons x xs ih =>
    rw [forM_cons, bind_eq_error, ih]
    constructor
    · rintro (hx | ⟨_, hx, before, y, after, rfl, hy, hbefore⟩)
      · exact ⟨[], x, xs, rfl, hx, fun _ h => (List.not_mem_nil h).elim⟩
      · exact ⟨x :: before, y, after, rfl, hy, List.forall_mem_cons.mpr ⟨hx, hbefore⟩⟩
    · rintro ⟨before, y, after, hsplit, hy, hbefore⟩
      cases before with
      | nil =>
        obtain ⟨rfl, rfl⟩ := List.cons.inj hsplit
        exact .inl hy
      | cons z before =>
        obtain ⟨rfl, rfl⟩ := List.cons.inj hsplit
        obtain ⟨hz, hbefore⟩ := List.forall_mem_cons.mp hbefore
        exact .inr ⟨(), hz, before, y, after, rfl, hy, hbefore⟩

/-- A computation on every element gives all values when each element gives its own. -/
theorem mapM_eq_ok_map {xs : List α} {f : α → Except ε β} {g : α → β}
    (h : ∀ x ∈ xs, f x = .ok (g x)) : xs.mapM f = .ok (xs.map g) := by
  induction xs with
  | nil => rfl
  | cons x xs ih =>
    rw [List.mapM_cons, h x List.mem_cons_self, ih fun y hy => h y (List.mem_cons_of_mem x hy)]
    rfl

/-- The computation ends with a value. -/
def Succeeds (x : Except ε α) : Prop := ∃ a, x = .ok a

namespace Succeeds

theorem pure (a : α) : Succeeds (Pure.pure a : Except ε α) := ⟨a, rfl⟩

theorem of_isOk {x : Except ε α} (h : x.isOk = true) : Succeeds x := by
  cases x with
  | error e => cases h
  | ok a => exact pure a

theorem bind {x : Except ε α} {f : α → Except ε β} (hx : Succeeds x)
    (hf : ∀ a, x = .ok a → Succeeds (f a)) : Succeeds (x >>= f) := by
  obtain ⟨a, ha⟩ := hx
  obtain ⟨b, hb⟩ := hf a ha
  exact ⟨b, bind_eq_ok.mpr ⟨a, ha, hb⟩⟩

theorem mapError {x : Except ε α} (hx : Succeeds x) (f : ε → ε') : Succeeds (x.mapError f) := by
  obtain ⟨a, ha⟩ := hx
  exact ⟨a, mapError_eq_ok.mpr ha⟩

theorem mapM {xs : List α} {f : α → Except ε β} (h : ∀ x ∈ xs, Succeeds (f x)) :
    Succeeds (xs.mapM f) := by
  induction xs with
  | nil => exact pure []
  | cons x xs ih =>
    rw [List.mapM_cons]
    exact (h x List.mem_cons_self).bind fun y _ =>
      (ih fun z hz => h z (List.mem_cons_of_mem x hz)).bind fun ys _ => pure (y :: ys)

end Succeeds

/-- A sequence whose later parts end with a value stops exactly where its first part does. -/
theorem bind_eq_error_iff_left {x : Except ε α} {f : α → Except ε β} {e : ε}
    (hf : ∀ a, x = .ok a → Succeeds (f a)) : (x >>= f) = .error e ↔ x = .error e := by
  rw [bind_eq_error]
  constructor
  · intro h
    rcases h with hx | ⟨a, ha, he⟩
    · exact hx
    · obtain ⟨b, hb⟩ := hf a ha
      rw [hb] at he
      cases he
  · exact Or.inl

end Bindery.Outcome

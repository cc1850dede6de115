import Bindery.TypeExpr
import Mathlib.Data.Set.Function

/-!
# The grammar of written types

A written type is a base with at most one array mark behind it, and the base is the name of a
built-in type or starts with a capital. `Split` says where the mark is cut off and `Writable` which
types have a writing at all: a name that reads as something else has none. The main statement,
`reading_inverts_writing`, says which texts are refused and why, and that reading and writing undo
each other between the accepted texts and the writable types.
-/
namespace Bindery.TypeExpr

/-- The text is its base with one array mark behind it, or it has no mark and is its own base. -/
inductive Split : (text base : String) → (array : Bool) → Prop
  | marked (base : String) : Split (base ++ "[]") base true
  | bare {text : String} : (∀ front, text ≠ front ++ "[]") → Split text text false

/-- The text starts with an upper-case character. -/
def Capitalised (text : String) : Prop :=
  ∃ c rest, text.toList = c :: rest ∧ Unicode.isUppercase c = true

/-- The text starts with a bracket, as tuples do. -/
def Bracketed (text : String) : Prop :=
  ∃ rest, text = "[" ++ rest

/-- What may stand before an array mark. -/
def ReadableBase (base : String) : Prop :=
  (∃ p : Builtin, p.name = base) ∨ Capitalised base

/-- The types that are read from some text. A name of its own is capitalised and is not the name of
a built-in type; it ends with an array mark only if another mark follows. -/
def Writable (t : TypeExpr) : Prop :=
  match t.base with
  | .builtin _ => True
  | .named name => Capitalised name ∧ (∀ p : Builtin, p.name ≠ name) ∧
      (t.array = false → ∀ front, name ≠ front ++ "[]")

/-! ## The array mark -/

theorem element?_eq_some_iff {text base : String} :
    element? text = some base ↔ text = base ++ "[]" := by
  rw [← String.toList_inj, String.toList_append, ← List.reverse_inj, List.reverse_append]
  unfold element?
  split
  · rename_i front hfront
    rw [hfront, Option.some.injEq, ← String.toList_inj, String.toList_ofList, List.reverse_eq_iff]
    simp
  · rename_i hother
    constructor
    · intro h
      cases h
    · intro h
      exact absurd h (hother _)

theorem element?_eq_none_iff {text : String} :
    element? text = none ↔ ∀ front, text ≠ front ++ "[]" := by
  constructor
  · intro hnone front htext
    rw [element?_eq_some_iff.mpr htext] at hnone
    cases hnone
  · intro hbare
    rw [Option.eq_none_iff_forall_ne_some]
    intro front hfront
    exact hbare front (element?_eq_some_iff.mp hfront)

/-- The mark is cut off in one way only, the way in which types are read. -/
theorem split_iff {text base : String} {array : Bool} :
    Split text base array ↔
      base = (element? text).getD text ∧ array = (element? text).isSome := by
  constructor
  · intro h
    cases h with
    | marked => simp [element?_eq_some_iff.mpr rfl]
    | bare hbare => simp [element?_eq_none_iff.mpr hbare]
  · rintro ⟨rfl, rfl⟩
    cases hmark : element? text with
    | none => exact .bare (element?_eq_none_iff.mp hmark)
    | some front =>
      rw [element?_eq_some_iff.mp hmark]
      exact .marked front

theorem exists_split (text : String) : ∃ base array, Split text base array :=
  ⟨_, _, split_iff.mpr ⟨rfl, rfl⟩⟩

/-- Putting the mark back gives the text. -/
theorem Split.join {text base : String} {array : Bool} (h : Split text base array) :
    (if array then base ++ "[]" else base) = text := by
  cases h with
  | marked => rfl
  | bare => rfl

/-- No built-in name ends with an array mark. -/
theorem name_ne_marked (p : Builtin) (front : String) : p.name ≠ front ++ "[]" := by
  have hnone : element? p.name = none := by cases p <;> decide
  exact element?_eq_none_iff.mp hnone front

theorem split_name (p : Builtin) (array : Bool) :
    Split (if array then p.name ++ "[]" else p.name) p.name array := by
  cases array with
  | true => exact .marked p.name
  | false => exact .bare (name_ne_marked p)

/-! ## The first character -/

theorem leads_isUppercase_iff {text : String} :
    leads Unicode.isUppercase text = true ↔ Capitalised text := by
  unfold leads Capitalised
  cases text.toList <;> simp

theorem leads_bracket_iff {text : String} : leads (· == '[') text = true ↔ Bracketed text := by
  unfold leads Bracketed
  simp only [← String.toList_inj, String.toList_append]
  constructor
  · intro h
    cases htext : text.toList with
    | nil => simp [htext] at h
    | cons c rest =>
      obtain rfl : c = '[' := by simpa [htext] using h
      exact ⟨String.ofList rest, by simp⟩
  · rintro ⟨rest, hrest⟩
    simp [hrest]

/-- A text with a capitalised base is no tuple: the mark behind the base is not its front. -/
theorem Split.not_bracketed {text base : String} {array : Bool} (h : Split text base array)
    (hbase : Capitalised base) : ¬ Bracketed text := by
  obtain ⟨c, rest, hc, hupper⟩ := hbase
  rintro ⟨inner, rfl⟩
  have hhead : ("[" ++ inner).toList.head? = some c := by
    rw [← h.join]
    cases array <;> simp [hc]
  obtain rfl : '[' = c := by simpa using hhead
  revert hupper
  decide

/-! ## Reading -/

section Read
variable {text base : String} {array : Bool}

theorem parse_builtin (h : Split text base array) {p : Builtin} (hp : p.name = base) :
    parse text = .ok ⟨.builtin p, array⟩ := by
  obtain ⟨rfl, rfl⟩ := split_iff.mp h
  simp only [parse, Builtin.ofName?_eq_some_iff.mpr hp]

/-- What is done with a base that no built-in type has. -/
theorem parse_of_ne (h : Split text base array) (hne : ∀ p : Builtin, p.name ≠ base) :
    parse text = if leads (· == '[') text then .error (.tuple text)
      else if leads Unicode.isUppercase base then .ok ⟨.named base, array⟩
      else .error (.unknown text) := by
  obtain ⟨rfl, rfl⟩ := split_iff.mp h
  have hnone : Builtin.ofName? ((element? text).getD text) = none := by
    rw [Option.eq_none_iff_forall_ne_some]
    intro p hp
    exact hne p (Builtin.ofName?_eq_some_iff.mp hp)
  simp only [parse, hnone]

theorem parse_named (h : Split text base array) (hne : ∀ p : Builtin, p.name ≠ base)
    (hbase : Capitalised base) : parse text = .ok ⟨.named base, array⟩ := by
  have hfront : leads (· == '[') text ≠ true :=
    fun hlead => h.not_bracketed hbase (leads_bracket_iff.mp hlead)
  rw [parse_of_ne h hne, if_neg hfront, if_pos (leads_isUppercase_iff.mpr hbase)]

theorem parse_refused (h : Split text base array) (hbase : ¬ ReadableBase base)
    {e : Error} : parse text = .error e ↔
      (Bracketed text ∧ e = .tuple text) ∨ (¬ Bracketed text ∧ e = .unknown text) := by
  have hne (p : Builtin) : p.name ≠ base := fun hp => hbase (.inl ⟨p, hp⟩)
  have hsmall : leads Unicode.isUppercase base ≠ true :=
    fun hlead => hbase (.inr (leads_isUppercase_iff.mp hlead))
  rw [parse_of_ne h hne, if_neg hsmall]
  by_cases hfront : Bracketed text
  · rw [if_pos (leads_bracket_iff.mpr hfront), Except.error.injEq, eq_comm]
    simp [hfront]
  · rw [if_neg fun hlead => hfront (leads_bracket_iff.mp hlead), Except.error.injEq, eq_comm]
    simp [hfront]

theorem exists_parse_iff (h : Split text base array) :
    (∃ t, parse text = .ok t) ↔ ReadableBase base := by
  constructor
  · rintro ⟨t, ht⟩
    by_contra hbase
    by_cases hfront : Bracketed text
    · rw [(parse_refused h hbase).mpr (.inl ⟨hfront, rfl⟩)] at ht
      cases ht
    · rw [(parse_refused h hbase).mpr (.inr ⟨hfront, rfl⟩)] at ht
      cases ht
  · intro hbase
    by_cases hbuiltin : ∃ p : Builtin, p.name = base
    · obtain ⟨p, hp⟩ := hbuiltin
      exact ⟨_, parse_builtin h hp⟩
    · exact ⟨_, parse_named h (not_exists.mp hbuiltin) (hbase.resolve_left hbuiltin)⟩

theorem parse_eq_error_iff (h : Split text base array) {e : Error} :
    parse text = .error e ↔ ¬ ReadableBase base ∧
      ((Bracketed text ∧ e = .tuple text) ∨ (¬ Bracketed text ∧ e = .unknown text)) := by
  constructor
  · intro he
    have hbase : ¬ ReadableBase base := by
      intro hbase
      obtain ⟨t, ht⟩ := (exists_parse_iff h).mpr hbase
      rw [he] at ht
      cases ht
    exact ⟨hbase, (parse_refused h hbase).mp he⟩
  · rintro ⟨hbase, he⟩
    exact (parse_refused h hbase).mpr he

end Read

/-- A type that was read is writable, and the text is split into its parts. -/
theorem writable_of_parse {text : String} {t : TypeExpr} (ht : parse text = .ok t) :
    t.Writable ∧ Split text t.base.text t.array := by
  obtain ⟨base, array, h⟩ := exists_split text
  by_cases hbuiltin : ∃ p : Builtin, p.name = base
  · obtain ⟨p, rfl⟩ := hbuiltin
    cases (parse_builtin h rfl).symm.trans ht
    exact ⟨trivial, h⟩
  · have hne := not_exists.mp hbuiltin
    have hbase := ((exists_parse_iff h).mp ⟨t, ht⟩).resolve_left hbuiltin
    cases (parse_named h hne hbase).symm.trans ht
    refine ⟨⟨hbase, hne, ?_⟩, h⟩
    rintro rfl
    cases h with
    | bare hbare => exact hbare

/-- A writable type is read back from its writing. -/
theorem parse_text {t : TypeExpr} (h : t.Writable) : parse t.text = .ok t := by
  obtain ⟨base, array⟩ := t
  cases base with
  | builtin p => exact parse_builtin (split_name p array) rfl
  | named name =>
    obtain ⟨hcapital, hne, hbare⟩ := h
    cases array with
    | true => exact parse_named (.marked name) hne hcapital
    | false => exact parse_named (.bare (hbare rfl)) hne hcapital

theorem parse_eq_ok_iff {text : String} {t : TypeExpr} :
    parse text = .ok t ↔ t.Writable ∧ t.text = text := by
  constructor
  · intro ht
    obtain ⟨hwritable, hsplit⟩ := writable_of_parse ht
    exact ⟨hwritable, hsplit.join⟩
  · rintro ⟨hwritable, rfl⟩
    exact parse_text hwritable

/-- A text is read exactly when its base is, and else it is refused as a tuple or as unknown.
Reading and writing undo each other between the texts that are read and the writable types. -/
theorem reading_inverts_writing :
    (∀ text, ∃ base array, Split text base array ∧
      ((∃ t, parse text = .ok t) ↔ ReadableBase base) ∧
      ∀ e, parse text = .error e ↔ ¬ ReadableBase base ∧
        ((Bracketed text ∧ e = .tuple text) ∨ (¬ Bracketed text ∧ e = .unknown text))) ∧
    (∀ text t, parse text = .ok t ↔ t.Writable ∧ t.text = text) ∧
    (∀ t, parse t.text = .ok t ↔ t.Writable) ∧
    (∀ t, (∃ text, parse text = .ok t) ↔ t.Writable) ∧
    Set.BijOn TypeExpr.text {t | t.Writable} {text | ∃ t, parse text = .ok t} := by
  refine ⟨?_, fun _ _ => parse_eq_ok_iff, ?_, ?_, ?_, ?_, ?_⟩
  · intro text
    obtain ⟨base, array, h⟩ := exists_split text
    exact ⟨base, array, h, exists_parse_iff h, fun e => parse_eq_error_iff h⟩
  · intro t
    rw [parse_eq_ok_iff, and_iff_left rfl]
  · intro t
    simp only [parse_eq_ok_iff, exists_and_left, exists_eq', and_true]
  · intro t ht
    exact ⟨t, parse_text ht⟩
  · intro t ht u hu htext
    have hread := parse_text ht
    rw [htext, parse_text hu] at hread
    exact (Except.ok.inj hread).symm
  · rintro text ⟨t, ht⟩
    exact ⟨t, parse_eq_ok_iff.mp ht⟩

/-- Only one mark is cut off, and what it leaves may be the name of a built-in type or not. -/
example : parse "Uint8Array[][]" = .ok ⟨.named "Uint8Array[]", true⟩ ∧
    parse "Uint8Array[]" = .ok ⟨.builtin .bytes, true⟩ ∧ parse "[][]" = .error (.tuple "[][]") := by
  decide +kernel

end Bindery.TypeExpr

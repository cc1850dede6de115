import Bindery.Header.Types
import Bindery.Host.Types
import Bindery.Proofs.Api.Readable

/-!
# Spelling readable types

A table spells every type that can be read and converts every value of such a type. Both sides of
the boundary leave nothing but the empty type unspelled.
-/
namespace Bindery
open Outcome

theorem TypeTable.spellText_eq_ok_iff {table : TypeTable} {text spelled : String} :
    table.spellText text = .ok spelled ↔
      ∃ t, TypeExpr.parse text = .ok t ∧ spelled = table.spell t := by
  simp [TypeTable.spellText]

theorem TypeTable.spellText_succeeds (table : TypeTable) {text : String}
    (h : Succeeds (TypeExpr.parse text)) : Succeeds (table.spellText text) :=
  h.bind fun t _ => .pure (table.spell t)

theorem ValueTable.convertText_succeeds (table : ValueTable) {text : String}
    (h : Succeeds (TypeExpr.parse text)) (value lead : String) :
    Succeeds (table.convertText text value lead) :=
  h.bind fun t _ => .pure (table.convert t value lead)

/-- A name of its own is not the empty text. -/
theorem TypeExpr.ne_empty_of_parse {text name : String} {array : Bool}
    (h : TypeExpr.parse text = .ok ⟨.named name, array⟩) : name ≠ "" := by
  simp only [TypeExpr.parse] at h
  split at h
  · simp at h
  · split at h
    · simp at h
    · split at h
      · rename_i hl
        simp only [Except.ok.injEq, TypeExpr.mk.injEq, Base.named.injEq] at h
        intro hempty
        rw [h.1, hempty] at hl
        simp [TypeExpr.leads] at hl
      · simp at h

theorem Host.foreignTypes_spell_eq_empty {t : TypeExpr} :
    Host.foreignTypes.spell t = "" ↔ t.isVoid = true := by
  obtain ⟨base, array⟩ := t
  cases array with
  | true => simp [TypeTable.spell, Host.foreignTypes, TypeExpr.isVoid]
  | false =>
    cases base with
    | builtin p => cases p <;> decide
    | named name => simp [TypeTable.spell, TypeTable.base, Host.foreignTypes, TypeExpr.isVoid]

theorem Header.types_spell_eq_empty {text : String} {t : TypeExpr}
    (h : TypeExpr.parse text = .ok t) : Header.types.spell t = "" ↔ t.isVoid = true := by
  obtain ⟨base, array⟩ := t
  cases array with
  | true => simp [TypeTable.spell, Header.types, TypeExpr.isVoid]
  | false =>
    cases base with
    | builtin p => cases p <;> decide
    | named name =>
      simp [TypeTable.spell, TypeTable.base, Header.types, TypeExpr.isVoid,
        TypeExpr.ne_empty_of_parse h]

end Bindery

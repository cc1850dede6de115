import Bindery.Json.Writer
import Bindery.Proofs.Json.Writings

/-!
# What is written is a writing

The compact form in which values are written is one of those that the grammar allows. Strings go
character by character, by the three ways in which a character is written. A list or an object has
no blanks, and an object gives all fields of a record in their order. So what was written is read
back, by way of `accepts_readRecord`.
-/
namespace Bindery.Json
variable {α : Type}

/-! ## Strings and truth values -/

/-- A character is written as an escape of one letter, as an escape of four digits, or as itself. -/
theorem writeChar_cases (c : Char) :
    (∃ x, (x, c) ∈ letterEscapes ∧ writeChar c = ['\\', x]) ∨
    (c.toNat < 0x20 ∧ writeChar c =
      ['\\', 'u', '0', '0', hexDigit (c.toNat / 16), hexDigit (c.toNat % 16)]) ∨
    (StandsForItself c ∧ writeChar c = [c]) := by
  unfold writeChar
  split
  case h_8 hquote hback _ _ _ _ _ =>
    split
    · rename_i hlt
      exact .inr (.inl ⟨hlt, rfl⟩)
    · rename_i hge
      exact .inr (.inr ⟨⟨hquote, hback, Nat.le_of_not_lt hge⟩, rfl⟩)
  all_goals exact .inl ⟨_, by decide, rfl⟩

theorem hexDigit_spec {n : Nat} (h : n < 16) : HexDigit (hexDigit n) n := ⟨h, .inl rfl⟩

theorem writesChar_writeChar (c : Char) : WritesChar c (writeChar c) := by
  rcases writeChar_cases c with ⟨x, hx, hw⟩ | ⟨hlt, hw⟩ | ⟨hself, hw⟩
  · rw [hw]
    exact .letter hx
  · rw [hw]
    have hzero : HexDigit '0' 0 := ⟨by decide, .inl rfl⟩
    have hquad := HexQuad.mk hzero hzero (hexDigit_spec (show c.toNat / 16 < 16 by omega))
      (hexDigit_spec (show c.toNat % 16 < 16 by omega))
    have hsum : ((0 * 16 + 0) * 16 + c.toNat / 16) * 16 + c.toNat % 16 = c.toNat := by omega
    rw [hsum] at hquad
    exact .code hquad
  · rw [hw]
    exact .self hself

theorem writesChars_writeChar (cs : List Char) : WritesChars cs (cs.flatMap writeChar) := by
  induction cs with
  | nil => exact .nil
  | cons c cs ih =>
    rw [List.flatMap_cons]
    exact .cons (writesChar_writeChar c) ih

theorem writesString_writeString (text : String) : WritesString text (writeString text) :=
  .quoted (writesChars_writeChar text.toList)

theorem writesFlag_writeFlag (b : Bool) : WritesFlag b (writeFlag b) := by
  cases b with
  | false => exact .false
  | true => exact .true

/-! ## Lists and objects -/

theorem between_eq_commaSeparated (parts : List (List Char)) :
    between Blanks.none parts = commaSeparated parts := by
  induction parts with
  | nil => rfl
  | cons part parts ih =>
    cases parts with
    | nil => simp [between, commaLed, commaSeparated]
    | cons next parts =>
      rw [commaSeparated, ← ih]
      · simp [between, commaLed]
      · exact List.cons_ne_nil next parts

theorem Part.text_bare (core : List Char) : (Part.bare core).text = core := by
  simp [Part.text, Part.bare, Blanks.none]

theorem listWriting_writeList {Written : α → List Char → Prop} {write : α → List Char}
    {as : List α} (h : ∀ a ∈ as, Written a (write a)) :
    ListWriting Written as (writeList write as) := by
  have hitems : List.Forall₂ (fun a p => Written a (Part.core p)) as
      (as.map fun a => Part.bare (write a)) := by
    rw [List.forall₂_map_right_iff, List.forall₂_same]
    exact h
  have hwriting := ListWriting.mk Blanks.none hitems
  rw [between_eq_commaSeparated, List.map_map] at hwriting
  have htexts : as.map (Part.text ∘ fun a => Part.bare (write a)) = as.map write :=
    List.map_congr_left fun a _ => Part.text_bare (write a)
  rwa [htexts] at hwriting

def Member.bare (member : String × List Char) : Member :=
  ⟨Part.bare (writeString member.1), Part.bare member.2⟩

theorem recordWriting_writeObject {slots : List Slot} {members : List (String × List Char)}
    (h : List.Forall₂ (fun slot member => slot.key = member.1 ∧ slot.Written member.2)
      slots members) : RecordWriting slots (writeObject members) := by
  have hgives (known : List String) : Gives known slots (members.map Member.bare) := by
    induction h with
    | nil => exact .done
    | @cons slot member _ _ hfirst _ ih =>
      obtain ⟨hkey, hwritten⟩ := hfirst
      exact .field (hkey ▸ writesString_writeString slot.key) hwritten ih
  have hall : (slots ++ []).Perm slots := by rw [List.append_nil]
  have hwriting := RecordWriting.object Blanks.none hall (by simp) (hgives _)
  rw [between_eq_commaSeparated, List.map_map] at hwriting
  have htexts : members.map (Member.text ∘ Member.bare) =
      members.map fun m => writeString m.1 ++ ':' :: m.2 := by
    refine List.map_congr_left fun m _ => ?_
    simp [Member.text, Member.bare, Part.text_bare]
  rwa [htexts] at hwriting

end Bindery.Json

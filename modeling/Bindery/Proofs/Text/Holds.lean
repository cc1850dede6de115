import Bindery.Text.Lines

/-!
# Parts of a text

`Holds text part` says that the part stands somewhere in the text. Generated texts are put together
by appending, joining and separating, and what a piece holds is held by the whole.
`Before text first second` says that two parts stand in this order. `Linear make` says that a text
is made from a part by putting it in one place.
-/
namespace Bindery.Text

/-- The text holds the part. -/
def Holds (text part : String) : Prop := ∃ before after, text = before ++ part ++ after

namespace Holds
variable {text part : String}

theorem refl (text : String) : Holds text text := ⟨"", "", by simp⟩

theorem append_left (h : Holds text part) (more : String) : Holds (more ++ text) part := by
  obtain ⟨before, after, rfl⟩ := h
  exact ⟨more ++ before, after, by simp only [String.append_assoc]⟩

theorem append_right (h : Holds text part) (more : String) : Holds (text ++ more) part := by
  obtain ⟨before, after, rfl⟩ := h
  exact ⟨before, after ++ more, by simp only [String.append_assoc]⟩

theorem trans {piece : String} (h : Holds text part) (hpart : Holds part piece) :
    Holds text piece := by
  obtain ⟨before, after, rfl⟩ := h
  exact (hpart.append_left before).append_right after

theorem join {texts : List String} (hmem : text ∈ texts) (h : Holds text part) :
    Holds (String.join texts) part := by
  induction texts with
  | nil => cases hmem
  | cons first rest ih =>
    rw [String.join_cons]
    rcases List.mem_cons.mp hmem with rfl | hrest
    · exact h.append_right _
    · exact (ih hrest).append_left _

theorem commas {parts : List String} (hmem : text ∈ parts) (h : Holds text part) :
    Holds (Text.commas parts) part := by
  induction parts with
  | nil => cases hmem
  | cons first rest ih =>
    by_cases hrest : rest = []
    · subst hrest
      obtain rfl := List.mem_singleton.mp hmem
      simpa [Text.commas] using h
    · rw [Text.commas, String.intercalate_cons_of_ne_nil hrest]
      rcases List.mem_cons.mp hmem with rfl | hlater
      · exact (h.append_right _).append_right _
      · exact (ih hlater).append_left _

/-- A line stands between two line feeds. -/
theorem line {ls : List String} (h : text ∈ ls) :
    Holds ("\n" ++ lines ls) ("\n" ++ text ++ "\n") := by
  induction ls with
  | nil => cases h
  | cons first rest ih =>
    have hcons : lines (first :: rest) = first ++ "\n" ++ lines rest := String.join_cons
    rw [hcons]
    rcases List.mem_cons.mp h with rfl | hrest
    · exact ⟨"", lines rest, by simp only [String.empty_append, String.append_assoc]⟩
    · have hlater := (ih hrest).append_left ("\n" ++ first)
      simpa only [String.append_assoc] using hlater

end Holds

/-- The text holds the first part and, after its end, the second one. -/
def Before (text first second : String) : Prop :=
  ∃ before between after, text = before ++ first ++ between ++ second ++ after

namespace Before
variable {text first second : String}

theorem append_left (h : Before text first second) (more : String) :
    Before (more ++ text) first second := by
  obtain ⟨before, between, after, rfl⟩ := h
  exact ⟨more ++ before, between, after, by simp only [String.append_assoc]⟩

theorem append (hfirst : Holds text first) {rest : String} (hsecond : Holds rest second) :
    Before (text ++ rest) first second := by
  obtain ⟨before, middle, rfl⟩ := hfirst
  obtain ⟨middle', after, rfl⟩ := hsecond
  exact ⟨before, middle ++ middle', after, by simp only [String.append_assoc]⟩

theorem join {texts : List String} (h : [first, second].Sublist texts) :
    Before (String.join texts) first second := by
  obtain ⟨front, back, rfl, hfirst, hback⟩ := List.cons_sublist_iff.mp h
  have hsecond := List.singleton_sublist.mp hback
  rw [String.join_append]
  exact append ((Holds.refl first).join hfirst) ((Holds.refl second).join hsecond)

end Before

/-- The text that is made from a part holds it in one place, which is the same for every part. -/
def Linear (make : String → String) : Prop :=
  ∃ before after, ∀ part, make part = before ++ part ++ after

namespace Linear
variable {make : String → String}

theorem id : Linear fun part => part := ⟨"", "", by simp⟩

theorem append_left (h : Linear make) (more : String) : Linear fun part => more ++ make part := by
  obtain ⟨before, after, hmake⟩ := h
  exact ⟨more ++ before, after, fun part => by simp only [hmake, String.append_assoc]⟩

theorem append_right (h : Linear make) (more : String) : Linear fun part => make part ++ more := by
  obtain ⟨before, after, hmake⟩ := h
  exact ⟨before, after ++ more, fun part => by simp only [hmake, String.append_assoc]⟩

theorem holds (h : Linear make) (part : String) : Holds (make part) part := by
  obtain ⟨before, after, hmake⟩ := h
  exact ⟨before, after, hmake part⟩

end Linear
end Bindery.Text

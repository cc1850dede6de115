import Bindery.Header.Declarations
import Bindery.Proofs.Spelling
import Bindery.Proofs.Text.Holds

/-!
# The text of declarations

What stands in a header for an enum and for a struct, written out: the type definition of an enum
with its enumerators, the announcement of a struct, and the definition of a struct with a line for
each of its fields. An array takes two lines, as its length stands beside it. The declarations of a
description are put together from these texts.
-/
namespace Bindery.Header
open Outcome Text
variable {api : Api} {f : Variable} {s : Record}

/-- The enumerators of an enum. C numbers them from zero. -/
def enumeratorsOf (e : Record) : List String := e.fields.map fun m => e.name ++ "_" ++ m.name

/-- The type definition of an enum. -/
def enumTypedef (e : Record) : String :=
  "\ntypedef enum " ++ e.name ++ " \x7b\n  " ++ ",\n  ".intercalate (enumeratorsOf e)
    ++ "\n\x7d " ++ e.name ++ ";\n"

/-- The announcement of a struct. -/
def structTypedef (s : Record) : String :=
  "typedef struct " ++ s.name ++ " " ++ s.name ++ ";\n"

/-- How C writes a type. -/
def typeText (t : TypeExpr) : String :=
  let base :=
    match t.base with
    | .builtin .boolean => "short"
    | .builtin .number => "double"
    | .builtin .bigint => "longlong"
    | .builtin .string | .builtin .bytes => "char*"
    | .builtin .void => ""
    | .named name => name
  if t.array then base ++ "*" else base

structure Field where
  type : String
  name : String
  deriving DecidableEq, Repr

def Field.text (c : Field) : String := c.type ++ " " ++ c.name

/-- The fields of C for a field of the description. -/
def declaredFields (f : Variable) : List Field :=
  ⟨typeText (TypeExpr.read f.type), f.name⟩ ::
    if f.arrayTyped then [⟨"size_t", f.name ++ "_length"⟩] else []

/-- The definition of a struct. -/
def structText (s : Record) : String :=
  "\nstruct " ++ s.name ++ " \x7b\n"
    ++ String.join ((s.fields.flatMap declaredFields).map fun c => "  " ++ c.text ++ ";\n")
    ++ "\x7d;\n"

theorem spell_eq (t : TypeExpr) : types.spell t = typeText t := by
  obtain ⟨base, array⟩ := t
  cases base with
  | named name => rfl
  | builtin p => cases p <;> rfl

theorem declareVariable_eq (h : f.Readable) :
    declareVariable f = .ok ((declaredFields f).map Field.text) := by
  obtain ⟨t, ht⟩ := h
  have ht : TypeExpr.parse f.type = .ok t := ht
  have hlength : "size_t " ++ f.name ++ "_length" = "size_t" ++ " " ++ (f.name ++ "_length") := by
    simp [← String.toList_inj]
  simp only [declareVariable, TypeTable.spellText, ht, declaredFields, TypeExpr.read_of_parse ht,
    ok_bind, ← spell_eq]
  split
  · exact congrArg (fun length => Except.ok [_, length]) hlength
  · rfl

theorem declareFields_eq (h : s.Readable) :
    declareFields s = .ok ((s.fields.flatMap declaredFields).map Field.text) := by
  have hfields := mapM_eq_ok_map fun f hf => declareVariable_eq (h f hf)
  simp only [declareFields, hfields, ok_bind, ← List.flatMap_def, List.map_flatMap]
  rfl

/-- The definition that is kept for a struct. -/
def definitionOf (s : Record) : Definition where
  name := s.name
  fields := (s.fields.flatMap declaredFields).map Field.text

theorem text_definitionOf (s : Record) : (definitionOf s).text = structText s := by
  have hlines : (definitionOf s).fields.map (fun f => "  " ++ f ++ ";\n") =
      (s.fields.flatMap declaredFields).map fun c => "  " ++ c.text ++ ";\n" := List.map_map
  unfold structText
  rw [← hlines]
  rfl

/-- What stands before all definitions: the enums and the announcements of structs. -/
def forward (api : Api) : String :=
  "typedef long long longlong;\n" ++ String.join (api.enums.map enumTypedef)
    ++ (if api.structs.isEmpty then "" else "\n") ++ String.join (api.structs.map structTypedef)

theorem declarations_eq {order : List Record}
    (h : definitions api = .ok (order.map definitionOf)) :
    declarations api = .ok (forward api ++ String.join (order.map structText)) := by
  have htexts : (order.map definitionOf).map Definition.text = order.map structText := by
    rw [List.map_map]
    exact List.map_congr_left fun s _ => text_definitionOf s
  rw [declarations, h, ← htexts]
  rfl

theorem holds_forward {text : String} (h : declarations api = .ok text) :
    Holds text (forward api) := by
  simp only [declarations, bind_eq_ok, pure_eq_ok] at h
  obtain ⟨defined, -, rfl⟩ := h
  exact (Holds.refl (forward api)).append_right _

theorem holds_enumTypedef {e : Record} (he : e ∈ api.enums) :
    Holds (forward api) (enumTypedef e) := by
  have henum := (Holds.refl (enumTypedef e)).join (List.mem_map_of_mem he)
  exact ((henum.append_left _).append_right _).append_right _

theorem holds_structTypedef (hs : s ∈ api.structs) : Holds (forward api) (structTypedef s) := by
  have hstruct := (Holds.refl (structTypedef s)).join (List.mem_map_of_mem hs)
  exact hstruct.append_left _

end Bindery.Header

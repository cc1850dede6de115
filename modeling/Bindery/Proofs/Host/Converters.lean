import Bindery.Proofs.Host.Variables

/-!
# Converters

Values of enums and structs go through converters, two for each type. Which converters the code of
an export and the conversions of structs call follows from the types of what they convert, and the
names of these converters stand in the generated text. The wrapper holds the converters of the enums
and structs of a description: `holds_emitted`.
-/
namespace Bindery.Host
open Text Outcome Dialect
variable {api : Api}

/-- A function that converts the values of a type, from C or to C. -/
inductive Converter where
  | inward (type : String)
  | outward (type : String)
  deriving DecidableEq, Repr

namespace Converter

def type : Converter → String
  | inward type | outward type => type

def function : Converter → String
  | inward type => "Go" ++ type
  | outward type => "C" ++ type

def head : Converter → String
  | inward type => s!"\nfunc Go{type}(fromC *C.{type}) api.{type}"
  | outward type => s!"\nfunc C{type}(fromGo api.{type}) C.{type}"

theorem holds_head (c : Converter) : Holds c.head ("\nfunc " ++ c.function ++ "(") := by
  cases c with
  | inward type =>
    have hlead : "\nfunc Go" ++ type ++ "(fromC *C." =
        "" ++ ("\nfunc " ++ ("Go" ++ type) ++ "(") ++ "fromC *C." := by
      simp [← String.toList_inj]
    have hheld : Holds ("\nfunc Go" ++ type ++ "(fromC *C.") ("\nfunc " ++ ("Go" ++ type) ++ "(") :=
      ⟨_, _, hlead⟩
    exact ((hheld.append_right _).append_right _).append_right _
  | outward type =>
    have hlead : "\nfunc C" ++ type ++ "(fromGo api." =
        "" ++ ("\nfunc " ++ ("C" ++ type) ++ "(") ++ "fromGo api." := by
      simp [← String.toList_inj]
    have hheld : Holds ("\nfunc C" ++ type ++ "(fromGo api.") ("\nfunc " ++ ("C" ++ type) ++ "(") :=
      ⟨_, _, hlead⟩
    exact ((hheld.append_right _).append_right _).append_right _

/-- The converter that a value of the type goes through. -/
def of (direction : String → Converter) (t : TypeExpr) : List Converter :=
  t.base.named?.toList.map direction

end Converter

def Argument.converters : Argument → List Converter
  | converted v => Converter.of .inward (TypeExpr.read v.type)
  | slot _ _ => []

def Term.converters (t : Term) : List Converter := t.arguments.flatMap Argument.converters

def Statement.converters : Statement → List Converter
  | bind chain => chain.converters
  | store _ call | take _ call => call.converters
  | giveResult t => Converter.of .outward t
  | give t call => Converter.of .outward t ++ call.converters
  | lastIndex _ | reportPresence | reportFailure | clear _ _ => []

/-- The converters that the two conversions of a struct call. -/
def structConverters (s : Record) : List Converter :=
  s.fields.flatMap fun f =>
    Converter.of .inward (TypeExpr.read f.type) ++ Converter.of .outward (TypeExpr.read f.type)

/-- All converters that the wrapper calls. -/
def calledConverters (api : Api) : List Converter :=
  (routes api).flatMap (fun r => (codeOf (Roles.ofApi api) r).flatMap Statement.converters) ++
    api.structs.flatMap structConverters

/-- All converters that the wrapper holds. -/
def emittedConverters (api : Api) : List Converter :=
  (api.enums ++ api.structs).flatMap fun r => [.inward r.name, .outward r.name]

/-! ## The converters of code -/

theorem named?_eq_some_iff {b : Base} {name : String} : b.named? = some name ↔ b = .named name := by
  cases b <;> simp [Base.named?]

theorem holds_inward_function {t : TypeExpr} {c : Converter} (h : c ∈ Converter.of .inward t)
    (value lead : String) : Holds (inward.convert t value lead) c.function := by
  simp only [Converter.of, List.mem_map, Option.mem_toList, named?_eq_some_iff] at h
  obtain ⟨type, hbase, rfl⟩ := h
  obtain ⟨base, array⟩ := t
  obtain rfl : base = .named type := hbase
  apply holds_convert
  cases array with
  | false => exact (((Holds.refl _).append_right _).append_right _).append_right _
  | true =>
    have hslice : "GoMapSlice(" ++ value ++ ", int(" ++ value ++ "_length), Go" ++ type ++ ")" =
        "GoMapSlice(" ++ value ++ ", int(" ++ value ++ "_length), " ++ ("Go" ++ type) ++ ")" := by
      simp [← String.toList_inj]
    exact ⟨_, _, hslice⟩

theorem holds_outward_function {t : TypeExpr} {c : Converter} (h : c ∈ Converter.of .outward t)
    (value lead : String) : Holds (outward.convert t value lead) c.function := by
  simp only [Converter.of, List.mem_map, Option.mem_toList, named?_eq_some_iff] at h
  obtain ⟨type, hbase, rfl⟩ := h
  obtain ⟨base, array⟩ := t
  obtain rfl : base = .named type := hbase
  apply holds_convert
  cases array with
  | false => exact (((Holds.refl _).append_right _).append_right _).append_right _
  | true =>
    have hslice : "CMapSlice(" ++ value ++ ", C" ++ type ++ ")" =
        "CMapSlice(" ++ value ++ ", " ++ ("C" ++ type) ++ ")" := by
      simp [← String.toList_inj]
    exact ⟨_, _, hslice⟩

/-- The converters that a statement calls stand in its text. -/
theorem Statement.holds_converter {s : Statement} {c : Converter} (h : c ∈ s.converters) :
    Holds s.text c.function := by
  have hterm {t : Term} (ht : s.term? = some t) (hc : c ∈ t.converters) :
      Holds s.text c.function := by
    obtain ⟨a, ha, hc⟩ := List.mem_flatMap.mp hc
    cases a with
    | slot interface index => cases hc
    | converted v =>
      have hargument : Holds (Argument.converted v).text c.function :=
        holds_inward_function hc v.name ""
      exact ((Statement.holds_term ht).trans (Term.holds_argument ha)).trans hargument
  cases s with
  | bind | store | take => exact hterm rfl h
  | giveResult t => exact holds_outward_function h _ _
  | give t call =>
    rcases List.mem_append.mp h with hgiven | hcall
    · exact holds_outward_function hgiven _ _
    · exact hterm rfl hcall
  | lastIndex | reportPresence | reportFailure | clear => cases h

/-! ## The conversions of structs -/

section Structs
variable {f : Variable} {s : Record}

def inwardAssignment (f : Variable) : Assignment :=
  ⟨capitalize f.name,
    inward.convert (TypeExpr.read f.type) ("fromC." ++ foreignField f.name) ""⟩

def outwardAssignment (f : Variable) : Assignment :=
  ⟨foreignField f.name,
    outward.convert (TypeExpr.read f.type) ("fromGo." ++ capitalize f.name) ""⟩

/-- How a field, and its length if it is an array, is filled from Go. -/
def outwardAssignments (f : Variable) : List Assignment :=
  let source := "fromGo." ++ capitalize f.name
  outwardAssignment f ::
    if f.arrayTyped then [⟨foreignField f.name ++ "_length", s!"C.size_t(len({source}))"⟩] else []

/-- One line for each field that is filled. -/
def assignmentLines (assignments : List Assignment) : String :=
  String.join (assignments.map fun a => "\t\t" ++ a.field ++ ": " ++ a.value ++ ",\n")

theorem join_assignments (assignments : List Assignment) :
    String.join (assignments.map Assignment.text) = assignmentLines assignments := rfl

theorem holds_assignmentLines {assignments : List Assignment} {a : Assignment} {part : String}
    (ha : a ∈ assignments) (h : Holds a.value part) : Holds (assignmentLines assignments) part := by
  have hline : Holds ("\t\t" ++ a.field ++ ": " ++ a.value ++ ",\n") part :=
    (h.append_left _).append_right _
  exact hline.join (List.mem_map.mpr ⟨a, ha, rfl⟩)

/-- The conversion of a struct from C. -/
def inwardText (s : Record) : String :=
  (Converter.inward s.name).head ++ s!" \x7b\n\treturn api.{s.name}\x7b\n"
    ++ assignmentLines (s.fields.map inwardAssignment) ++ "\t\x7d\n\x7d\n"

/-- The conversion of a struct to C. -/
def outwardText (s : Record) : String :=
  (Converter.outward s.name).head ++ s!" \x7b\n\treturn C.{s.name}\x7b\n"
    ++ assignmentLines (s.fields.flatMap outwardAssignments) ++ "\t\x7d\n\x7d\n"

/-- The converters that the conversions of a struct call stand in their text. -/
theorem holds_structConverter {c : Converter} (h : c ∈ structConverters s) :
    Holds (inwardText s ++ outwardText s) c.function := by
  obtain ⟨f, hf, hc⟩ := List.mem_flatMap.mp h
  rcases List.mem_append.mp hc with hc | hc
  · have hlines : Holds (assignmentLines (s.fields.map inwardAssignment)) c.function :=
      holds_assignmentLines (List.mem_map_of_mem hf) (holds_inward_function hc _ _)
    exact ((hlines.append_left _).append_right _).append_right _
  · have hmem : outwardAssignment f ∈ s.fields.flatMap outwardAssignments :=
      List.mem_flatMap.mpr ⟨f, hf, List.mem_cons_self⟩
    have hlines := holds_assignmentLines hmem (holds_outward_function hc _ _)
    exact ((hlines.append_left _).append_right _).append_left _

theorem inwardField_eq (h : f.Readable) : inwardField f = .ok (inwardAssignment f) := by
  obtain ⟨t, ht⟩ := h
  have ht : TypeExpr.parse f.type = .ok t := ht
  simp only [inwardField, ValueTable.convertText, ht, inwardAssignment, TypeExpr.read_of_parse ht]
  rfl

theorem outwardField_eq (h : f.Readable) : outwardField f = .ok (outwardAssignments f) := by
  obtain ⟨t, ht⟩ := h
  have ht : TypeExpr.parse f.type = .ok t := ht
  simp only [outwardField, ValueTable.convertText, ht, outwardAssignments, outwardAssignment,
    TypeExpr.read_of_parse ht]
  rfl

theorem structInward_eq (h : s.Readable) : structInward s = .ok (inwardText s) := by
  have hfields := mapM_eq_ok_map fun f hf => inwardField_eq (h f hf)
  simp only [structInward, hfields, ok_bind, inwardText, Converter.head, join_assignments,
    String.append_assoc]
  rfl

theorem structOutward_eq (h : s.Readable) : structOutward s = .ok (outwardText s) := by
  have hfields := mapM_eq_ok_map fun f hf => outwardField_eq (h f hf)
  simp only [structOutward, hfields, ok_bind, outwardText, Converter.head, ← List.flatMap_def,
    join_assignments, String.append_assoc]
  rfl

theorem structs_eq (hreadable : ∀ s ∈ api.structs, s.Readable) {structs : List String}
    (h : (api.structs.mapM fun s => do return (← structInward s) ++ (← structOutward s)) =
      .ok structs) : structs = api.structs.map fun s => inwardText s ++ outwardText s := by
  have hall := mapM_eq_ok_map (g := fun s => inwardText s ++ outwardText s)
    (f := fun s => do return (← structInward s) ++ (← structOutward s)) fun s hs => by
      rw [structInward_eq (hreadable s hs), ok_bind, structOutward_eq (hreadable s hs), ok_bind]
      rfl
  exact Except.ok.inj (h.symm.trans hall)

end Structs

/-- The section of conversions holds the converters of all enums and structs. -/
theorem holds_emitted {c : Converter} (h : c ∈ emittedConverters api) :
    Holds (conversions api (api.structs.map fun s => inwardText s ++ outwardText s))
      ("\nfunc " ++ c.function ++ "(") := by
  obtain ⟨r, hr, hc⟩ := List.mem_flatMap.mp h
  have hhead (more₁ more₂ more₃ : String) :
      Holds (c.head ++ more₁ ++ more₂ ++ more₃) ("\nfunc " ++ c.function ++ "(") :=
    ((c.holds_head.append_right _).append_right _).append_right _
  rcases List.mem_append.mp hr with henum | hstruct
  · have hboth : Holds (enumInward r ++ enumOutward r) ("\nfunc " ++ c.function ++ "(") := by
      rcases List.mem_cons.mp hc with rfl | hc
      · exact (hhead _ _ _).append_right _
      · obtain rfl := List.mem_singleton.mp hc
        exact (hhead _ _ _).append_left _
    have hsection : Holds (String.join (api.enums.map fun e => enumInward e ++ enumOutward e))
        ("\nfunc " ++ c.function ++ "(") := hboth.join (List.mem_map.mpr ⟨r, henum, rfl⟩)
    exact (((hsection.append_left _).append_right _).append_right _).append_right _
  · have hboth : Holds (inwardText r ++ outwardText r) ("\nfunc " ++ c.function ++ "(") := by
      rcases List.mem_cons.mp hc with rfl | hc
      · exact (hhead _ _ _).append_right _
      · obtain rfl := List.mem_singleton.mp hc
        exact (hhead _ _ _).append_left _
    have hsection : Holds (String.join (api.structs.map fun s => inwardText s ++ outwardText s))
        ("\nfunc " ++ c.function ++ "(") := hboth.join (List.mem_map.mpr ⟨r, hstruct, rfl⟩)
    exact (hsection.append_left _).append_right _

end Bindery.Host

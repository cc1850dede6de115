import Bindery.Proofs.Header.Texts
import Bindery.Proofs.Host.Converters

/-!
# Fields of C structs

A struct is declared in C, and its converters read and fill it in Go. Go sees a field of C under its
own name, with an underscore before a reserved word, and an array has its length in a field beside
it. The declaration builds the name of the length from the name of the field, the converters build
it from the name that Go sees. `field_names_agree_iff` says when both sides mean the same fields:
always, but for an array whose name is a reserved word.
-/
namespace Bindery.Host
open Text Outcome Header
variable {f : Variable} {s : Record}

/-! ## Names in the conversion from C -/

/-- A piece of a conversion from C: fixed text, or an access to a field of the struct. -/
inductive Piece where
  | fixed (text : String)
  | access (field : String)
  deriving DecidableEq, Repr

def Piece.text : Piece → String
  | fixed text => text
  | access field => "fromC." ++ field

def Piece.field? : Piece → Option String
  | fixed _ => none
  | access field => some field

/-- What stands before the elements in the conversion of an array. -/
def arrayHead : Base → String
  | .builtin .string => "GoStringSlice("
  | _ => "GoMapSlice("

/-- What stands after the length in the conversion of an array. -/
def arrayRest : Base → String
  | .builtin .string => "))"
  | .named name => s!"), Go{name})"
  | .builtin p =>
    let convert := fromForeign p "*e"
    s!"), func(e *{foreignBuiltin p}) {builtin p} " ++ s!"\x7b return {convert} \x7d)"

/-- The conversion of a field in pieces, when Go sees the field under the given name. -/
def inwardPieces (t : TypeExpr) (field : String) : List Piece :=
  if t.array then
    [.fixed (arrayHead t.base), .access field, .fixed ", int(", .access (field ++ "_length"),
      .fixed (arrayRest t.base)]
  else
    match t.base with
    | .named name => [.fixed s!"Go{name}(&", .access field, .fixed ")"]
    | .builtin .boolean => [.fixed "bool(", .access field, .fixed " == 1)"]
    | .builtin .number => [.fixed "float64(", .access field, .fixed ")"]
    | .builtin .bigint => [.fixed "int64(", .access field, .fixed ")"]
    | .builtin .string => [.fixed "C.GoString(", .access field, .fixed ")"]
    | .builtin .bytes =>
      [.fixed "C.GoBytes(unsafe.Pointer(", .access field, .fixed "), C.int(C.strlen(",
        .access field, .fixed ")))"]
    | .builtin .void => [.access field]

theorem join_three (a b c : String) : String.join [a, b, c] = a ++ b ++ c := by
  simp [String.append_assoc]

theorem join_five (a b c d e : String) : String.join [a, b, c, d, e] = a ++ b ++ c ++ d ++ e := by
  simp [String.append_assoc]

theorem inward_array_eq (b : Base) (value : String) :
    inward.array b value =
      arrayHead b ++ value ++ ", int(" ++ (value ++ "_length") ++ arrayRest b := by
  have hlength (head rest : String) : head ++ value ++ ", int(" ++ value ++ ("_length" ++ rest) =
      head ++ value ++ ", int(" ++ (value ++ "_length") ++ rest := by
    simp only [String.append_assoc]
  have hslice (p : Builtin) (convert : String) :
      "GoMapSlice(" ++ value ++ ", int(" ++ value ++ "_length), func(e *" ++ foreignBuiltin p
          ++ ") " ++ builtin p ++ " " ++ ("\x7b return " ++ convert ++ " \x7d)") =
        "GoMapSlice(" ++ value ++ ", int(" ++ value ++ ("_length" ++ ("), func(e *"
          ++ foreignBuiltin p ++ ") " ++ builtin p ++ " "
          ++ ("\x7b return " ++ convert ++ " \x7d)"))) := by
    simp [← String.toList_inj]
  have hnamed (name : String) :
      "GoMapSlice(" ++ value ++ ", int(" ++ value ++ "_length), Go" ++ name ++ ")" =
        "GoMapSlice(" ++ value ++ ", int(" ++ value ++ ("_length" ++ ("), Go" ++ name ++ ")")) := by
    simp [← String.toList_inj]
  have hstring : "GoStringSlice(" ++ value ++ ", int(" ++ value ++ "_length))" =
      "GoStringSlice(" ++ value ++ ", int(" ++ value ++ ("_length" ++ "))") := by
    simp
  rw [← hlength]
  cases b with
  | named name => exact hnamed name
  | builtin p =>
    cases p with
    | string => exact hstring
    | boolean | number | bigint | bytes | void => exact hslice _ _

theorem inward_convert_eq (t : TypeExpr) (field : String) :
    inward.convert t ("fromC." ++ field) "" =
      String.join ((inwardPieces t field).map Piece.text) := by
  have hlead : inward.convert t ("fromC." ++ field) "" = inward.bare t ("fromC." ++ field) := by
    unfold ValueTable.convert
    split
    · rfl
    · exact String.empty_append
  rw [hlead]
  obtain ⟨base, array⟩ := t
  cases array with
  | true =>
    have hlength : "fromC." ++ field ++ "_length" = "fromC." ++ (field ++ "_length") :=
      String.append_assoc
    refine (inward_array_eq base _).trans ?_
    rw [hlength]
    exact (join_five _ _ _ _ _).symm
  | false =>
    cases base with
    | named name => exact (join_three _ _ _).symm
    | builtin p =>
      cases p with
      | boolean | number | bigint | string => exact (join_three _ _ _).symm
      | bytes => exact (join_five _ _ _ _ _).symm
      | void => exact String.empty_append.symm

/-- The names of fields that the conversion of a field from C reads. -/
def fieldsRead (f : Variable) : List String :=
  (inwardPieces (TypeExpr.read f.type) (foreignField f.name)).filterMap Piece.field?

/-- The names of fields that the conversion of a field to C fills. -/
def fieldsFilled (f : Variable) : List String :=
  (outwardAssignments f).map (·.field)

theorem read_array (h : f.Readable) : (TypeExpr.read f.type).array = f.arrayTyped := by
  obtain ⟨t, ht⟩ := h
  have ht : TypeExpr.parse f.type = .ok t := ht
  rw [TypeExpr.read_of_parse ht]
  simp only [TypeExpr.parse] at ht
  repeat' split at ht
  all_goals cases ht
  all_goals rfl

theorem fieldsFilled_eq (f : Variable) :
    fieldsFilled f = foreignField f.name ::
      if f.arrayTyped then [foreignField f.name ++ "_length"] else [] := by
  unfold fieldsFilled outwardAssignments
  split <;> rfl

/-- Both conversions of a field mean the same fields of C. -/
theorem mem_fieldsRead_iff (h : f.Readable) (name : String) :
    name ∈ fieldsRead f ↔ name ∈ fieldsFilled f := by
  rw [fieldsFilled_eq, ← read_array h, fieldsRead]
  obtain ⟨base, array⟩ := TypeExpr.read f.type
  cases array with
  | true => rfl
  | false =>
    cases base with
    | named type => rfl
    | builtin p =>
      cases p with
      | boolean | number | bigint | string | void => rfl
      | bytes => simp [inwardPieces, Piece.field?, eq_comm]

/-! ## Names in the declaration -/

/-- The names under which Go sees the fields of C for a field of the description. -/
def exposedFields (f : Variable) : List String :=
  (declaredFields f).map fun c => foreignField c.name

/-- No reserved word ends like the name of a length. -/
theorem foreignField_length (name : String) :
    foreignField (name ++ "_length") = name ++ "_length" := by
  have hnone : ∀ w ∈ reservedWords, ¬ "_length".toList <:+ w.toList := by decide
  have hfree : name ++ "_length" ∉ reservedWords := by
    intro hw
    apply hnone _ hw
    rw [String.toList_append]
    exact List.suffix_append _ _
  simp [foreignField, hfree]

theorem exposedFields_eq (f : Variable) :
    exposedFields f =
      foreignField f.name :: if f.arrayTyped then [f.name ++ "_length"] else [] := by
  unfold exposedFields declaredFields
  split
  · rw [List.map_cons, List.map_singleton, foreignField_length]
  · rfl

/-! ## Agreement -/

theorem foreignField_eq_self_iff {name : String} :
    foreignField name = name ↔ name ∉ reservedWords := by
  unfold foreignField
  split
  case isTrue hreserved =>
    have hlonger : "_" ++ name ≠ name := by
      intro h
      have hlength := congrArg String.length h
      rw [String.length_append] at hlength
      have hone : "_".length = 1 := rfl
      omega
    simpa [hlonger] using hreserved
  case isFalse hfree => simpa using hfree

theorem fieldsFilled_eq_exposedFields_iff :
    fieldsFilled f = exposedFields f ↔ (f.arrayTyped = true → f.name ∉ reservedWords) := by
  rw [fieldsFilled_eq, exposedFields_eq, ← foreignField_eq_self_iff]
  cases f.arrayTyped with
  | false => simp
  | true => simp [String.append_left_inj]

theorem fieldsRead_agree_iff (h : f.Readable) :
    (∀ name, name ∈ fieldsRead f ↔ name ∈ exposedFields f) ↔
      (f.arrayTyped = true → f.name ∉ reservedWords) := by
  constructor
  · intro hagree harray
    have hread : foreignField f.name ++ "_length" ∈ fieldsRead f := by
      rw [mem_fieldsRead_iff h, fieldsFilled_eq, if_pos harray]
      exact List.mem_cons_of_mem _ List.mem_cons_self
    have hexposed := (hagree _).mp hread
    rw [exposedFields_eq, if_pos harray, List.mem_cons, List.mem_singleton] at hexposed
    rcases hexposed with hsame | hlength
    -- the length of an array is never taken for the array itself
    · have hlonger := congrArg String.length hsame
      rw [String.length_append] at hlonger
      have hseven : "_length".length = 7 := rfl
      omega
    · exact foreignField_eq_self_iff.mp ((String.append_left_inj _).mp hlength)
  · intro hfree name
    rw [mem_fieldsRead_iff h, fieldsFilled_eq_exposedFields_iff.mpr hfree]

/-- The conversions of a struct and its declaration, each by the names of C that it uses. The two
conversions of a field mean the same names, and these are the names under which Go sees the declared
fields exactly if the field is no array whose name is a reserved word. -/
theorem field_names_agree_iff {api : Api} (h : api.validate = .ok ()) (hs : s ∈ api.structs) :
    structInward s = .ok (inwardText s) ∧ structOutward s = .ok (outwardText s) ∧
    Header.declareFields s = .ok ((s.fields.flatMap declaredFields).map Field.text) ∧
    ∀ f ∈ s.fields,
      (inwardAssignment f).value =
        String.join ((inwardPieces (TypeExpr.read f.type) (foreignField f.name)).map Piece.text) ∧
      (∀ name, name ∈ fieldsRead f ↔ name ∈ fieldsFilled f) ∧
      fieldsFilled f = foreignField f.name ::
        (if f.arrayTyped then [foreignField f.name ++ "_length"] else []) ∧
      exposedFields f = foreignField f.name ::
        (if f.arrayTyped then [f.name ++ "_length"] else []) ∧
      ((∀ name, name ∈ fieldsRead f ↔ name ∈ exposedFields f) ↔
        (f.arrayTyped = true → f.name ∉ reservedWords)) ∧
      (fieldsFilled f = exposedFields f ↔ (f.arrayTyped = true → f.name ∉ reservedWords)) := by
  have hreadable := (Api.readable_of_validate h).structs s hs
  refine ⟨structInward_eq hreadable, structOutward_eq hreadable, declareFields_eq hreadable, ?_⟩
  intro f hf
  have hfield := hreadable f hf
  exact ⟨inward_convert_eq _ _, mem_fieldsRead_iff hfield, fieldsFilled_eq f, exposedFields_eq f,
    fieldsRead_agree_iff hfield, fieldsFilled_eq_exposedFields_iff⟩

/-- A reserved word names a field that is no array, and the array has a name of its own. -/
def labelled : Record where
  name := "Entry"
  fields := [{ name := "type", type := "string" }, { name := "labels", type := "string[]" }]

theorem field_names_agree_labelled :
    Api.validate { structs := [labelled] } = .ok () ∧
    ∀ f ∈ labelled.fields,
      (∀ name, name ∈ fieldsRead f ↔ name ∈ exposedFields f) ∧ fieldsFilled f = exposedFields f := by
  have hvalid : Api.validate { structs := [labelled] } = .ok () := by decide +kernel
  obtain ⟨-, -, -, hfields⟩ := field_names_agree_iff hvalid List.mem_cons_self
  refine ⟨hvalid, fun f hf => ?_⟩
  obtain ⟨-, -, -, -, hread, hfilled⟩ := hfields f hf
  have hfree : ∀ f ∈ labelled.fields, f.arrayTyped = true → f.name ∉ reservedWords := by decide
  exact ⟨hread.mpr (hfree f hf), hfilled.mpr (hfree f hf)⟩

/-- A field that is an array and has a reserved word for its name. -/
def typeList : Variable where
  name := "type"
  type := "string[]"

/-- The converters look for the length of the array where C has no field. -/
theorem typeList_length_missing :
    Api.validate { structs := [{ name := "Entry", fields := [typeList] }] } = .ok () ∧
    Header.declareVariable typeList = .ok ["char** type", "size_t type_length"] ∧
    exposedFields typeList = ["_type", "type_length"] ∧
    inwardField typeList =
      .ok ⟨"Type", "GoStringSlice(fromC._type, int(fromC._type_length))"⟩ ∧
    outwardField typeList = .ok [⟨"_type", "CStringSlice(fromGo.Type)"⟩,
      ⟨"_type_length", "C.size_t(len(fromGo.Type))"⟩] := by
  decide +kernel

end Bindery.Host

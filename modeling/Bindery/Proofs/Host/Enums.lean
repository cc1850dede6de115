import Bindery.Host.Package
import Bindery.Proofs.Header.Texts
import Bindery.Proofs.Host.Converters
import Mathlib.Order.Bounds.Defs

/-!
# Enums at the boundary

An enum crosses the boundary as the position of its member. Four texts number or name the members:
the typedef of C, the constants of the API package, and the two converters of the wrapper, which
compare their argument with one member after the other. `enum_tables_inverse` says that all four
follow the order of the members, and that the converters undo each other exactly when no two
members have the same name. Of several members with one name only the first has a way back.
-/
namespace Bindery.Host
open Text Export Outcome
variable {api : Api} {e : Record}

/-! ## Converters that compare -/

/-- A converter that compares its argument with one value after the other. Each arm holds the value
that it compares with and the value that it gives. -/
structure Comparisons (α β : Type) where
  converter : Converter
  subject : String
  arms : List (α × β)
  unknown : String
  format : String

namespace Comparisons
variable {α β : Type}

/-- What the converter gives: the first arm for the argument decides, and without one it panics. -/
def answer [BEq α] (c : Comparisons α β) (argument : α) : Option β :=
  c.arms.lookup argument

/-- The text of the converter, from how the values on both sides are written. -/
def text (compared : α → String) (given : β → String) (c : Comparisons α β) : String :=
  let arm := fun (x, y) =>
    s!"\tif {c.subject} == {compared x} \x7b\n\t\treturn {given y}\n\t\x7d\n"
  c.converter.head ++ " \x7b\n" ++ String.join (c.arms.map arm)
    ++ s!"\n\tpanic(fmt.Sprintf(\"Unknown {c.unknown} for {c.converter.type}: {c.format}\", "
    ++ s!"{c.subject}))\n\x7d\n"

end Comparisons

def constantOf (e : Record) (m : Variable) : String := e.name ++ m.name

/-- A constant as the wrapper refers to it. -/
def imported (constant : String) : String := "api." ++ constant

/-- The converter of an enum from C. -/
def fromPosition (e : Record) : Comparisons Nat String where
  converter := .inward e.name
  subject := "*fromC"
  arms := (enumRows e).map fun row => (row.ordinal, row.constant)
  unknown := "ordinal"
  format := "%d"

/-- The converter of an enum to C. -/
def toPosition (e : Record) : Comparisons String Nat where
  converter := .outward e.name
  subject := "fromGo"
  arms := (enumRows e).map fun row => (row.constant, row.ordinal)
  unknown := "value"
  format := "%v"

/-- The text of a converter from the texts of its arms and of its complaint. -/
theorem Comparisons.text_eq {α β : Type} (c : Comparisons α β) {compared : α → String}
    {given : β → String} (arm : α × β → String) (panic : String)
    (harm : ∀ x y, arm (x, y) = "\tif " ++ c.subject ++ " == " ++ compared x ++
      " \x7b\n\t\treturn " ++ given y ++ "\n\t\x7d\n")
    (hpanic : panic = "\n\tpanic(fmt.Sprintf(\"Unknown " ++ c.unknown ++ " for " ++
      c.converter.type ++ ": " ++ c.format ++ "\", " ++ c.subject ++ "))\n\x7d\n") :
    c.text compared given =
      c.converter.head ++ " \x7b\n" ++ String.join (c.arms.map arm) ++ panic := by
  have harms : c.arms.map arm = c.arms.map fun (x, y) =>
      s!"\tif {c.subject} == {compared x} \x7b\n\t\treturn {given y}\n\t\x7d\n" :=
    List.map_congr_left fun (x, y) _ => harm x y
  rw [harms, hpanic, text]
  simp only [String.append_assoc]
  rfl

theorem enumInward_eq (e : Record) :
    enumInward e = (fromPosition e).text toString imported := by
  rw [(fromPosition e).text_eq
    (fun (ordinal, constant) => "\tif *fromC == " ++ toString ordinal ++
      " \x7b\n\t\treturn api." ++ constant ++ "\n\t\x7d\n")
    ("\n\tpanic(fmt.Sprintf(\"Unknown ordinal for " ++ e.name ++ ": %d\", *fromC))\n\x7d\n")]
  · rw [fromPosition, List.map_map]
    rfl
  · intro ordinal constant
    simp [← String.toList_inj, imported, fromPosition]
  · simp [← String.toList_inj, fromPosition, Converter.type]

theorem enumOutward_eq (e : Record) :
    enumOutward e = (toPosition e).text imported toString := by
  rw [(toPosition e).text_eq
    (fun (constant, ordinal) => "\tif fromGo == api." ++ constant ++
      " \x7b\n\t\treturn " ++ toString ordinal ++ "\n\t\x7d\n")
    ("\n\tpanic(fmt.Sprintf(\"Unknown value for " ++ e.name ++ ": %v\", fromGo))\n\x7d\n")]
  · rw [toPosition, List.map_map]
    rfl
  · intro constant ordinal
    simp [← String.toList_inj, imported, toPosition]
  · simp [← String.toList_inj, toPosition, Converter.type]

/-! ## The tables -/

def rowAt (e : Record) (k : Nat) (m : Variable) : EnumRow := ⟨k, m.name, constantOf e m⟩

theorem getElem?_enumRows (e : Record) (k : Nat) :
    (enumRows e)[k]? = e.fields[k]?.map (rowAt e k) := by
  simp only [enumRows, List.getElem?_map, List.getElem?_zipIdx, Option.map_map, Nat.zero_add]
  rfl

theorem mem_enumRows {row : EnumRow} :
    row ∈ enumRows e ↔ ∃ k m, e.fields[k]? = some m ∧ rowAt e k m = row := by
  simp [List.mem_iff_getElem?, getElem?_enumRows]

/-- A search through the rows stops at the first position whose row satisfies the test. -/
theorem find?_enumRows_eq_some_iff {test : EnumRow → Bool} {row : EnumRow} :
    (enumRows e).find? test = some row ↔ ∃ k m, e.fields[k]? = some m ∧ rowAt e k m = row ∧
      test row = true ∧ ∀ i < k, ∀ m, e.fields[i]? = some m → test (rowAt e i m) = false := by
  have hrows {k : Nat} {m : Variable} (hm : e.fields[k]? = some m) :
      (enumRows e)[k]? = some (rowAt e k m) := by
    rw [getElem?_enumRows, hm, Option.map_some]
  rw [List.find?_eq_some_iff_getElem]
  constructor
  · rintro ⟨htest, k, hk, hrow, hbefore⟩
    have hat : (enumRows e)[k]? = some row := List.getElem?_eq_some_iff.mpr ⟨hk, hrow⟩
    rw [getElem?_enumRows] at hat
    obtain ⟨m, hm, hrow⟩ := Option.map_eq_some_iff.mp hat
    refine ⟨k, m, hm, hrow, htest, ?_⟩
    intro i hi n hn
    obtain ⟨_, hother⟩ := List.getElem?_eq_some_iff.mp (hrows hn)
    rw [← hother]
    simpa using hbefore i hi
  · rintro ⟨k, m, hm, hrow, htest, hbefore⟩
    obtain ⟨hk, hat⟩ := List.getElem?_eq_some_iff.mp (hrows hm)
    refine ⟨htest, k, hk, hat.trans hrow, ?_⟩
    intro i hi
    have hat : (enumRows e)[i]? = some (enumRows e)[i] := List.getElem?_eq_getElem _
    rw [getElem?_enumRows] at hat
    obtain ⟨n, hn, hother⟩ := Option.map_eq_some_iff.mp hat
    rw [← hother, hbefore i hi n hn]
    rfl

theorem lookup_map_eq_find? {ι α β : Type} [BEq α] [LawfulBEq α] (rows : List ι) (key : ι → α)
    (value : ι → β) (x : α) :
    (rows.map fun row => (key row, value row)).lookup x =
      (rows.find? (key · == x)).map value := by
  induction rows with
  | nil => rfl
  | cons row rows ih =>
    rw [List.map_cons, List.lookup_cons, List.find?_cons, ih, BEq.comm]
    cases key row == x <;> rfl

theorem answer_fromPosition (e : Record) (k : Nat) :
    (fromPosition e).answer k = constantAt? (enumRows e) k :=
  lookup_map_eq_find? (enumRows e) (·.ordinal) (·.constant) k

theorem answer_toPosition (e : Record) (constant : String) :
    (toPosition e).answer constant = ordinalOf? (enumRows e) constant :=
  lookup_map_eq_find? (enumRows e) (·.constant) (·.ordinal) constant

/-- The conversion from C takes exactly the positions of the members, each to its constant. -/
theorem constantAt?_enumRows (e : Record) (k : Nat) :
    constantAt? (enumRows e) k = e.fields[k]?.map (constantOf e) := by
  rw [constantAt?]
  cases hm : e.fields[k]? with
  | some m =>
    have hfound : (enumRows e).find? (·.ordinal == k) = some (rowAt e k m) := by
      refine find?_enumRows_eq_some_iff.mpr ⟨k, m, hm, rfl, beq_self_eq_true k, ?_⟩
      intro i hi _ _
      exact beq_false_of_ne (Nat.ne_of_lt hi)
    rw [hfound]
    rfl
  | none =>
    have hmissing : (enumRows e).find? (·.ordinal == k) = none := by
      rw [List.find?_eq_none]
      intro row hrow hordinal
      obtain ⟨i, m, hi, rfl⟩ := mem_enumRows.mp hrow
      obtain rfl : i = k := beq_iff_eq.mp hordinal
      rw [hm] at hi
      cases hi
    rw [hmissing]
    rfl

/-- The positions of the members with the given constant. -/
def positionsOf (e : Record) (constant : String) : Set Nat :=
  {k | ∃ m, e.fields[k]? = some m ∧ constantOf e m = constant}

/-- The conversion to C takes a constant to the first of its positions. -/
theorem ordinalOf?_enumRows_eq_some_iff {constant : String} {k : Nat} :
    ordinalOf? (enumRows e) constant = some k ↔ IsLeast (positionsOf e constant) k := by
  rw [ordinalOf?, Option.map_eq_some_iff]
  constructor
  · rintro ⟨row, hrow, rfl⟩
    obtain ⟨k, m, hm, rfl, hconstant, hbefore⟩ := find?_enumRows_eq_some_iff.mp hrow
    refine ⟨⟨m, hm, beq_iff_eq.mp hconstant⟩, ?_⟩
    rintro i ⟨n, hn, hsame⟩
    by_contra hlt
    have hother := hbefore i (Nat.lt_of_not_le hlt) n hn
    exact beq_eq_false_iff_ne.mp hother hsame
  · rintro ⟨⟨m, hm, hconstant⟩, hleast⟩
    refine ⟨rowAt e k m, ?_, rfl⟩
    refine find?_enumRows_eq_some_iff.mpr ⟨k, m, hm, rfl, beq_iff_eq.mpr hconstant, ?_⟩
    intro i hi n hn
    apply beq_false_of_ne
    intro hsame
    exact absurd (hleast ⟨n, hn, hsame⟩) (Nat.not_le.mpr hi)

theorem ordinalOf?_enumRows_eq_none_iff {constant : String} :
    ordinalOf? (enumRows e) constant = none ↔ ∀ m ∈ e.fields, constantOf e m ≠ constant := by
  rw [ordinalOf?, Option.map_eq_none_iff, List.find?_eq_none]
  constructor
  · intro h m hm hsame
    obtain ⟨k, hk⟩ := List.mem_iff_getElem?.mp hm
    exact h _ (mem_enumRows.mpr ⟨k, m, hk, rfl⟩) (beq_iff_eq.mpr hsame)
  · intro h row hrow hsame
    obtain ⟨k, m, hk, rfl⟩ := mem_enumRows.mp hrow
    exact h m (List.mem_of_getElem? hk) (beq_iff_eq.mp hsame)

theorem constantOf_inj {m n : Variable} : constantOf e m = constantOf e n ↔ m.name = n.name :=
  String.append_right_inj _

/-- The way back from the constant of a member leads to the first member of its name. -/
theorem positionsOf_constantOf (e : Record) (m : Variable) :
    positionsOf e (constantOf e m) = {k | ∃ n, e.fields[k]? = some n ∧ n.name = m.name} := by
  simp only [positionsOf, constantOf_inj]

/-- Every position leads back to itself exactly when no name is used twice. -/
theorem isLeast_all_iff :
    (∀ k m, e.fields[k]? = some m → IsLeast (positionsOf e (constantOf e m)) k) ↔
      (e.fields.map (·.name)).Nodup := by
  rw [List.nodup_iff_pairwise_ne, List.pairwise_map, List.pairwise_iff_getElem]
  simp only [positionsOf_constantOf]
  constructor
  · intro h i j hi hj hlt hsame
    have hleast := (h j _ (List.getElem?_eq_getElem hj)).2 ⟨_, List.getElem?_eq_getElem hi, hsame⟩
    exact absurd hleast (Nat.not_le.mpr hlt)
  · rintro h k m hm
    refine ⟨⟨m, hm, rfl⟩, ?_⟩
    rintro i ⟨n, hn, hsame⟩
    obtain ⟨hk, rfl⟩ := List.getElem?_eq_some_iff.mp hm
    obtain ⟨hi, rfl⟩ := List.getElem?_eq_some_iff.mp hn
    by_contra hlt
    exact h i k hi hk (Nat.lt_of_not_le hlt) hsame

/-! ## The declarations -/

structure Constant where
  name : String
  type : String
  value : String
  deriving DecidableEq, Repr

def Constant.text (c : Constant) : String := s!"\t{c.name} {c.type} = {c.value}"

def constantsOf (e : Record) : List Constant :=
  (enumRows e).map fun row => ⟨row.constant, e.name, constantValue e row⟩

/-- The declaration of a type of constants and of the constants themselves. -/
def constantBlock (name base : String) (constants : List Constant) : String :=
  s!"\ntype {name} {base}\n\nconst (\n" ++ lines (constants.map Constant.text) ++ ")\n"

theorem enumDeclaration_eq (e : Record) :
    enumDeclaration e =
      constantBlock e.name (if hasTextConstants e then "string" else "int64") (constantsOf e) := by
  rw [constantBlock, constantsOf, List.map_map]
  rfl

theorem hasTextConstants_iff :
    hasTextConstants e = true ↔ ∃ m ∈ e.fields, m.type = "string" := by
  simp only [hasTextConstants, List.any_eq_true, beq_iff_eq, Builtin.ofName?_eq_some_iff]
  constructor
  · rintro ⟨m, hm, h⟩
    exact ⟨m, hm, h.symm⟩
  · rintro ⟨m, hm, h⟩
    exact ⟨m, hm, h.symm⟩

theorem getElem?_constantsOf (e : Record) (k : Nat) :
    (constantsOf e)[k]? = e.fields[k]?.map fun m =>
      ⟨constantOf e m, e.name, constantValue e (rowAt e k m)⟩ := by
  rw [constantsOf, List.getElem?_map, getElem?_enumRows, Option.map_map]
  rfl

/-- The texts of the targets that an enum stands in: the converters of the wrapper, the typedef of
the declarations of C and the constants of the API package. -/
structure Emits (api : Api) (e : Record) : Prop where
  converters : ∀ layout text, wrapper api layout = .ok text → Holds text
    ((fromPosition e).text toString imported ++ (toPosition e).text imported toString)
  typedef : ∀ text, Header.declarations api = .ok text →
    Holds text (Header.enumTypedef e)
  constants : ∀ name text, package api name = .ok text → Holds text
    (constantBlock e.name (if hasTextConstants e then "string" else "int64") (constantsOf e))

theorem emits (he : e ∈ api.enums) : Emits api e where
  converters layout text h := by
    obtain ⟨chapters, declared, structs, -, -, -, rfl⟩ := wrapper_eq_ok_iff.mp h
    rw [← enumInward_eq, ← enumOutward_eq, conversions]
    have hsection : Holds (String.join (api.enums.map fun e => enumInward e ++ enumOutward e))
        (enumInward e ++ enumOutward e) := (Holds.refl _).join (List.mem_map.mpr ⟨e, he, rfl⟩)
    exact ((((hsection.append_left _).append_right _).append_right _).append_right _).append_left _
  typedef _ h := (Header.holds_forward h).trans (Header.holds_enumTypedef he)
  constants name text h := by
    simp only [package, ofType, bind_eq_ok, pure_eq_ok, mapError_eq_ok] at h
    obtain ⟨_, -, structs, -, interfaces, -, rfl⟩ := h
    rw [← enumDeclaration_eq]
    have hsection : Holds (String.join (api.enums.map enumDeclaration)) (enumDeclaration e) :=
      (Holds.refl _).join (List.mem_map_of_mem he)
    exact ((hsection.append_left _).append_right _).append_right _

/-! ## The encoding -/

/-- The two converters of an enum as tables: what each of them takes, and where a position or a
constant arrives on the way through both. -/
structure InverseTables (e : Record) : Prop where
  fromC : ∀ k, (fromPosition e).answer k = e.fields[k]?.map (constantOf e)
  toC : ∀ constant k, (toPosition e).answer constant = some k ↔ IsLeast (positionsOf e constant) k
  panics : ∀ constant, (toPosition e).answer constant = none ↔
    ∀ m ∈ e.fields, constantOf e m ≠ constant
  throughGo : ∀ k m, e.fields[k]? = some m →
    ∃ j, ((fromPosition e).answer k).bind (toPosition e).answer = some j ∧
      IsLeast {i | ∃ n, e.fields[i]? = some n ∧ n.name = m.name} j
  identity_iff : (∀ k < e.fields.length,
    ((fromPosition e).answer k).bind (toPosition e).answer = some k) ↔
      (e.fields.map (·.name)).Nodup
  throughC : (e.fields.map (·.name)).Nodup → ∀ k m, e.fields[k]? = some m →
    (toPosition e).answer (constantOf e m) = some k ∧
      ((toPosition e).answer (constantOf e m)).bind (fromPosition e).answer =
        some (constantOf e m)

theorem answer_bind_answer {k : Nat} {m : Variable} (hm : e.fields[k]? = some m) :
    ((fromPosition e).answer k).bind (toPosition e).answer =
      ordinalOf? (enumRows e) (constantOf e m) := by
  rw [answer_fromPosition, constantAt?_enumRows, hm, Option.map_some, Option.bind_some,
    answer_toPosition]

theorem inverseTables (e : Record) : InverseTables e where
  fromC k := by rw [answer_fromPosition, constantAt?_enumRows]
  toC constant k := by rw [answer_toPosition, ordinalOf?_enumRows_eq_some_iff]
  panics constant := by rw [answer_toPosition, ordinalOf?_enumRows_eq_none_iff]
  throughGo k m hm := by
    rw [answer_bind_answer hm, ← positionsOf_constantOf]
    cases hfound : ordinalOf? (enumRows e) (constantOf e m) with
    | some j => exact ⟨j, rfl, ordinalOf?_enumRows_eq_some_iff.mp hfound⟩
    | none =>
      have hnone := ordinalOf?_enumRows_eq_none_iff.mp hfound
      exact absurd rfl (hnone m (List.mem_of_getElem? hm))
  identity_iff := by
    rw [← isLeast_all_iff]
    constructor
    · intro h k m hm
      have hk := h k (List.getElem?_eq_some_iff.mp hm).1
      rw [answer_bind_answer hm] at hk
      exact ordinalOf?_enumRows_eq_some_iff.mp hk
    · intro h k hk
      have hm := List.getElem?_eq_getElem hk
      rw [answer_bind_answer hm]
      exact ordinalOf?_enumRows_eq_some_iff.mpr (h k _ hm)
  throughC hnodup k m hm := by
    have hback : (toPosition e).answer (constantOf e m) = some k := by
      rw [answer_toPosition, ordinalOf?_enumRows_eq_some_iff]
      exact isLeast_all_iff.mpr hnodup k m hm
    refine ⟨hback, ?_⟩
    rw [hback, Option.bind_some, answer_fromPosition, constantAt?_enumRows, hm, Option.map_some]

/-- The enumerators of C, the constants of the API package and the converters name the members of an
enum in the same order. -/
structure SameOrder (e : Record) : Prop where
  enumerators : ∀ k : Nat,
    (Header.enumeratorsOf e)[k]? = e.fields[k]?.map fun m => s!"{e.name}_{m.name}"
  constants : ∀ k : Nat, (constantsOf e)[k]?.map (·.name) = e.fields[k]?.map (constantOf e)
  given : (fromPosition e).arms.map (·.2) = (constantsOf e).map (·.name)
  compared : (toPosition e).arms.map (·.1) = (constantsOf e).map (·.name)
  values : (∀ m ∈ e.fields, m.type ≠ "string") → ∀ (k : Nat) m, e.fields[k]? = some m →
    (constantsOf e)[k]? = some ⟨constantOf e m, e.name, toString k⟩

theorem sameOrder (e : Record) : SameOrder e where
  enumerators _ := List.getElem?_map
  constants k := by
    rw [getElem?_constantsOf, Option.map_map]
    rfl
  given := by
    rw [fromPosition, constantsOf, List.map_map, List.map_map]
    rfl
  compared := by
    rw [toPosition, constantsOf, List.map_map, List.map_map]
    rfl
  values hplain k m hm := by
    have hnumbers : ¬ hasTextConstants e = true := by
      rw [hasTextConstants_iff]
      exact fun ⟨n, hn, htype⟩ => hplain n hn htype
    rw [getElem?_constantsOf, hm, Option.map_some, constantValue, if_neg hnumbers]
    rfl

/-- The positions of an enum form one code on all sides. The converter from C takes exactly the
positions of the members, the converter to C takes exactly their constants to the first position of
the name, and they undo each other exactly when all names differ. The typedef of C, the constants
and the converters follow one order, and constants that are numbers are the positions. -/
theorem enum_tables_inverse (he : e ∈ api.enums) :
    Emits api e ∧ InverseTables e ∧ SameOrder e :=
  ⟨emits he, inverseTables e, sameOrder e⟩

/-- An enum that is backed by numbers. -/
def levels : Record where
  name := "Level"
  fields := [{ name := "LOW", type := "number" }, { name := "MID", type := "number" },
    { name := "HIGH", type := "number" }]

/-- All levels come back through both converters, and a fourth position is refused. -/
theorem enum_tables_inverse_levels :
    levels ∈ ({ enums := [levels] } : Api).enums ∧
    (∀ k < 3, ((fromPosition levels).answer k).bind (toPosition levels).answer = some k) ∧
    (fromPosition levels).answer 3 = none ∧
    (constantsOf levels)[2]? = some ⟨"LevelHIGH", "Level", "2"⟩ := by
  have he : levels ∈ ({ enums := [levels] } : Api).enums := List.mem_cons_self
  obtain ⟨-, htables, horder⟩ := enum_tables_inverse he
  refine ⟨he, htables.identity_iff.mpr (by decide), htables.fromC 3, ?_⟩
  exact horder.values (by decide) 2 { name := "HIGH", type := "number" } rfl

end Bindery.Host

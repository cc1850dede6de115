import Bindery.Api.Reader
import Bindery.Api.Writer
import Bindery.Proofs.Json.RoundTrip

/-!
# Descriptions in any writing

The fields of the five kinds of record, with what may be written for each, and that reading depends
on nothing else: every writing of a description is read as the description, with its enum-typed
variables marked. The main statement is `Api.reads_any_writing`.
-/
namespace Bindery
open Json Outcome

/-! ## What may be written -/

/-- The mark of a variable is left out when it is not set. -/
def Variable.slots (v : Variable) : List Slot := [
  { key := "name", optional := False, Written := WritesString v.name },
  { key := "type", optional := False, Written := WritesString v.type },
  { key := "enum", optional := v.enumTyped = false, Written := WritesFlag v.enumTyped }]

/-- What may be written for a list of variables. -/
def Variable.ListWritten : List Variable → List Char → Prop :=
  ListWriting fun v => RecordWriting v.slots

/-- A method without parameters, or one that does not fail, need not say so. -/
def Method.slots (m : Method) : List Slot := [
  { key := "name", optional := False, Written := WritesString m.name },
  { key := "params", optional := m.params = [], Written := Variable.ListWritten m.params },
  { key := "returnType", optional := False, Written := WritesString m.returns },
  { key := "returnOptional", optional := m.optional = false, Written := WritesFlag m.optional },
  { key := "throws", optional := m.throws = false, Written := WritesFlag m.throws }]

/-- Only the name of an interface must be given if it is plain and empty. -/
def Interface.slots (i : Interface) : List Slot := [
  { key := "name", optional := False, Written := WritesString i.name },
  { key := "singleton", optional := i.singleton = false, Written := WritesFlag i.singleton },
  { key := "handle", optional := i.handle = false, Written := WritesFlag i.handle },
  { key := "fold", optional := i.fold = false, Written := WritesFlag i.fold },
  { key := "functions", optional := i.methods = []
    Written := ListWriting (fun m => RecordWriting m.slots) i.methods }]

/-- Only the name of a struct or an enum must be given if it is empty. -/
def Record.slots (r : Record) : List Slot := [
  { key := "name", optional := False, Written := WritesString r.name },
  { key := "properties", optional := r.fields = [], Written := Variable.ListWritten r.fields }]

/-- What may be written for a list of structs or enums. -/
def Record.ListWritten : List Record → List Char → Prop :=
  ListWriting fun r => RecordWriting r.slots

/-- Empty parts of a description are left out. -/
def Api.slots (a : Api) : List Slot := [
  { key := "interfaces", optional := a.interfaces = []
    Written := ListWriting (fun i => RecordWriting i.slots) a.interfaces },
  { key := "structs", optional := a.structs = [], Written := Record.ListWritten a.structs },
  { key := "enums", optional := a.enums = [], Written := Record.ListWritten a.enums }]

/-- The text is a writing of the description, with blanks around it. -/
def Api.WrittenAs (a : Api) (text : String) : Prop :=
  ∃ (before after : Blanks) (written : List Char),
    text.toList = before.1 ++ (written ++ after.1) ∧ RecordWriting a.slots written

/-! ## The compact writing -/

theorem Variable.writes_json (v : Variable) : RecordWriting v.slots v.json :=
  recordWriting_writeObject
    (.cons ⟨rfl, writesString_writeString v.name⟩ <|
      .cons ⟨rfl, writesString_writeString v.type⟩ <|
      .cons ⟨rfl, writesFlag_writeFlag v.enumTyped⟩ .nil)

theorem Variable.writes_list (vs : List Variable) :
    Variable.ListWritten vs (writeList Variable.json vs) :=
  listWriting_writeList fun v _ => v.writes_json

theorem Method.writes_json (m : Method) : RecordWriting m.slots m.json :=
  recordWriting_writeObject
    (.cons ⟨rfl, writesString_writeString m.name⟩ <|
      .cons ⟨rfl, Variable.writes_list m.params⟩ <|
      .cons ⟨rfl, writesString_writeString m.returns⟩ <|
      .cons ⟨rfl, writesFlag_writeFlag m.optional⟩ <|
      .cons ⟨rfl, writesFlag_writeFlag m.throws⟩ .nil)

theorem Interface.writes_json (i : Interface) : RecordWriting i.slots i.json :=
  recordWriting_writeObject
    (.cons ⟨rfl, writesString_writeString i.name⟩ <|
      .cons ⟨rfl, writesFlag_writeFlag i.singleton⟩ <|
      .cons ⟨rfl, writesFlag_writeFlag i.handle⟩ <|
      .cons ⟨rfl, writesFlag_writeFlag i.fold⟩ <|
      .cons ⟨rfl, listWriting_writeList fun m _ => m.writes_json⟩ .nil)

theorem Record.writes_json (r : Record) : RecordWriting r.slots r.json :=
  recordWriting_writeObject
    (.cons ⟨rfl, writesString_writeString r.name⟩ <|
      .cons ⟨rfl, Variable.writes_list r.fields⟩ .nil)

theorem Record.writes_list (rs : List Record) :
    Record.ListWritten rs (writeList Record.json rs) :=
  listWriting_writeList fun r _ => r.writes_json

theorem Api.writes_json (a : Api) : RecordWriting a.slots a.json :=
  recordWriting_writeObject
    (.cons ⟨rfl, listWriting_writeList fun i _ => i.writes_json⟩ <|
      .cons ⟨rfl, Record.writes_list a.structs⟩ <|
      .cons ⟨rfl, Record.writes_list a.enums⟩ .nil)

theorem Api.writtenAs_toJson (a : Api) : a.WrittenAs a.toJson := by
  refine ⟨Blanks.none, Blanks.none, a.json, ?_, a.writes_json⟩
  simp [Api.toJson, Blanks.none]

/-! ## Records from their fields -/

def Variable.assembly (v : Variable) : Assembly Variable.shape v.slots v where
  loading :=
    .cons (loads_ofReader (fun _ => accepts_readString) nofun) <|
    .cons (loads_ofReader (fun _ => accepts_readString) nofun) <|
    .cons (loads_ofReader (fun _ => accepts_readFlag) fun h => ⟨rfl, by rw [h]; rfl⟩) .nil
  keys := by decide
  commute := by simp [Loading.loaders]
  whole_eq := rfl

theorem accepts_variables {vs : List Variable} (written : List Char)
    (h : Variable.ListWritten vs written) :
    Accepts (readList (readRecord Variable.shape)) written vs :=
  accepts_readList h fun v _ => accepts_readRecord v.assembly

def Method.assembly (m : Method) : Assembly Method.shape m.slots m where
  loading :=
    .cons (loads_ofReader (fun _ => accepts_readString) nofun) <|
    .cons (loads_ofReader accepts_variables fun h => ⟨rfl, by rw [h]; rfl⟩) <|
    .cons (loads_ofReader (fun _ => accepts_readString) nofun) <|
    .cons (loads_ofReader (fun _ => accepts_readFlag) fun h => ⟨rfl, by rw [h]; rfl⟩) <|
    .cons (loads_ofReader (fun _ => accepts_readFlag) fun h => ⟨rfl, by rw [h]; rfl⟩) .nil
  keys := by decide
  commute := by simp [Loading.loaders]
  whole_eq := rfl

theorem accepts_methods {ms : List Method} (written : List Char)
    (h : ListWriting (fun m => RecordWriting m.slots) ms written) :
    Accepts (readList (readRecord Method.shape)) written ms :=
  accepts_readList h fun m _ => accepts_readRecord m.assembly

def Interface.assembly (i : Interface) : Assembly Interface.shape i.slots i where
  loading :=
    .cons (loads_ofReader (fun _ => accepts_readString) nofun) <|
    .cons (loads_ofReader (fun _ => accepts_readFlag) fun h => ⟨rfl, by rw [h]; rfl⟩) <|
    .cons (loads_ofReader (fun _ => accepts_readFlag) fun h => ⟨rfl, by rw [h]; rfl⟩) <|
    .cons (loads_ofReader (fun _ => accepts_readFlag) fun h => ⟨rfl, by rw [h]; rfl⟩) <|
    .cons (loads_ofReader accepts_methods fun h => ⟨rfl, by rw [h]; rfl⟩) .nil
  keys := by decide
  commute := by simp [Loading.loaders]
  whole_eq := rfl

theorem accepts_interfaces {is : List Interface} (written : List Char)
    (h : ListWriting (fun i => RecordWriting i.slots) is written) :
    Accepts (readList (readRecord Interface.shape)) written is :=
  accepts_readList h fun i _ => accepts_readRecord i.assembly

def Record.assembly (r : Record) : Assembly Record.shape r.slots r where
  loading :=
    .cons (loads_ofReader (fun _ => accepts_readString) nofun) <|
    .cons (loads_ofReader accepts_variables fun h => ⟨rfl, by rw [h]; rfl⟩) .nil
  keys := by decide
  commute := by simp [Loading.loaders]
  whole_eq := rfl

theorem accepts_records {rs : List Record} (written : List Char)
    (h : Record.ListWritten rs written) :
    Accepts (readList (readRecord Record.shape)) written rs :=
  accepts_readList h fun r _ => accepts_readRecord r.assembly

def Api.assembly (a : Api) : Assembly Api.shape a.slots a where
  loading :=
    .cons (loads_ofReader accepts_interfaces fun h => ⟨rfl, by rw [h]; rfl⟩) <|
    .cons (loads_ofReader accepts_records fun h => ⟨rfl, by rw [h]; rfl⟩) <|
    .cons (loads_ofReader accepts_records fun h => ⟨rfl, by rw [h]; rfl⟩) .nil
  keys := by decide
  commute := by simp [Loading.loaders]
  whole_eq := rfl

theorem Api.ofJson_of_writtenAs {a : Api} {text : String} (h : a.WrittenAs text) :
    Api.ofJson text = .ok a.markEnums := by
  obtain ⟨before, after, written, htext, hwritten⟩ := h
  rw [Api.ofJson, readAll_of_accepts (accepts_readRecord a.assembly hwritten) htext]
  rfl

/-- The compact text of a description is one of its writings, and each of its writings is read as
the same: the description with its enum-typed variables marked. -/
theorem Api.reads_any_writing (a : Api) :
    a.WrittenAs a.toJson ∧ ∀ text, a.WrittenAs text → Api.ofJson text = .ok a.markEnums :=
  ⟨a.writtenAs_toJson, fun _ h => Api.ofJson_of_writtenAs h⟩

/-- A text that mixes objects and lists, with an unknown key, an escape in a key, fields in another
order, fields that are left out, and blanks. -/
theorem Api.reads_any_writing_mixed :
    let field : Variable := { name := "f", type := "E" }
    let described : Api :=
      { structs := [{ name := "S", fields := [field] }], enums := [{ name := "E" }] }
    let text := " \x7b\"x\":[\x7b\"\\ud800\":-0.5e+1\x7d],\"\\u0065nums\" : [[\"E\"]]," ++
      "\"structs\":[[\"S\",[\x7b\"type\":\"E\",\"name\":\"f\"\x7d]]]\x7d\n"
    described.WrittenAs text ∧ Api.ofJson text = .ok
      { structs := [{ name := "S", fields := [{ field with enumTyped := true }] }]
        enums := [{ name := "E" }] } := by
  intro field described text
  let space : Blanks := ⟨[' '], List.forall_mem_singleton.mpr (by decide)⟩
  have hdigit : HexDigit '0' 0 ∧ HexDigit '5' 5 ∧ HexDigit '6' 6 ∧ HexDigit '8' 8 ∧
      HexDigit 'd' 13 := by
    simp only [HexDigit]
    decide
  obtain ⟨h0, h5, h6, h8, hd⟩ := hdigit
  have hnumber : Value ['-', '0', '.', '5', 'e', '+', '1'] :=
    .number (@Number.mk ['-'] ['0'] ['.', '5'] ['e', '+', '1'] (by decide) .zero
      (.digits ⟨by decide, List.forall_mem_singleton.mpr rfl⟩)
      (@ExponentPart.digits 'e' ['+'] ['1'] (.inl rfl) (by decide)
        ⟨by decide, List.forall_mem_singleton.mpr rfl⟩))
  have hobject := @Value.object Blanks.none [⟨Part.bare ['"', '\\', 'u', 'd', '8', '0', '0', '"'],
    Part.bare ['-', '0', '.', '5', 'e', '+', '1']⟩]
    (List.forall_mem_singleton.mpr ⟨_, .code (.mk hd h8 h0 h0) .nil, rfl⟩)
    (List.forall_mem_singleton.mpr hnumber)
  have hvalue := @Value.list Blanks.none [Part.bare _] (List.forall_mem_singleton.mpr hobject)
  have hfield := @RecordWriting.object field.slots Blanks.none [_, _] [_]
    [Member.bare ("type", writeString "E"), Member.bare ("name", writeString "f")]
    (.swap _ _ _) (List.forall_mem_singleton.mpr rfl)
    (.field (writesString_writeString _) (writesString_writeString _) <|
      .field (writesString_writeString _) (writesString_writeString _) .done)
  have hstruct := @RecordWriting.list (Record.slots { name := "S", fields := [field] })
    Blanks.none _ [] [Part.bare (writeString "S"), Part.bare _] (List.append_nil _) (by simp)
    (.cons (writesString_writeString _) <|
      .cons (@ListWriting.mk _ _ [field] Blanks.none [Part.bare _] (.cons hfield .nil)) .nil)
  have henum := @RecordWriting.list (Record.slots { name := "E" }) Blanks.none [_] [_]
    [Part.bare (writeString "E")] rfl (List.forall_mem_singleton.mpr rfl)
    (.cons (writesString_writeString _) .nil)
  have hkey : WritesChars "enums".toList ['\\', 'u', '0', '0', '6', '5', 'n', 'u', 'm', 's'] :=
    @WritesChars.cons 'e' _ _ _ (.code (.mk h0 h0 h6 h5))
      (writesChars_writeChar ['n', 'u', 'm', 's'])
  have hall := @RecordWriting.object described.slots Blanks.none [_, _] [_]
    [⟨Part.bare (writeString "x"), Part.bare _⟩,
      ⟨⟨Blanks.none, _, space⟩, ⟨space, _, Blanks.none⟩⟩,
      ⟨Part.bare (writeString "structs"), Part.bare _⟩]
    (List.reverse_perm [_, _, _]) (List.forall_mem_singleton.mpr rfl)
    (.unknown (show "x" ∉ described.slots.map Slot.key by decide) (writesString_writeString _)
        hvalue <|
      .field (.quoted hkey)
        (@ListWriting.mk _ _ described.enums Blanks.none [Part.bare _] (.cons henum .nil)) <|
      .field (writesString_writeString _)
        (@ListWriting.mk _ _ described.structs Blanks.none [Part.bare _] (.cons hstruct .nil))
        .done)
  have hwritten : described.WrittenAs text :=
    ⟨space, ⟨['\n'], List.forall_mem_singleton.mpr (by decide)⟩, _, by decide, hall⟩
  exact ⟨hwritten, ((reads_any_writing described).2 text hwritten).trans (by decide)⟩

end Bindery

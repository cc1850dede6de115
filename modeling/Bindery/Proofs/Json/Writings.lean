import Bindery.Proofs.Json.Grammar
import Mathlib.Data.List.Nodup
import Mathlib.Data.List.Perm.Basic

/-!
# Reading any writing of a record

One record can be written in many ways: as an object whose members stand in any order, with members
under unknown keys between them, or as a list of its fields in declaration order. Fields at their
default value may be left out, and blanks may stand between all parts. `RecordWriting` says this for
records of any kind, and `accepts_readRecord` that every such text is read as the same record.

The keys of the fields differ, so members are told apart. The values of different fields do not
touch each other, so the order in which they are put in place does not matter.
-/
namespace Bindery.Json
open Text Outcome
variable {α : Type}

/-! ## What may be written -/

inductive WritesFlag : Bool → List Char → Prop
  | true : WritesFlag true ['t', 'r', 'u', 'e']
  | false : WritesFlag false ['f', 'a', 'l', 's', 'e']

/-- What may be written for a list, given what may be written for its items. -/
inductive ListWriting (Written : α → List Char → Prop) (as : List α) : List Char → Prop
  | mk (gap : Blanks) {items : List Part} :
      List.Forall₂ (fun a item => Written a item.core) as items →
      ListWriting Written as ('[' :: (between gap (items.map Part.text) ++ [']']))

/-- A field of a record and its value: the key, whether the field may be left out, and what may be
written for the value. -/
structure Slot where
  key : String
  optional : Prop
  Written : List Char → Prop

/-- The members give the values of the slots, in their order. Between them may stand members with a
key that is none of the known ones, and with any value. -/
inductive Gives (known : List String) : List Slot → List Member → Prop
  | done : Gives known [] []
  | field {slot : Slot} {given : List Slot} {m : Member} {members : List Member} :
      WritesString slot.key m.key.core → slot.Written m.value.core →
      Gives known given members → Gives known (slot :: given) (m :: members)
  | unknown {name : String} {given : List Slot} {m : Member} {members : List Member} :
      name ∉ known → WritesString name m.key.core → Value m.value.core →
      Gives known given members → Gives known given (m :: members)

/-- What may be written for a record with the given slots. -/
inductive RecordWriting (slots : List Slot) : List Char → Prop
  | object (gap : Blanks) {given omitted : List Slot} {members : List Member} :
      (given ++ omitted).Perm slots → (∀ slot ∈ omitted, slot.optional) →
      Gives (slots.map Slot.key) given members →
      RecordWriting slots ('\x7b' :: (between gap (members.map Member.text) ++ ['\x7d']))
  | list (gap : Blanks) {given omitted : List Slot} {elements : List Part} :
      given ++ omitted = slots → (∀ slot ∈ omitted, slot.optional) →
      List.Forall₂ (fun slot element => slot.Written element.core) given elements →
      RecordWriting slots ('[' :: (between gap (elements.map Part.text) ++ [']']))

/-! ## Reading on -/

section Steps
variable {β : Type} {text text' middle tail : List Char} {a : α} {b : β}

theorem leaves_ok {rest : Rest text} (h : rest.1 = tail) : Leaves (.ok (a, rest)) a tail := by
  subst h
  exact ⟨rest.2, rfl⟩

theorem Leaves.bind {outcome : Except Fault (α × Rest text)}
    {next : α × Rest text → Except Fault (β × Rest text')} (h : Leaves outcome a middle)
    (hnext : ∀ hm, Leaves (next (a, ⟨middle, hm⟩)) b tail) : Leaves (outcome >>= next) b tail := by
  obtain ⟨hm, rfl⟩ := h
  exact hnext hm

theorem Reaches.bind_leaves {P : List Char → Prop} {outcome : Except Fault { rest // P rest }}
    {next : { rest // P rest } → Except Fault (β × Rest text')} (h : Reaches outcome middle)
    (hnext : ∀ hm, Leaves (next ⟨middle, hm⟩) b tail) : Leaves (outcome >>= next) b tail := by
  obtain ⟨hm, rfl⟩ := h
  exact hnext hm

end Steps

/-- The reader takes what is written off the front of any text, also behind blanks, and what is
written does not look like the end of a list. -/
structure Accepts (read : Reader α) (written : List Char) (value : α) : Prop where
  takes (gap : Blanks) (tail : List Char) : Leaves (read (gap.1 ++ (written ++ tail))) value tail
  opens : Opens written

theorem Accepts.part {read : Reader α} {p : Part} {value : α} (h : Accepts read p.core value)
    (tail : List Char) : Leaves (read (p.text ++ tail)) value (p.after.1 ++ tail) := by
  rw [Part.text_append]
  exact h.takes p.before _

theorem Accepts.ofReader {β : Type} {read : Reader β} {written : List Char} {value : β}
    (h : Accepts read written value) (key : String) (required : Bool) (put : β → α → α) :
    Accepts (Field.ofReader key required read put).load written (put value) where
  takes gap tail := (h.takes gap tail).bind fun _ => leaves_ok rfl
  opens := h.opens

theorem readAll_of_accepts {read : Reader α} {written : List Char} {value : α}
    (h : Accepts read written value) {before after : Blanks} {text : String}
    (htext : text.toList = before.1 ++ (written ++ after.1)) : readAll read text = .ok value := by
  have hall : Leaves (read text.toList) value after.1 := htext ▸ h.takes before after.1
  obtain ⟨_, hread⟩ := hall
  rw [readAll, hread]
  simp only [ok_bind, next?_all_blank]

/-! ## Strings, truth values and lists -/

theorem accepts_readString {value : String} {written : List Char} (h : WritesString value written) :
    Accepts readString written value := by
  cases h with
  | @quoted body hbody =>
    refine ⟨fun gap tail => ?_, _, _, rfl, rfl, by decide⟩
    rw [List.cons_append, List.append_assoc, List.singleton_append]
    obtain ⟨_, hnext⟩ := next_blanks gap (c := '"') rfl (body ++ '"' :: tail)
    rw [readString, hnext]
    refine (leaves_string_writesChars hbody tail).bind fun _ => ?_
    simp only [String.ofList_toList]
    exact leaves_ok rfl

theorem accepts_readFlag {value : Bool} {written : List Char} (h : WritesFlag value written) :
    Accepts readFlag written value := by
  cases h with
  | true =>
    refine ⟨fun gap tail => ?_, _, _, rfl, rfl, by decide⟩
    obtain ⟨_, hnext⟩ := next_blanks gap (c := 't') rfl (['r', 'u', 'e'] ++ tail)
    rw [List.cons_append, readFlag, hnext]
    exact Reaches.bind_leaves (word_append ['r', 'u', 'e'] tail) fun _ => leaves_ok rfl
  | false =>
    refine ⟨fun gap tail => ?_, _, _, rfl, rfl, by decide⟩
    obtain ⟨_, hnext⟩ := next_blanks gap (c := 'f') rfl (['a', 'l', 's', 'e'] ++ tail)
    rw [List.cons_append, readFlag, hnext]
    exact Reaches.bind_leaves (word_append ['a', 'l', 's', 'e'] tail) fun _ => leaves_ok rfl

section Lists
variable {item : Reader α} {as : List α} {items : List Part}

theorem leaves_readMore_parts (h : List.Forall₂ (fun a p => Accepts item p.core a) as items)
    (gap : Blanks) (tail : List Char) :
    Leaves (readMore item (gap.1 ++ (commaLed (items.map Part.text) ++ ']' :: tail))) as tail := by
  induction h generalizing gap with
  | nil =>
    obtain ⟨_, hnext⟩ := next_blanks gap (c := ']') rfl tail
    show Leaves (readMore item (gap.1 ++ ']' :: tail)) _ _
    rw [readMore, hnext]
    exact leaves_ok rfl
  | @cons a p as items ha _ ih =>
    rw [List.map_cons, commaLed_cons]
    obtain ⟨_, hnext⟩ := next_blanks gap (c := ',') rfl
      (p.text ++ (commaLed (items.map Part.text) ++ ']' :: tail))
    rw [readMore, hnext]
    exact (ha.part _).bind fun _ => (ih p.after).bind fun _ => leaves_ok rfl

theorem readItems_of_next? {text : List Char} {c : Char} {rest : Rest text}
    (h : next? text = some (c, rest)) (hne : c ≠ ']') :
    readItems item text = (do
      let (a, after) ← item text
      let (as, left) ← readMore item after.1
      .ok (a :: as, after.trans left)) := by
  unfold readItems
  split
  · rename_i hnone
    cases h.symm.trans hnone
  · rename_i hclose
    cases h.symm.trans hclose
    exact absurd rfl hne
  · rfl

theorem leaves_readItems_parts (h : List.Forall₂ (fun a p => Accepts item p.core a) as items)
    (gap : Blanks) (tail : List Char) :
    Leaves (readItems item (between gap (items.map Part.text) ++ ']' :: tail)) as tail := by
  cases h with
  | nil =>
    obtain ⟨_, hnext⟩ := next_blanks gap (c := ']') rfl tail
    show Leaves (readItems item (gap.1 ++ ']' :: tail)) _ _
    rw [readItems, hnext]
    exact leaves_ok rfl
  | @cons a p as items ha h =>
    obtain ⟨c, rest, hcore, hblank, hne⟩ := ha.opens
    rw [List.map_cons, between, List.append_assoc]
    obtain ⟨_, hnext⟩ := p.next hcore hblank (commaLed (items.map Part.text) ++ ']' :: tail)
    rw [readItems_of_next? hnext hne]
    exact (ha.part _).bind fun _ =>
      (leaves_readMore_parts h p.after tail).bind fun _ => leaves_ok rfl

theorem accepts_readList {Written : α → List Char → Prop} {written : List Char}
    (h : ListWriting Written as written) (hitem : ∀ a w, Written a w → Accepts item w a) :
    Accepts (readList item) written as := by
  cases h with
  | @mk inner items hitems =>
    refine ⟨fun gap tail => ?_, _, _, rfl, rfl, by decide⟩
    rw [List.cons_append, List.append_assoc, List.singleton_append]
    obtain ⟨_, hnext⟩ := next_blanks gap (c := '[') rfl
      (between inner (items.map Part.text) ++ ']' :: tail)
    rw [readList, hnext]
    have haccepts := hitems.imp fun a (p : Part) => hitem a p.core
    exact (leaves_readItems_parts haccepts inner tail).bind fun _ => leaves_ok rfl

end Lists

/-! ## Fields and their values -/

/-- Reading what is written in the slot makes the given change to the record. A field that may be
left out has the value of the blank record. -/
structure Loads (shape : Shape α) (field : Field α) (slot : Slot) (change : α → α) : Prop where
  key_eq : slot.key = field.key
  idle : slot.optional → field.required = false ∧ change shape.blank = shape.blank
  accepts : ∀ written, slot.Written written → Accepts field.load written change

theorem loads_ofReader {β : Type} {shape : Shape α} {key : String} {required : Bool}
    {read : Reader β} {put : β → α → α} {value : β} {optional : Prop} {Written : List Char → Prop}
    (haccepts : ∀ written, Written written → Accepts read written value)
    (hidle : optional → required = false ∧ put value shape.blank = shape.blank) :
    Loads shape (.ofReader key required read put) ⟨key, optional, Written⟩ (put value) where
  key_eq := rfl
  idle := hidle
  accepts written h := (haccepts written h).ofReader key required put

structure Loader (shape : Shape α) where
  field : Field α
  slot : Slot
  change : α → α
  loads : Loads shape field slot change

/-- A slot and a change for each of the fields. -/
inductive Loading (shape : Shape α) : List (Field α) → List Slot → Type
  | nil : Loading shape [] []
  | cons {field : Field α} {slot : Slot} {fields : List (Field α)} {slots : List Slot}
      {change : α → α} (loads : Loads shape field slot change) (rest : Loading shape fields slots) :
      Loading shape (field :: fields) (slot :: slots)

def Loading.loaders {shape : Shape α} {fields : List (Field α)} {slots : List Slot} :
    Loading shape fields slots → List (Loader shape)
  | nil => []
  | cons loads rest => ⟨_, _, _, loads⟩ :: rest.loaders

section Records
variable {shape : Shape α} {fields : List (Field α)} {slots : List Slot} {whole : α}

theorem Loading.map_field (loading : Loading shape fields slots) :
    loading.loaders.map Loader.field = fields := by
  induction loading with
  | nil => rfl
  | cons _ _ ih => rw [loaders, List.map_cons, ih]

theorem Loading.map_slot (loading : Loading shape fields slots) :
    loading.loaders.map Loader.slot = slots := by
  induction loading with
  | nil => rfl
  | cons _ _ ih => rw [loaders, List.map_cons, ih]

theorem Loading.keys_eq (loading : Loading shape fields slots) :
    slots.map Slot.key = fields.map Field.key := by
  induction loading with
  | nil => rfl
  | cons loads _ ih => rw [List.map_cons, List.map_cons, loads.key_eq, ih]

/-- The record after the values of some fields were put in place. -/
def fill (loaders : List (Loader shape)) (record : α) : α :=
  loaders.foldl (fun r l => l.change r) record

/-- A record that is put together from the values of its fields, in whatever order. -/
structure Assembly (shape : Shape α) (slots : List Slot) (whole : α) where
  loading : Loading shape shape.fields slots
  keys : (shape.fields.map Field.key).Nodup
  commute : ∀ l ∈ loading.loaders, ∀ l' ∈ loading.loaders, ∀ record,
    l'.change (l.change record) = l.change (l'.change record)
  whole_eq : fill loading.loaders shape.blank = whole

theorem fill_omitted {omitted : List (Loader shape)} (h : ∀ l ∈ omitted, l.slot.optional) :
    fill omitted shape.blank = shape.blank := by
  induction omitted with
  | nil => rfl
  | cons l omitted ih =>
    have hidle := (l.loads.idle (h l List.mem_cons_self)).2
    rw [fill, List.foldl_cons, hidle]
    exact ih fun other hother => h other (List.mem_cons_of_mem l hother)

/-- A permutation of the slots comes from one of the loaders. -/
theorem Assembly.exists_loaders (assembly : Assembly shape slots whole) {given omitted : List Slot}
    (h : (given ++ omitted).Perm slots) : ∃ givenLoaders omittedLoaders : List (Loader shape),
      (givenLoaders ++ omittedLoaders).Perm assembly.loading.loaders ∧
      givenLoaders.map Loader.slot = given ∧ omittedLoaders.map Loader.slot = omitted := by
  rw [← assembly.loading.map_slot] at h
  obtain ⟨loaders, hslots, horder⟩ :=
    (congrFun₂ (List.eq_map_comp_perm Loader.slot) _ _).mpr h
  obtain ⟨givenLoaders, omittedLoaders, rfl, hgiven, homitted⟩ :=
    List.map_eq_append_iff.mp hslots.symm
  exact ⟨givenLoaders, omittedLoaders, horder, hgiven, homitted⟩

theorem Assembly.fill_given (assembly : Assembly shape slots whole)
    {given omitted : List (Loader shape)} (hperm : (given ++ omitted).Perm assembly.loading.loaders)
    (homitted : ∀ l ∈ omitted, l.slot.optional) : fill given shape.blank = whole := by
  have horder : (omitted ++ given).Perm assembly.loading.loaders :=
    List.perm_append_comm.trans hperm
  calc fill given shape.blank
      = fill given (fill omitted shape.blank) := by rw [fill_omitted homitted]
    _ = fill (omitted ++ given) shape.blank := List.foldl_append.symm
    _ = fill assembly.loading.loaders shape.blank := horder.foldl_eq' (fun l hl l' hl' =>
        assembly.commute l (horder.subset hl) l' (horder.subset hl')) _
    _ = whole := assembly.whole_eq

/-! ## Members -/

/-- The loaders whose members are still to come, when the given keys were seen. -/
structure Pending (shape : Shape α) (seen : List String) (loaders : List (Loader shape)) :
    Prop where
  mem : ∀ l ∈ loaders, l.field ∈ shape.fields
  nodup : (loaders.map (·.field.key) ++ seen).Nodup
  required : ∀ f ∈ shape.fields, f.required = true →
    f.key ∈ seen ∨ f.key ∈ loaders.map (·.field.key)

theorem Pending.next {seen : List String} {l : Loader shape} {loaders : List (Loader shape)}
    (h : Pending shape seen (l :: loaders)) : Pending shape (l.field.key :: seen) loaders where
  mem other hother := h.mem other (List.mem_cons_of_mem l hother)
  nodup := List.nodup_middle.mpr h.nodup
  required f hf hreq := by
    rcases h.required f hf hreq with hseen | hpending
    · exact .inl (List.mem_cons_of_mem _ hseen)
    · rcases List.mem_cons.mp hpending with hkey | hrest
      · exact .inl (hkey ▸ List.mem_cons_self)
      · exact .inr hrest

theorem Assembly.pending (assembly : Assembly shape slots whole)
    {given omitted : List (Loader shape)} (hperm : (given ++ omitted).Perm assembly.loading.loaders)
    (homitted : ∀ l ∈ omitted, l.slot.optional) : Pending shape [] given where
  mem l hl := by
    rw [← assembly.loading.map_field]
    exact List.mem_map_of_mem (hperm.subset (List.mem_append_left omitted hl))
  nodup := by
    have hkeys := assembly.keys
    rw [← assembly.loading.map_field, List.map_map] at hkeys
    have hall := (hperm.map (Field.key ∘ Loader.field)).nodup_iff.mpr hkeys
    rw [List.map_append] at hall
    rw [List.append_nil]
    exact hall.of_append_left
  required f hf hreq := by
    rw [← assembly.loading.map_field] at hf
    obtain ⟨l, hl, rfl⟩ := List.mem_map.mp hf
    rcases List.mem_append.mp (hperm.symm.subset hl) with hgiven | homit
    · exact .inr (List.mem_map_of_mem hgiven)
    · have hfree := (l.loads.idle (homitted l homit)).1
      rw [hfree] at hreq
      cases hreq

theorem find?_key (hkeys : (fields.map (·.key)).Nodup) {field : Field α} (hf : field ∈ fields) :
    fields.find? (·.key == field.key) = some field := by
  induction fields with
  | nil => cases hf
  | cons first fields ih =>
    obtain ⟨hfirst, hrest⟩ := List.nodup_cons.mp hkeys
    rcases List.mem_cons.mp hf with rfl | hf
    · simp
    · have hne : first.key ≠ field.key := by
        intro he
        exact hfirst (List.mem_map.mpr ⟨field, hf, he.symm⟩)
      rw [List.find?_cons_of_neg (by simpa using hne)]
      exact ih hrest hf

theorem finish_eq_ok {seen : List String}
    (h : ∀ f ∈ shape.fields, f.required = true → f.key ∈ seen) (record : α) :
    shape.finish seen record = .ok record := by
  have hnone : shape.missing? seen = none := by
    simp only [Shape.missing?, Option.map_eq_none_iff, List.find?_eq_none]
    intro f hf
    simpa using h f hf
  rw [Shape.finish, hnone]

theorem readMembers_of_next? {seen : List String} {text : List Char} {rest : Rest text}
    {opened : Rest rest.1} (hcomma : next? text = some (',', rest))
    (hquote : next? rest.1 = some ('"', opened)) (record : α) :
    readMembers shape seen record text = (do
      let ((seen, record), after) ← readMember shape seen record opened.1
      let (whole, left) ← readMembers shape seen record after.1
      .ok (whole, rest.trans (opened.trans (after.trans left)))) := by
  rw [readMembers, hcomma]
  simp only [hquote]

/-- A member begins with the quote of its key, and its name is read up to the colon. -/
theorem Member.leaves_key {m : Member} {name : String} (h : WritesString name m.key.core)
    (tail : List Char) : ∃ opened, Next (m.text ++ tail) '"' opened ∧
      Leaves (string opened) name.toList (m.key.after.1 ++ ':' :: (m.value.text ++ tail)) := by
  rw [Member.text_append]
  generalize hcore : m.key.core = core at h
  cases h with
  | @quoted body hbody =>
    refine ⟨_, m.key.next hcore rfl _, ?_⟩
    rw [List.append_assoc, List.singleton_append]
    exact leaves_string_writesChars hbody _

section Readings
variable {seen seen' : List String} {record record' : α} {key : String}
  {text opened rest after tail : List Char}

theorem leaves_readMember_field {field : Field α} {change : α → α}
    (hstring : Leaves (string opened) field.key.toList rest) (hcolon : Reaches (colon rest) after)
    (hfind : shape.fields.find? (·.key == field.key) = some field) (hseen : field.key ∉ seen)
    (hload : Leaves (field.load after) change tail) :
    Leaves (readMember shape seen record opened) (field.key :: seen, change record) tail := by
  have hnot : seen.contains field.key = false := by simpa using hseen
  refine hstring.bind fun _ => ?_
  simp only [String.ofList_toList, hfind, hnot, Bool.false_eq_true, if_false]
  exact hcolon.bind_leaves fun _ => hload.bind fun _ => leaves_ok rfl

theorem leaves_readMember_unknown (hstring : Leaves (string opened) key.toList rest)
    (hcolon : Reaches (colon rest) after) (hfind : shape.fields.find? (·.key == key) = none)
    (hskip : Reaches (skip after) tail) :
    Leaves (readMember shape seen record opened) (seen, record) tail := by
  refine hstring.bind fun _ => ?_
  simp only [String.ofList_toList, hfind]
  exact hcolon.bind_leaves fun _ => hskip.bind_leaves fun _ => leaves_ok rfl

theorem leaves_readMembers_cons (hcomma : Next text ',' rest) (hquote : Next rest '"' opened)
    (hmember : Leaves (readMember shape seen record opened) (seen', record') after)
    (hmore : Leaves (readMembers shape seen' record' after) whole tail) :
    Leaves (readMembers shape seen record text) whole tail := by
  obtain ⟨_, hcomma⟩ := hcomma
  obtain ⟨_, hquote⟩ := hquote
  rw [readMembers_of_next? hcomma hquote]
  exact hmember.bind fun _ => hmore.bind fun _ => leaves_ok rfl

theorem leaves_readObject_cons (hquote : Next text '"' opened)
    (hmember : Leaves (readMember shape [] shape.blank opened) (seen', record') after)
    (hmore : Leaves (readMembers shape seen' record' after) whole tail) :
    Leaves (readObject shape text) whole tail := by
  obtain ⟨_, hquote⟩ := hquote
  rw [readObject, hquote]
  exact hmember.bind fun _ => hmore.bind fun _ => leaves_ok rfl

end Readings

/-- Reading one member. The member of a field is put in place, and an unknown one is skipped. -/
theorem Gives.step {m : Member} {members : List Member} {seen : List String}
    {loaders : List (Loader shape)}
    (h : Gives (shape.fields.map Field.key) (loaders.map Loader.slot) (m :: members))
    (hkeys : (shape.fields.map Field.key).Nodup) (hpending : Pending shape seen loaders)
    (record : α) : ∃ loaders' seen' record',
      Gives (shape.fields.map Field.key) (loaders'.map Loader.slot) members ∧
      Pending shape seen' loaders' ∧ fill loaders' record' = fill loaders record ∧
      ∀ tail, Ends tail → ∃ opened, Next (m.text ++ tail) '"' opened ∧
        Leaves (readMember shape seen record opened) (seen', record')
          (m.value.after.1 ++ tail) := by
  generalize hslots : loaders.map Loader.slot = given at h
  cases h with
  | @field slot given _ _ hkey hvalue hrest =>
    obtain ⟨l, loaders, rfl, rfl, rfl⟩ := List.map_eq_cons_iff.mp hslots
    refine ⟨loaders, l.field.key :: seen, l.change record, hrest, hpending.next, rfl, ?_⟩
    intro tail _
    rw [l.loads.key_eq] at hkey
    obtain ⟨opened, hquote, hstring⟩ := m.leaves_key hkey tail
    have hnew : l.field.key ∉ seen := fun hmem =>
      List.disjoint_of_nodup_append hpending.nodup List.mem_cons_self hmem
    exact ⟨opened, hquote, leaves_readMember_field hstring
      (reaches_colon (next_blanks m.key.after rfl _))
      (find?_key hkeys (hpending.mem l List.mem_cons_self)) hnew
      ((l.loads.accepts _ hvalue).part tail)⟩
  | @unknown name _ _ _ hname hkey hvalue hrest =>
    subst hslots
    refine ⟨loaders, seen, record, hrest, hpending, rfl, ?_⟩
    intro tail htail
    obtain ⟨opened, hquote, hstring⟩ := m.leaves_key hkey tail
    have hfind : shape.fields.find? (·.key == name) = none := by
      rw [List.find?_eq_none]
      intro f hf hbeq
      exact hname (beq_iff_eq.mp hbeq ▸ List.mem_map_of_mem hf)
    have hskip := skip_value hvalue m.value.before (ends_blanks m.value.after htail)
    rw [← Part.text_append] at hskip
    exact ⟨opened, hquote, leaves_readMember_unknown hstring
      (reaches_colon (next_blanks m.key.after rfl _)) hfind hskip⟩

/-- When no member is left, no field is missing. -/
theorem Gives.finish {known seen : List String} {loaders : List (Loader shape)}
    (h : Gives known (loaders.map Loader.slot) []) (hpending : Pending shape seen loaders)
    (record : α) : shape.finish seen record = .ok (fill loaders record) := by
  have hnone : loaders = [] := by
    generalize hslots : loaders.map Loader.slot = given at h
    cases h with
    | done => exact List.map_eq_nil_iff.mp hslots
  subst hnone
  exact finish_eq_ok (fun f hf hreq =>
    (hpending.required f hf hreq).resolve_right List.not_mem_nil) record

/-- The members behind the first one, and the brace that closes the object. -/
theorem Gives.leaves_readMembers {members : List Member} {seen : List String}
    {loaders : List (Loader shape)}
    (h : Gives (shape.fields.map Field.key) (loaders.map Loader.slot) members)
    (hkeys : (shape.fields.map Field.key).Nodup) (hpending : Pending shape seen loaders)
    (record : α) (gap : Blanks) (tail : List Char) :
    Leaves (readMembers shape seen record
      (gap.1 ++ (commaLed (members.map Member.text) ++ '\x7d' :: tail))) (fill loaders record)
      tail := by
  -- Every member is read, but only those of fields bring the end of the pending loaders nearer.
  induction members generalizing loaders seen record gap with
  | nil =>
    obtain ⟨_, hnext⟩ := next_blanks gap (c := '\x7d') rfl tail
    show Leaves (readMembers shape seen record (gap.1 ++ '\x7d' :: tail)) _ _
    rw [readMembers, hnext]
    simp only [h.finish hpending, ok_bind]
    exact leaves_ok rfl
  | cons m members ih =>
    obtain ⟨loaders', seen', record', hrest, hpending', hfill, hmember⟩ :=
      h.step hkeys hpending record
    obtain ⟨opened, hquote, hread⟩ :=
      hmember (commaLed (members.map Member.text) ++ '\x7d' :: tail) (ends_commaLed (by decide) _ _)
    rw [List.map_cons, commaLed_cons, ← hfill]
    exact leaves_readMembers_cons (next_blanks gap rfl _) hquote hread
      (ih hrest hpending' record' m.value.after)

theorem Gives.leaves_readObject {members : List Member} {loaders : List (Loader shape)}
    (h : Gives (shape.fields.map Field.key) (loaders.map Loader.slot) members)
    (hkeys : (shape.fields.map Field.key).Nodup) (hpending : Pending shape [] loaders)
    (gap : Blanks) (tail : List Char) :
    Leaves (readObject shape (between gap (members.map Member.text) ++ '\x7d' :: tail))
      (fill loaders shape.blank) tail := by
  cases members with
  | nil =>
    obtain ⟨_, hnext⟩ := next_blanks gap (c := '\x7d') rfl tail
    show Leaves (readObject shape (gap.1 ++ '\x7d' :: tail)) _ _
    rw [readObject, hnext]
    simp only [h.finish hpending, ok_bind]
    exact leaves_ok rfl
  | cons m members =>
    obtain ⟨loaders', seen', record', hrest, hpending', hfill, hmember⟩ :=
      h.step hkeys hpending shape.blank
    obtain ⟨opened, hquote, hread⟩ :=
      hmember (commaLed (members.map Member.text) ++ '\x7d' :: tail) (ends_commaLed (by decide) _ _)
    rw [List.map_cons, between, List.append_assoc, ← hfill]
    exact leaves_readObject_cons hquote hread
      (hrest.leaves_readMembers hkeys hpending' record' m.value.after tail)

/-! ## Elements -/

section Elements
variable {field : Field α} {position : Nat} {record : α} {c : Char} {change : α → α}
  {text rest after tail : List Char}

theorem leaves_readElements_omitted (h : ∀ f ∈ fields, f.required = false)
    (hclose : Next text ']' tail) :
    Leaves (readElements shape fields position record text) record tail := by
  have ⟨_, hnext⟩ := hclose
  induction fields generalizing position with
  | nil =>
    rw [readElements, hnext]
    exact leaves_ok rfl
  | cons f fields ih =>
    rw [readElements, hnext]
    simp only [h f List.mem_cons_self, Bool.false_eq_true, if_false]
    exact ih fun other hother => h other (List.mem_cons_of_mem f hother)

theorem leaves_readElements_first (hfirst : Next text c rest) (hc : c ≠ ']')
    (hload : Leaves (field.load text) change after)
    (hmore : Leaves (readElements shape fields 1 (change record) after) whole tail) :
    Leaves (readElements shape (field :: fields) 0 record text) whole tail := by
  obtain ⟨_, hnext⟩ := hfirst
  rw [readElements, hnext]
  split
  · rename_i hnone
    cases hnone
  · rename_i hclose
    cases hclose
    exact absurd rfl hc
  · rename_i hsome
    cases hsome
    exact hload.bind fun _ => hmore.bind fun _ => leaves_ok rfl

theorem leaves_readElements_comma (hcomma : Next text ',' rest)
    (hload : Leaves (field.load rest) change after)
    (hmore : Leaves (readElements shape fields (position + 2) (change record) after) whole tail) :
    Leaves (readElements shape (field :: fields) (position + 1) record text) whole tail := by
  obtain ⟨_, hnext⟩ := hcomma
  rw [readElements, hnext]
  exact hload.bind fun _ => hmore.bind fun _ => leaves_ok rfl

end Elements

/-- The elements behind the first one, and the bracket that closes the list before the fields that
are left out. -/
theorem leaves_readElements_parts {loaders : List (Loader shape)} {elements : List Part}
    {omitted : List (Field α)}
    (h : List.Forall₂ (fun (l : Loader shape) (e : Part) => l.slot.Written e.core) loaders elements)
    (homitted : ∀ f ∈ omitted, f.required = false) (position : Nat) (record : α) (gap : Blanks)
    (tail : List Char) :
    Leaves (readElements shape (loaders.map Loader.field ++ omitted) (position + 1) record
      (gap.1 ++ (commaLed (elements.map Part.text) ++ ']' :: tail))) (fill loaders record)
      tail := by
  induction h generalizing position record gap with
  | nil => exact leaves_readElements_omitted homitted (next_blanks gap rfl tail)
  | @cons l e loaders elements hl _ ih =>
    rw [List.map_cons, List.map_cons, commaLed_cons]
    exact leaves_readElements_comma (next_blanks gap rfl _) ((l.loads.accepts _ hl).part _)
      (ih (position + 1) (l.change record) e.after)

theorem leaves_readElements {loaders : List (Loader shape)} {elements : List Part}
    {omitted : List (Field α)}
    (h : List.Forall₂ (fun (l : Loader shape) (e : Part) => l.slot.Written e.core) loaders elements)
    (homitted : ∀ f ∈ omitted, f.required = false) (record : α) (gap : Blanks)
    (tail : List Char) :
    Leaves (readElements shape (loaders.map Loader.field ++ omitted) 0 record
      (between gap (elements.map Part.text) ++ ']' :: tail)) (fill loaders record) tail := by
  cases h with
  | nil => exact leaves_readElements_omitted homitted (next_blanks gap rfl tail)
  | @cons l e loaders elements hl h =>
    have haccepts := l.loads.accepts _ hl
    obtain ⟨c, rest, hcore, hblank, hne⟩ := haccepts.opens
    rw [List.map_cons, List.map_cons, between, List.append_assoc]
    exact leaves_readElements_first (e.next hcore hblank _) hne (haccepts.part _)
      (leaves_readElements_parts h homitted 0 (l.change record) e.after tail)

/-- Every writing of a record is read as the record. -/
theorem accepts_readRecord (assembly : Assembly shape slots whole) {written : List Char}
    (h : RecordWriting slots written) : Accepts (readRecord shape) written whole := by
  cases h with
  | @object inner given omitted members hperm homitted hgives =>
    refine ⟨fun gap tail => ?_, _, _, rfl, rfl, by decide⟩
    -- The order of the members is one of the loaders, and it does not show in the record.
    obtain ⟨givenLoaders, omittedLoaders, horder, rfl, rfl⟩ := assembly.exists_loaders hperm
    have hidle := List.forall_mem_map.mp homitted
    rw [assembly.loading.keys_eq] at hgives
    rw [List.cons_append, List.append_assoc, List.singleton_append]
    obtain ⟨_, hnext⟩ := next_blanks gap (c := '\x7b') rfl
      (between inner (members.map Member.text) ++ '\x7d' :: tail)
    have hread := hgives.leaves_readObject assembly.keys (assembly.pending horder hidle) inner tail
    rw [assembly.fill_given horder hidle] at hread
    rw [readRecord, hnext]
    exact hread.bind fun _ => leaves_ok rfl
  | @list inner given omitted elements hsplit homitted helements =>
    refine ⟨fun gap tail => ?_, _, _, rfl, rfl, by decide⟩
    rw [← assembly.loading.map_slot] at hsplit
    obtain ⟨givenLoaders, omittedLoaders, hloaders, rfl, rfl⟩ :=
      List.map_eq_append_iff.mp hsplit.symm
    have hidle := List.forall_mem_map.mp homitted
    have hfree : ∀ f ∈ omittedLoaders.map Loader.field, f.required = false :=
      List.forall_mem_map.mpr fun l hl => (l.loads.idle (hidle l hl)).1
    have hfields : shape.fields =
        givenLoaders.map Loader.field ++ omittedLoaders.map Loader.field := by
      rw [← assembly.loading.map_field, hloaders, List.map_append]
    rw [List.cons_append, List.append_assoc, List.singleton_append]
    obtain ⟨_, hnext⟩ := next_blanks gap (c := '[') rfl
      (between inner (elements.map Part.text) ++ ']' :: tail)
    have hread := leaves_readElements (List.forall₂_map_left_iff.mp helements) hfree shape.blank
      inner tail
    rw [assembly.fill_given (hloaders ▸ List.Perm.refl _) hidle, ← hfields] at hread
    rw [readRecord, hnext]
    exact hread.bind fun _ => leaves_ok rfl

end Records

end Bindery.Json

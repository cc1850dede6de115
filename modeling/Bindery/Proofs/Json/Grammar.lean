import Bindery.Json.Reader
import Bindery.Proofs.Outcome
import Mathlib.Data.List.TakeWhile

/-!
# The grammar of JSON texts

What may be written for a value, said apart from how texts are read: strings with their escapes,
numbers, and lists and objects with blanks around every part. A value of the grammar is passed over
as a whole, however deep it is nested, and what follows it is left. This is `skip_value`; it goes by
induction on the derivation of the value, with the brackets that are open around it held fixed.
-/
namespace Bindery.Json
open Text Outcome
variable {α : Type}

/-! ## Strings and numbers -/

/-- The value of a hexadecimal digit, a letter being small or capital. -/
def HexDigit (c : Char) (n : Nat) : Prop :=
  n < 16 ∧ (c = Nat.digitChar n ∨ c = (Nat.digitChar n).toUpper)

inductive HexQuad : List Char → Nat → Prop
  | mk {a b c d : Char} {i j k l : Nat} :
      HexDigit a i → HexDigit b j → HexDigit c k → HexDigit d l →
      HexQuad [a, b, c, d] (((i * 16 + j) * 16 + k) * 16 + l)

/-- The escapes of one letter: the letter and the character that it stands for. -/
def letterEscapes : List (Char × Char) :=
  [('"', '"'), ('\\', '\\'), ('/', '/'), ('b', '\x08'), ('f', '\x0c'), ('n', '\n'), ('r', '\r'),
    ('t', '\t')]

/-- A character that may stand for itself between quotes. -/
def StandsForItself (c : Char) : Prop := c ≠ '"' ∧ c ≠ '\\' ∧ 0x20 ≤ c.toNat

/-- What may be written for a character: the character, an escape of one letter, the number of its
code point, or the numbers of its two surrogates. -/
inductive WritesChar : Char → List Char → Prop
  | self {c : Char} : StandsForItself c → WritesChar c [c]
  | letter {x c : Char} : (x, c) ∈ letterEscapes → WritesChar c ['\\', x]
  | code {c : Char} {digits : List Char} : HexQuad digits c.toNat →
      WritesChar c ('\\' :: 'u' :: digits)
  | pair {c : Char} {first second : List Char} {high low : Nat} :
      HexQuad first high → HexQuad second low → 0xD800 ≤ high → high < 0xDC00 →
      0xDC00 ≤ low → low < 0xE000 →
      c.toNat = 0x10000 + (high - 0xD800) * 0x400 + (low - 0xDC00) →
      WritesChar c ('\\' :: 'u' :: (first ++ '\\' :: 'u' :: second))

inductive WritesChars : List Char → List Char → Prop
  | nil : WritesChars [] []
  | cons {c : Char} {cs written more : List Char} :
      WritesChar c written → WritesChars cs more → WritesChars (c :: cs) (written ++ more)

/-- What may be written for a text: its characters in quotes. -/
inductive WritesString (text : String) : List Char → Prop
  | quoted {written : List Char} : WritesChars text.toList written →
      WritesString text ('"' :: (written ++ ['"']))

/-- What may stand between the quotes of a string whose text does not matter: an escape may be half
of a surrogate pair. -/
inductive StringBody : List Char → Prop
  | nil : StringBody []
  | self {c : Char} {more : List Char} : StandsForItself c → StringBody more →
      StringBody (c :: more)
  | letter {x c : Char} {more : List Char} : (x, c) ∈ letterEscapes → StringBody more →
      StringBody ('\\' :: x :: more)
  | code {digits more : List Char} {n : Nat} : HexQuad digits n → StringBody more →
      StringBody ('\\' :: 'u' :: (digits ++ more))

/-- One digit or more. -/
def Digits (written : List Char) : Prop :=
  written ≠ [] ∧ ∀ c ∈ written, c.isDigit = true

/-- The part of a number before the point. A zero at the front stands alone. -/
inductive WholePart : List Char → Prop
  | zero : WholePart ['0']
  | digits {c : Char} {more : List Char} : c ≠ '0' → Digits (c :: more) → WholePart (c :: more)

/-- The point of a number and the digits behind it, if there are any. -/
inductive FractionPart : List Char → Prop
  | none : FractionPart []
  | digits {ds : List Char} : Digits ds → FractionPart ('.' :: ds)

inductive ExponentPart : List Char → Prop
  | none : ExponentPart []
  | digits {e : Char} {sign ds : List Char} : e = 'e' ∨ e = 'E' →
      sign ∈ [[], ['+'], ['-']] → Digits ds → ExponentPart (e :: (sign ++ ds))

inductive Number : List Char → Prop
  | mk {sign whole fraction exponent : List Char} : sign ∈ [[], ['-']] → WholePart whole →
      FractionPart fraction → ExponentPart exponent →
      Number (sign ++ (whole ++ (fraction ++ exponent)))

/-! ## Lists and objects -/

/-- Blanks between tokens. -/
abbrev Blanks : Type := { blanks : List Char // ∀ c ∈ blanks, c ∈ [' ', '\t', '\n', '\r'] }

def Blanks.none : Blanks := ⟨[], by simp⟩

/-- A part of a list or of an object, with blanks around it. -/
structure Part where
  before : Blanks
  core : List Char
  after : Blanks

def Part.bare (core : List Char) : Part := ⟨Blanks.none, core, Blanks.none⟩

def Part.text (p : Part) : List Char := p.before.1 ++ (p.core ++ p.after.1)

structure Member where
  key : Part
  value : Part

def Member.text (m : Member) : List Char := m.key.text ++ ':' :: m.value.text

/-- Parts with a comma before each. -/
def commaLed (parts : List (List Char)) : List Char :=
  parts.flatMap (',' :: ·)

theorem commaLed_cons (part : List Char) (parts : List (List Char)) (tail : List Char) :
    commaLed (part :: parts) ++ tail = ',' :: (part ++ (commaLed parts ++ tail)) := by
  simp [commaLed]

/-- What stands between brackets: parts with commas between them, or only blanks. -/
def between (gap : Blanks) : List (List Char) → List Char
  | [] => gap.1
  | part :: parts => part ++ commaLed parts

inductive Value : List Char → Prop
  | null : Value ['n', 'u', 'l', 'l']
  | true : Value ['t', 'r', 'u', 'e']
  | false : Value ['f', 'a', 'l', 's', 'e']
  | number {written : List Char} : Number written → Value written
  | string {body : List Char} : StringBody body → Value ('"' :: (body ++ ['"']))
  | list (gap : Blanks) {items : List Part} : (∀ item ∈ items, Value item.core) →
      Value ('[' :: (between gap (items.map Part.text) ++ [']']))
  | object (gap : Blanks) {members : List Member} :
      (∀ m ∈ members, ∃ body, StringBody body ∧ m.key.core = '"' :: (body ++ ['"'])) →
      (∀ m ∈ members, Value m.value.core) →
      Value ('\x7b' :: (between gap (members.map Member.text) ++ ['\x7d']))

/-! ## What is left -/

/-- The outcome is a value, and the given tail is what is left of the text. -/
def Leaves {text : List Char} (outcome : Except Fault (α × Rest text)) (value : α)
    (tail : List Char) : Prop :=
  ∃ shorter, outcome = .ok (value, ⟨tail, shorter⟩)

/-- The outcome is the given rest of a text. -/
def Reaches {P : List Char → Prop} (outcome : Except Fault { rest // P rest })
    (tail : List Char) : Prop :=
  ∃ h, outcome = .ok ⟨tail, h⟩

theorem reaches_ok {P : List Char → Prop} {rest : { rest // P rest }} {tail : List Char}
    (h : rest.1 = tail) : Reaches (.ok rest) tail := by
  subst h
  exact ⟨rest.2, rfl⟩

theorem Reaches.bind {P Q : List Char → Prop} {outcome : Except Fault { rest // P rest }}
    {next : { rest // P rest } → Except Fault { rest // Q rest }} {middle tail : List Char}
    (h : Reaches outcome middle) (hnext : ∀ hm, Reaches (next ⟨middle, hm⟩) tail) :
    Reaches (outcome >>= next) tail := by
  obtain ⟨hm, rfl⟩ := h
  exact hnext hm

/-- What is written does not look like the end of a list. -/
def Opens (written : List Char) : Prop :=
  ∃ c rest, written = c :: rest ∧ isBlank c = false ∧ c ≠ ']'

theorem Blanks.all_isBlank (gap : Blanks) : ∀ c ∈ gap.1, isBlank c = true := by
  intro c hc
  have hblank := gap.2 c hc
  simp only [List.mem_cons, List.not_mem_nil, or_false] at hblank
  rcases hblank with rfl | rfl | rfl | rfl <;> rfl

/-- The first character of the text is given and the rest follows it, once blanks are dropped. -/
def Next (text : List Char) (c : Char) (rest : List Char) : Prop :=
  ∃ shorter, next? text = some (c, ⟨rest, shorter⟩)

theorem next_blanks (gap : Blanks) {c : Char} (h : isBlank c = false) (rest : List Char) :
    Next (gap.1 ++ c :: rest) c rest := by
  have hdrop : (dropWhile isBlank (gap.1 ++ c :: rest)).1 = c :: rest := by
    rw [dropWhile_val, List.dropWhile_append_of_pos gap.all_isBlank,
      List.dropWhile_cons_of_neg (by simp [h])]
  unfold Next next?
  split
  · rename_i hnil
    rw [hnil] at hdrop
    cases hdrop
  · rename_i hcons
    rw [hcons] at hdrop
    obtain ⟨rfl, rfl⟩ := List.cons.inj hdrop
    exact ⟨by simp; omega, rfl⟩

theorem next?_all_blank (gap : Blanks) : next? gap.1 = none := by
  have hdrop : (dropWhile isBlank gap.1).1 = [] := by
    rw [dropWhile_val, List.dropWhile_eq_nil_iff]
    exact gap.all_isBlank
  unfold next?
  split
  · rfl
  · rename_i hcons
    rw [hcons] at hdrop
    cases hdrop

/-- The text cannot go on with a number that ends before it. -/
def Ends (text : List Char) : Prop :=
  ∀ c rest, text = c :: rest → c.isDigit = false ∧ c ≠ '.' ∧ c ≠ 'e' ∧ c ≠ 'E'

theorem ends_nil : Ends [] := nofun

theorem ends_cons {c : Char} {rest : List Char}
    (h : c.isDigit = false ∧ c ≠ '.' ∧ c ≠ 'e' ∧ c ≠ 'E') : Ends (c :: rest) := by
  intro d more hd
  obtain ⟨rfl, -⟩ := List.cons.inj hd
  exact h

theorem ends_blanks (gap : Blanks) {text : List Char} (h : Ends text) : Ends (gap.1 ++ text) := by
  obtain ⟨blanks, hblanks⟩ := gap
  cases blanks with
  | nil => exact h
  | cons b blanks =>
    apply ends_cons
    have hb := hblanks b List.mem_cons_self
    simp only [List.mem_cons, List.not_mem_nil, or_false] at hb
    rcases hb with rfl | rfl | rfl | rfl <;> decide

/-! ## Reading and skipping strings -/

theorem hexValue?_of_hexDigit {c : Char} {n : Nat} (h : HexDigit c n) : hexValue? c = some n := by
  obtain ⟨hn, rfl | rfl⟩ := h
  · revert n
    decide
  · revert n
    decide

theorem leaves_hexQuad_digits {digits : List Char} {n : Nat} (h : HexQuad digits n)
    (text : List Char) : Leaves (hexQuad (digits ++ text)) n text := by
  cases h with
  | mk ha hb hc hd =>
    refine ⟨by simp only [List.cons_append, List.nil_append, List.length_cons]; omega, ?_⟩
    simp only [List.cons_append, List.nil_append, hexQuad, hexValue?_of_hexDigit ha,
      hexValue?_of_hexDigit hb, hexValue?_of_hexDigit hc, hexValue?_of_hexDigit hd]

theorem letterEscape?_of_mem {x c : Char} (h : (x, c) ∈ letterEscapes) :
    letterEscape? x = some c := by
  have hall : ∀ e ∈ letterEscapes, letterEscape? e.1 = some e.2 := by decide
  exact hall (x, c) h

theorem leaves_escape_letter {x c : Char} (h : letterEscape? x = some c) (text : List Char) :
    Leaves (escape (x :: text)) c text := by
  have hu : x ≠ 'u' := by
    rintro rfl
    cases h
  refine ⟨Nat.lt_succ_self _, ?_⟩
  rw [escape.eq_3 x text hu, h]
  rfl

theorem leaves_escape_code {c : Char} {digits : List Char} (h : HexQuad digits c.toNat)
    (text : List Char) : Leaves (escape ('u' :: (digits ++ text))) c text := by
  obtain ⟨hquad, hread⟩ := leaves_hexQuad_digits h text
  -- the number of a character is never that of a surrogate
  have hvalid : c.toNat < 0xD800 ∨ 0xDFFF < c.toNat := by
    rcases c.valid with hlow | ⟨hhigh, -⟩
    · exact .inl hlow
    · exact .inr hhigh
  have hlow : isLowSurrogate c.toNat = false := by simp [isLowSurrogate]; omega
  have hhigh : isHighSurrogate c.toNat = false := by simp [isHighSurrogate]; omega
  refine ⟨Nat.lt_succ_of_lt hquad, ?_⟩
  simp only [escape, hread, ok_bind, hlow, hhigh, Bool.false_eq_true, if_false, Char.ofNat_toNat]
  rfl

theorem leaves_escape_pair {c : Char} {first second : List Char} {high low : Nat}
    (hfirst : HexQuad first high) (hsecond : HexQuad second low) (hh : 0xD800 ≤ high)
    (hh' : high < 0xDC00) (hl : 0xDC00 ≤ low) (hl' : low < 0xE000)
    (hc : c.toNat = 0x10000 + (high - 0xD800) * 0x400 + (low - 0xDC00)) (text : List Char) :
    Leaves (escape ('u' :: (first ++ '\\' :: 'u' :: (second ++ text)))) c text := by
  obtain ⟨hone, hread⟩ := leaves_hexQuad_digits hfirst ('\\' :: 'u' :: (second ++ text))
  obtain ⟨htwo, hmore⟩ := leaves_hexQuad_digits hsecond text
  have hnot : isLowSurrogate high = false := by simp [isLowSurrogate]; omega
  have hhigh : isHighSurrogate high = true := by simp [isHighSurrogate]; omega
  have hlow : isLowSurrogate low = true := by simp [isLowSurrogate]; omega
  have hchar : surrogatePair high low = c := by rw [surrogatePair, ← hc, Char.ofNat_toNat]
  simp only [List.length_cons] at hone
  refine ⟨by simp only [List.length_cons]; omega, ?_⟩
  simp only [escape, lowSurrogate, hread, hmore, ok_bind, hnot, hhigh, hlow, hchar,
    Bool.false_eq_true, if_false, if_true]
  rfl

theorem leaves_string_escape {c : Char} {cs text after tail : List Char}
    (he : Leaves (escape text) c after) (hs : Leaves (string after) cs tail) :
    Leaves (string ('\\' :: text)) (c :: cs) tail := by
  obtain ⟨hafter, he⟩ := he
  obtain ⟨htail, hs⟩ := hs
  refine ⟨Nat.lt_succ_of_lt (Nat.lt_trans htail hafter), ?_⟩
  rw [string, he, ok_bind]
  simp only [hs, ok_bind]
  rfl

theorem leaves_string_writesChar {c : Char} {written cs text tail : List Char}
    (hc : WritesChar c written) (h : Leaves (string text) cs tail) :
    Leaves (string (written ++ text)) (c :: cs) tail := by
  cases hc with
  | self hself =>
    obtain ⟨hquote, hback, hplain⟩ := hself
    have hcontrol : isControl c = false := by simpa [isControl] using hplain
    obtain ⟨htail, h⟩ := h
    rw [List.singleton_append]
    refine ⟨Nat.lt_succ_of_lt htail, ?_⟩
    rw [string.eq_4 c text hquote hback, hcontrol, h]
    rfl
  | letter hletter =>
    exact leaves_string_escape (leaves_escape_letter (letterEscape?_of_mem hletter) text) h
  | code hcode => exact leaves_string_escape (leaves_escape_code hcode text) h
  | pair hfirst hsecond hh hh' hl hl' hpair =>
    rw [List.cons_append, List.cons_append, List.append_assoc]
    exact leaves_string_escape
      (leaves_escape_pair hfirst hsecond hh hh' hl hl' hpair text) h

/-- Whatever is written for a text is read as the text. -/
theorem leaves_string_writesChars {cs written : List Char} (h : WritesChars cs written)
    (tail : List Char) : Leaves (string (written ++ '"' :: tail)) cs tail := by
  induction h with
  | nil =>
    rw [List.nil_append]
    exact ⟨Nat.lt_succ_self _, by rw [string]; rfl⟩
  | cons hc _ ih =>
    rw [List.append_assoc]
    exact leaves_string_writesChar hc ih

theorem reaches_skipString_escape {text after tail : List Char}
    (he : Reaches (skipEscape text) after) (hs : Reaches (skipString after) tail) :
    Reaches (skipString ('\\' :: text)) tail := by
  obtain ⟨hafter, he⟩ := he
  obtain ⟨htail, hs⟩ := hs
  refine ⟨Nat.lt_succ_of_lt (Nat.lt_trans htail hafter), ?_⟩
  rw [skipString, he, ok_bind]
  simp only [hs, ok_bind]
  rfl

theorem reaches_skipString {body : List Char} (h : StringBody body) (tail : List Char) :
    Reaches (skipString (body ++ '"' :: tail)) tail := by
  induction h with
  | nil =>
    rw [List.nil_append]
    exact ⟨Nat.lt_succ_self _, by rw [skipString]; rfl⟩
  | @self c more hself _ ih =>
    obtain ⟨hquote, hback, hplain⟩ := hself
    have hcontrol : isControl c = false := by simpa [isControl] using hplain
    obtain ⟨htail, hrest⟩ := ih
    rw [List.cons_append]
    refine ⟨Nat.lt_succ_of_lt htail, ?_⟩
    rw [skipString.eq_4 c _ hquote hback, hcontrol, hrest]
    rfl
  | @letter x c more hletter _ ih =>
    have hu : x ≠ 'u' := by
      rintro rfl
      cases letterEscape?_of_mem hletter
    have hescape : Reaches (skipEscape (x :: (more ++ '"' :: tail))) (more ++ '"' :: tail) := by
      refine ⟨Nat.lt_succ_self _, ?_⟩
      rw [skipEscape.eq_3 x _ hu, letterEscape?_of_mem hletter]
      rfl
    exact reaches_skipString_escape hescape ih
  | @code digits more n hcode _ ih =>
    obtain ⟨hquad, hread⟩ := leaves_hexQuad_digits hcode (more ++ '"' :: tail)
    have hescape : Reaches (skipEscape ('u' :: (digits ++ (more ++ '"' :: tail))))
        (more ++ '"' :: tail) := by
      refine ⟨Nat.lt_succ_of_lt hquad, ?_⟩
      rw [skipEscape, hread]
      rfl
    rw [List.cons_append, List.cons_append, List.append_assoc]
    exact reaches_skipString_escape hescape ih

/-! ## Skipping numbers -/

theorem Ends.startsDigit {text : List Char} (h : Ends text) : startsDigit text = false := by
  cases text with
  | nil => rfl
  | cons c rest => simpa [Json.startsDigit] using (h c rest rfl).1

theorem reaches_skipDigits {ds text : List Char} (hds : Digits ds)
    (htext : startsDigit text = false) : Reaches (skipDigits (ds ++ text)) text := by
  obtain ⟨hne, hall⟩ := hds
  cases ds with
  | nil => exact absurd rfl hne
  | cons d ds =>
    have hdrop : (ds ++ text).dropWhile Char.isDigit = text := by
      rw [List.dropWhile_append_of_pos fun c hc => hall c (List.mem_cons_of_mem d hc)]
      cases text with
      | nil => rfl
      | cons c rest => exact List.dropWhile_cons_of_neg (by simpa [startsDigit] using htext)
    rw [List.cons_append, skipDigits, if_pos (hall d List.mem_cons_self)]
    exact reaches_ok hdrop

theorem reaches_skipSign {sign ds text : List Char} (hsign : sign ∈ [[], ['+'], ['-']])
    (hds : Digits ds) : (skipSign (sign ++ (ds ++ text))).1 = ds ++ text := by
  simp only [List.mem_cons, List.not_mem_nil, or_false] at hsign
  rcases hsign with rfl | rfl | rfl
  · obtain ⟨hne, hall⟩ := hds
    obtain ⟨d, ds, rfl⟩ := List.exists_cons_of_ne_nil hne
    have hdigit := hall d List.mem_cons_self
    rw [List.nil_append, List.cons_append, skipSign.eq_3]
    · rfl
    · intro rest hrest
      obtain ⟨rfl, -⟩ := List.cons.inj hrest
      exact absurd hdigit (by decide)
    · intro rest hrest
      obtain ⟨rfl, -⟩ := List.cons.inj hrest
      exact absurd hdigit (by decide)
  · rfl
  · rfl

theorem reaches_skipExponent {exponent text : List Char} (h : ExponentPart exponent)
    (htext : Ends text) : Reaches (skipExponent (exponent ++ text)) text := by
  cases h with
  | none =>
    rw [List.nil_append]
    cases text with
    | nil => exact reaches_ok rfl
    | cons c rest =>
      have hc := htext c rest rfl
      rw [skipExponent, if_neg (by simp [hc.2.2])]
      exact reaches_ok rfl
  | digits he hsign hds =>
    rw [List.cons_append, List.append_assoc, skipExponent, if_pos he]
    refine Reaches.bind ?_ fun _ => reaches_ok rfl
    rw [reaches_skipSign hsign hds]
    exact reaches_skipDigits hds htext.startsDigit

theorem ExponentPart.ends {exponent text : List Char} (h : ExponentPart exponent)
    (htext : Ends text) : startsDigit (exponent ++ text) = false ∧
      ∀ rest, exponent ++ text ≠ '.' :: rest := by
  cases h with
  | none => exact ⟨htext.startsDigit, fun rest hrest => (htext _ _ hrest).2.1 rfl⟩
  | digits he hsign hds =>
    rcases he with rfl | rfl
    · exact ⟨rfl, fun rest hrest => absurd (List.cons.inj hrest).1 (by decide)⟩
    · exact ⟨rfl, fun rest hrest => absurd (List.cons.inj hrest).1 (by decide)⟩

theorem reaches_skipFraction {fraction exponent text : List Char} (hf : FractionPart fraction)
    (he : ExponentPart exponent) (htext : Ends text) :
    Reaches (skipFraction (fraction ++ (exponent ++ text))) text := by
  obtain ⟨hdigit, hpoint⟩ := he.ends htext
  cases hf with
  | none =>
    rw [List.nil_append, skipFraction.eq_2 _ hpoint]
    exact reaches_skipExponent he htext
  | digits hds =>
    rw [List.cons_append, skipFraction]
    exact (reaches_skipDigits hds hdigit).bind fun _ =>
      (reaches_skipExponent he htext).bind fun _ => reaches_ok rfl

theorem FractionPart.startsDigit {fraction text : List Char} (h : FractionPart fraction)
    (htext : startsDigit text = false) : Json.startsDigit (fraction ++ text) = false := by
  cases h with
  | none => exact htext
  | digits => rfl

theorem reaches_skipNumber {whole fraction exponent text : List Char} (hw : WholePart whole)
    (hf : FractionPart fraction) (he : ExponentPart exponent) (htext : Ends text) :
    Reaches (skipNumber (whole ++ (fraction ++ (exponent ++ text)))) text := by
  have hdigit := hf.startsDigit (he.ends htext).1
  have hfraction := reaches_skipFraction hf he htext
  cases hw with
  | zero =>
    rw [List.singleton_append, skipNumber, hdigit]
    exact hfraction.bind fun _ => reaches_ok rfl
  | @digits c more hc hds =>
    have hzero (rest : List Char) : c :: more ++ (fraction ++ (exponent ++ text)) ≠ '0' :: rest :=
      fun hrest => hc (List.cons.inj hrest).1
    rw [skipNumber.eq_2 _ hzero]
    exact (reaches_skipDigits hds hdigit).bind fun _ =>
      hfraction.bind fun _ => reaches_ok rfl

/-- The first character of a number tells that it is one. -/
theorem Number.reaches_skipScalar {written : List Char} (h : Number written) {text : List Char}
    (htext : Ends text) : ∃ c rest, written = c :: rest ∧ isBlank c = false ∧ c ≠ '[' ∧
      c ≠ '\x7b' ∧ c ≠ ']' ∧ Reaches (skipScalar c (rest ++ text)) text := by
  cases h with
  | @mk sign whole fraction exponent hsign hw hf he =>
    have hnumber := reaches_skipNumber hw hf he htext
    simp only [List.mem_cons, List.not_mem_nil, or_false] at hsign
    rcases hsign with rfl | rfl
    · obtain ⟨c, more, rfl, hdigit⟩ : ∃ c more, whole = c :: more ∧ c.isDigit = true := by
        cases hw with
        | zero => exact ⟨'0', [], rfl, rfl⟩
        | digits _ hds => exact ⟨_, _, rfl, hds.2 _ List.mem_cons_self⟩
      have hne {d : Char} (hd : d.isDigit = false) : c ≠ d := by
        rintro rfl
        rw [hdigit] at hd
        cases hd
      refine ⟨c, more ++ (fraction ++ exponent), rfl, ?_, hne rfl, hne rfl, hne rfl, ?_⟩
      · simp [isBlank, @hne ' ' rfl, @hne '\n' rfl, @hne '\t' rfl, @hne '\r' rfl]
      · rw [List.append_assoc, List.append_assoc,
          skipScalar.eq_6 c _ (hne rfl) (hne rfl) (hne rfl) (hne rfl) (hne rfl), if_pos hdigit]
        exact hnumber.bind fun _ => reaches_ok rfl
    · refine ⟨'-', whole ++ (fraction ++ exponent), rfl, rfl, by decide, by decide, by decide, ?_⟩
      rw [List.append_assoc, List.append_assoc]
      exact hnumber.bind fun _ => reaches_ok rfl

/-! ## Skipping values -/

theorem Part.text_append (p : Part) (tail : List Char) :
    p.text ++ tail = p.before.1 ++ (p.core ++ (p.after.1 ++ tail)) := by
  simp [Part.text]

/-- What a part begins with, once the blanks before it are dropped. -/
theorem Part.next (p : Part) {c : Char} {rest : List Char} (hcore : p.core = c :: rest)
    (hblank : isBlank c = false) (tail : List Char) :
    Next (p.text ++ tail) c (rest ++ (p.after.1 ++ tail)) := by
  rw [Part.text_append, hcore]
  exact next_blanks p.before hblank _

theorem word_append (letters tail : List Char) :
    ∃ shorter, word letters (letters ++ tail) = .ok ⟨tail, shorter⟩ := by
  induction letters with
  | nil => exact ⟨Nat.le_refl _, rfl⟩
  | cons l letters ih =>
    obtain ⟨htail, ih⟩ := ih
    refine ⟨Nat.le_succ_of_le htail, ?_⟩
    simp only [List.cons_append, word, if_true, ih, ok_bind]

theorem reaches_colon {text rest : List Char} (h : Next text ':' rest) :
    Reaches (colon text) rest := by
  obtain ⟨_, hnext⟩ := h
  rw [colon, hnext]
  exact reaches_ok rfl

theorem reaches_skipKey {key : Part} {body : List Char} (hbody : StringBody body)
    (hcore : key.core = '"' :: (body ++ ['"'])) (rest : List Char) :
    Reaches (skipKey (key.text ++ ':' :: rest)) rest := by
  obtain ⟨_, hnext⟩ := key.next hcore rfl (':' :: rest)
  rw [skipKey, hnext]
  have hstring := reaches_skipString hbody (key.after.1 ++ ':' :: rest)
  rw [← List.singleton_append, ← List.append_assoc] at hstring
  exact hstring.bind fun _ =>
    (reaches_colon (next_blanks key.after rfl rest)).bind fun _ => reaches_ok rfl

section Steps
variable {opened : List Bracket} {text rest after tail : List Char}

theorem skipFrom_scalar {c : Char} (h : Next text c rest) (hlist : c ≠ '[') (hobject : c ≠ '\x7b')
    (hscalar : Reaches (skipScalar c rest) tail) :
    skipFrom .before opened text = skipFrom .after opened tail := by
  obtain ⟨_, hnext⟩ := h
  obtain ⟨_, hscalar⟩ := hscalar
  rw [skipFrom, hnext]
  simp only [hscalar, ok_bind]

theorem skipFrom_list_empty (h : Next text '[' rest) (hclose : Next rest ']' tail) :
    skipFrom .before opened text = skipFrom .after opened tail := by
  obtain ⟨_, hnext⟩ := h
  obtain ⟨_, hclose⟩ := hclose
  rw [skipFrom, hnext]
  simp only [hclose]

theorem skipFrom_list {c : Char} (h : Next text '[' rest) (hfirst : Next rest c tail)
    (hc : c ≠ ']') : skipFrom .before opened text = skipFrom .before (.list :: opened) rest := by
  obtain ⟨_, hnext⟩ := h
  obtain ⟨_, hfirst⟩ := hfirst
  rw [skipFrom, hnext]
  simp only [hfirst]
  split
  · rename_i hnone
    cases hnone
  · rename_i hclose
    cases hclose
    exact absurd rfl hc
  · rfl

theorem skipFrom_object_empty (h : Next text '\x7b' rest) (hclose : Next rest '\x7d' tail) :
    skipFrom .before opened text = skipFrom .after opened tail := by
  obtain ⟨_, hnext⟩ := h
  obtain ⟨_, hclose⟩ := hclose
  rw [skipFrom, hnext]
  simp only [hclose]

theorem skipFrom_object {c : Char} (h : Next text '\x7b' rest) (hfirst : Next rest c tail)
    (hc : c ≠ '\x7d') (hkey : Reaches (skipKey rest) after) :
    skipFrom .before opened text = skipFrom .before (.object :: opened) after := by
  obtain ⟨_, hnext⟩ := h
  obtain ⟨_, hfirst⟩ := hfirst
  obtain ⟨_, hkey⟩ := hkey
  rw [skipFrom, hnext]
  simp only [hfirst, hkey, ok_bind]
  split
  · rename_i hnone
    cases hnone
  · rename_i hclose
    cases hclose
    exact absurd rfl hc
  · rfl

theorem skipFrom_close (bracket : Bracket) (h : Next text bracket.close rest) :
    skipFrom .after (bracket :: opened) text = skipFrom .after opened rest := by
  obtain ⟨_, hnext⟩ := h
  rw [skipFrom, hnext]
  cases bracket <;> rfl

theorem skipFrom_comma_list (h : Next text ',' rest) :
    skipFrom .after (.list :: opened) text = skipFrom .before (.list :: opened) rest := by
  obtain ⟨_, hnext⟩ := h
  rw [skipFrom.eq_3, hnext]
  rfl

theorem skipFrom_comma_object (h : Next text ',' rest) (hkey : Reaches (skipKey rest) after) :
    skipFrom .after (.object :: opened) text = skipFrom .before (.object :: opened) after := by
  obtain ⟨_, hnext⟩ := h
  obtain ⟨_, hkey⟩ := hkey
  rw [skipFrom.eq_3, hnext]
  simp only [hkey, ok_bind]

end Steps

/-- What is written is passed over as a value, inside whatever brackets. -/
def Skipped (written : List Char) : Prop :=
  ∀ (gap : Blanks) (opened : List Bracket) (tail : List Char), Ends tail →
    skipFrom .before opened (gap.1 ++ (written ++ tail)) = skipFrom .after opened tail

theorem Member.text_append (m : Member) (tail : List Char) :
    m.text ++ tail = m.key.text ++ ':' :: (m.value.text ++ tail) := by
  simp [Member.text]

theorem ends_commaLed {c : Char} (hc : c.isDigit = false ∧ c ≠ '.' ∧ c ≠ 'e' ∧ c ≠ 'E')
    (parts : List (List Char)) (tail : List Char) : Ends (commaLed parts ++ c :: tail) := by
  cases parts with
  | nil => exact ends_cons hc
  | cons part parts =>
    rw [commaLed_cons]
    exact ends_cons (by decide)

/-- The items behind the first one, and the bracket that closes the list. -/
theorem skipFrom_items {items : List Part} (h : ∀ item ∈ items, Skipped item.core) (gap : Blanks)
    (opened : List Bracket) (tail : List Char) :
    skipFrom .after (.list :: opened) (gap.1 ++ (commaLed (items.map Part.text) ++ ']' :: tail)) =
      skipFrom .after opened tail := by
  induction items generalizing gap with
  | nil => exact skipFrom_close .list (next_blanks gap rfl tail)
  | cons item items ih =>
    rw [List.map_cons, commaLed_cons, skipFrom_comma_list (next_blanks gap rfl _),
      Part.text_append, h item List.mem_cons_self]
    · exact ih (fun other hother => h other (List.mem_cons_of_mem item hother)) item.after
    · exact ends_blanks item.after (ends_commaLed (by decide) _ tail)

/-- The members behind the first one, and the brace that closes the object. -/
theorem skipFrom_members {members : List Member}
    (hkeys : ∀ m ∈ members, ∃ body, StringBody body ∧ m.key.core = '"' :: (body ++ ['"']))
    (h : ∀ m ∈ members, Skipped m.value.core) (gap : Blanks) (opened : List Bracket)
    (tail : List Char) :
    skipFrom .after (.object :: opened)
      (gap.1 ++ (commaLed (members.map Member.text) ++ '\x7d' :: tail)) =
      skipFrom .after opened tail := by
  induction members generalizing gap with
  | nil => exact skipFrom_close .object (next_blanks gap rfl tail)
  | cons m members ih =>
    obtain ⟨body, hbody, hcore⟩ := hkeys m List.mem_cons_self
    rw [List.map_cons, commaLed_cons, Member.text_append,
      skipFrom_comma_object (next_blanks gap rfl _) (reaches_skipKey hbody hcore _),
      Part.text_append, h m List.mem_cons_self]
    · exact ih (fun other hother => hkeys other (List.mem_cons_of_mem m hother))
        (fun other hother => h other (List.mem_cons_of_mem m hother)) m.value.after
    · exact ends_blanks m.value.after (ends_commaLed (by decide) _ tail)

/-- A value begins with a character that closes nothing. -/
theorem Value.opens {written : List Char} (h : Value written) : Opens written := by
  cases h with
  | number hnumber =>
    obtain ⟨c, rest, hc, hblank, -, -, hne, -⟩ := hnumber.reaches_skipScalar ends_nil
    exact ⟨c, rest, hc, hblank, hne⟩
  | null | true | false | string | list | object => exact ⟨_, _, rfl, rfl, by decide⟩

theorem Value.skipped {written : List Char} (h : Value written) : Skipped written := by
  -- A number has no mark at its end, so only its case uses that it ends where the tail starts.
  induction h with
  | null =>
    intro gap opened tail _
    exact skipFrom_scalar (next_blanks gap rfl _) (by decide) (by decide)
      (word_append ['u', 'l', 'l'] tail)
  | true =>
    intro gap opened tail _
    exact skipFrom_scalar (next_blanks gap rfl _) (by decide) (by decide)
      (word_append ['r', 'u', 'e'] tail)
  | false =>
    intro gap opened tail _
    exact skipFrom_scalar (next_blanks gap rfl _) (by decide) (by decide)
      (word_append ['a', 'l', 's', 'e'] tail)
  | number hnumber =>
    intro gap opened tail htail
    obtain ⟨c, rest, rfl, hblank, hlist, hobject, -, hskip⟩ := hnumber.reaches_skipScalar htail
    exact skipFrom_scalar (next_blanks gap hblank _) hlist hobject hskip
  | @string body hbody =>
    intro gap opened tail _
    have htext : ('"' :: (body ++ ['"'])) ++ tail = '"' :: (body ++ '"' :: tail) := by simp
    rw [htext]
    exact skipFrom_scalar (next_blanks gap rfl _) (by decide) (by decide)
      ((reaches_skipString hbody tail).bind fun _ => reaches_ok rfl)
  | @list inner items hitems ih =>
    intro gap opened tail _
    rw [List.cons_append, List.append_assoc, List.singleton_append]
    cases items with
    | nil => exact skipFrom_list_empty (next_blanks gap rfl _) (next_blanks inner rfl tail)
    | cons item items =>
      obtain ⟨c, rest, hcore, hblank, hne⟩ := (hitems item List.mem_cons_self).opens
      rw [List.map_cons, between, List.append_assoc,
        skipFrom_list (next_blanks gap rfl _) (item.next hcore hblank _) hne, Part.text_append,
        ih item List.mem_cons_self]
      · exact skipFrom_items (fun other hother => ih other (List.mem_cons_of_mem item hother)) _ _ _
      · exact ends_blanks item.after (ends_commaLed (by decide) _ tail)
  | @object inner members hkeys hvalues ih =>
    intro gap opened tail _
    rw [List.cons_append, List.append_assoc, List.singleton_append]
    cases members with
    | nil => exact skipFrom_object_empty (next_blanks gap rfl _) (next_blanks inner rfl tail)
    | cons m members =>
      obtain ⟨body, hbody, hcore⟩ := hkeys m List.mem_cons_self
      have hkey := reaches_skipKey hbody hcore
        (m.value.text ++ (commaLed (members.map Member.text) ++ '\x7d' :: tail))
      rw [List.map_cons, between, List.append_assoc, Member.text_append,
        skipFrom_object (next_blanks gap rfl _) (m.key.next hcore rfl _) (by decide) hkey,
        Part.text_append, ih m List.mem_cons_self]
      · exact skipFrom_members (fun other hother => hkeys other (List.mem_cons_of_mem m hother))
          (fun other hother => ih other (List.mem_cons_of_mem m hother)) _ _ _
      · exact ends_blanks m.value.after (ends_commaLed (by decide) _ tail)

/-- A value of the grammar is passed over, and what follows it is left. -/
theorem skip_value {written tail : List Char} (h : Value written) (gap : Blanks)
    (htail : Ends tail) : Reaches (skip (gap.1 ++ (written ++ tail))) tail := by
  have hfrom : skipFrom .before [] (gap.1 ++ (written ++ tail)) = .ok tail := by
    rw [h.skipped gap [] tail htail, skipFrom]
  unfold skip
  split
  · rename_i rest hrest
    exact reaches_ok (Except.ok.inj (hrest.symm.trans hfrom))
  · rename_i hfault
    cases hfault.symm.trans hfrom

end Bindery.Json

/-!
# What is left of a text

Readers work on lists of characters from left to right. A reader that takes something from the
front returns the rest together with a proof that it is shorter, and loops over readers end by
that measure.
-/
namespace Bindery.Text

/-- A text shorter than the given one: what is left after something was read from its front. -/
abbrev Rest (text : List Char) : Type :=
  { rest : List Char // rest.length < text.length }

/-- A text no longer than the given one: what is left after something optional was read. -/
abbrev Tail (text : List Char) : Type :=
  { rest : List Char // rest.length ≤ text.length }

def Rest.trans {text : List Char} (middle : Rest text) (rest : Rest middle.1) : Rest text :=
  ⟨rest.1, Nat.lt_trans rest.2 middle.2⟩

def Rest.tail {text : List Char} (middle : Rest text) (rest : Tail middle.1) : Rest text :=
  ⟨rest.1, Nat.lt_of_le_of_lt rest.2 middle.2⟩

def Tail.rest {text : List Char} (middle : Tail text) (rest : Rest middle.1) : Rest text :=
  ⟨rest.1, Nat.lt_of_lt_of_le rest.2 middle.2⟩

def Tail.trans {text : List Char} (middle : Tail text) (rest : Tail middle.1) : Tail text :=
  ⟨rest.1, Nat.le_trans rest.2 middle.2⟩

def Tail.whole (text : List Char) : Tail text :=
  ⟨text, Nat.le_refl _⟩

def Rest.weaken {text : List Char} (rest : Rest text) : Tail text :=
  ⟨rest.1, Nat.le_of_lt rest.2⟩

/-- A rest of a text is a tail of what follows its first character. -/
def Rest.behind {c : Char} {text : List Char} (rest : Rest (c :: text)) : Tail text :=
  ⟨rest.1, Nat.le_of_lt_succ rest.2⟩

/-- What follows the first character. -/
def Rest.ofCons (c : Char) (rest : List Char) : Rest (c :: rest) :=
  ⟨rest, Nat.lt_succ_self _⟩

@[simp] theorem Rest.trans_val {text : List Char} (middle : Rest text) (rest : Rest middle.1) :
    (middle.trans rest).1 = rest.1 := rfl

@[simp] theorem Rest.tail_val {text : List Char} (middle : Rest text) (rest : Tail middle.1) :
    (middle.tail rest).1 = rest.1 := rfl

@[simp] theorem Tail.rest_val {text : List Char} (middle : Tail text) (rest : Rest middle.1) :
    (middle.rest rest).1 = rest.1 := rfl

@[simp] theorem Tail.trans_val {text : List Char} (middle : Tail text) (rest : Tail middle.1) :
    (middle.trans rest).1 = rest.1 := rfl

@[simp] theorem Tail.whole_val (text : List Char) : (Tail.whole text).1 = text := rfl

@[simp] theorem Rest.weaken_val {text : List Char} (rest : Rest text) :
    rest.weaken.1 = rest.1 := rfl

@[simp] theorem Rest.behind_val {c : Char} {text : List Char} (rest : Rest (c :: text)) :
    rest.behind.1 = rest.1 := rfl

@[simp] theorem Rest.ofCons_val (c : Char) (rest : List Char) :
    (Rest.ofCons c rest).1 = rest := rfl

/-- The text from the first character on that fails a test. -/
def dropWhile (test : Char → Bool) (text : List Char) : Tail text :=
  ⟨text.dropWhile test, (List.dropWhile_suffix test).length_le⟩

@[simp] theorem dropWhile_val (test : Char → Bool) (text : List Char) :
    (dropWhile test text).1 = text.dropWhile test := rfl

end Bindery.Text

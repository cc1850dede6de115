import Bindery.Unicode.CaseIgnorable
import Bindery.Unicode.Cased
import Bindery.Unicode.LowerMap
import Bindery.Unicode.UpperMap

/-!
# Letter case of names

Exported names start with a capital and instance variables with a small letter, so only the
first character of a name changes. File names are lowered as a whole; there a capital sigma
at the end of a word takes its final form.
-/
namespace Bindery.Text
open Unicode

/-- The name with its first character in upper case. -/
def capitalize (name : String) : String :=
  match name.toList with
  | [] => ""
  | c :: rest => String.ofList (toUpper c ++ rest)

/-- The name with its first character in lower case. -/
def decapitalize (name : String) : String :=
  match name.toList with
  | [] => ""
  | c :: rest => String.ofList (toLower c ++ rest)

/-- Whether a cased character comes first once case-ignorable characters are skipped. -/
def leadsCased (text : List Char) : Bool :=
  match text.dropWhile isCaseIgnorable with
  | [] => false
  | c :: _ => isCased c

/-- A capital sigma is final when a cased character stands before it and none after it.
The text before it is given nearest character first. -/
def lowerSigma (before after : List Char) : Char :=
  if leadsCased before && !leadsCased after then 'ς' else 'σ'

/-- Lowers a text that follows `before`, which is given nearest character first. -/
def lowerAfter (before : List Char) : List Char → List Char
  | [] => []
  | c :: rest =>
    let image := if c = 'Σ' then [lowerSigma before rest] else toLower c
    image ++ lowerAfter (c :: before) rest

def lower (text : String) : String :=
  String.ofList (lowerAfter [] text.toList)

@[simp] theorem capitalize_empty : capitalize "" = "" := rfl

@[simp] theorem decapitalize_empty : decapitalize "" = "" := rfl

end Bindery.Text

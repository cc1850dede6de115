/-!
# Writing JSON

Values are written without blanks. Quotes, backslashes and control characters are escaped, and
every other character stands for itself.
-/
namespace Bindery.Json

def hexDigit (n : Nat) : Char :=
  Nat.digitChar n

def writeChar (c : Char) : List Char :=
  match c with
  | '"' => ['\\', '"']
  | '\\' => ['\\', '\\']
  | '\x08' => ['\\', 'b']
  | '\x0c' => ['\\', 'f']
  | '\n' => ['\\', 'n']
  | '\r' => ['\\', 'r']
  | '\t' => ['\\', 't']
  | c =>
    if c.toNat < 0x20 then
      ['\\', 'u', '0', '0', hexDigit (c.toNat / 16), hexDigit (c.toNat % 16)]
    else [c]

def writeString (text : String) : List Char :=
  '"' :: text.toList.flatMap writeChar ++ ['"']

def writeFlag (b : Bool) : List Char :=
  if b then ['t', 'r', 'u', 'e'] else ['f', 'a', 'l', 's', 'e']

/-- Parts with a comma between neighbours. -/
def commaSeparated : List (List Char) → List Char
  | [] => []
  | [part] => part
  | part :: parts => part ++ ',' :: commaSeparated parts

def writeList {α : Type} (item : α → List Char) (items : List α) : List Char :=
  '[' :: commaSeparated (items.map item) ++ [']']

/-- An object with the given members, in order. -/
def writeObject (members : List (String × List Char)) : List Char :=
  '\x7b' :: commaSeparated (members.map fun m => writeString m.1 ++ ':' :: m.2) ++ ['\x7d']

end Bindery.Json

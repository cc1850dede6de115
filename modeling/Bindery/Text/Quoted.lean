import Bindery.Unicode.DefaultIgnorable
import Bindery.Unicode.ExtendingMark
import Bindery.Unicode.Unprintable

/-!
# Quoted text in messages

A message that cites a text puts it in double quotes. Quotes and backslashes are escaped, the
usual controls have a letter of their own, and every other character that would not be seen on
its own is given by its code point.
-/
namespace Bindery.Text
open Unicode

/-- A code point in braces, in lower-case hexadecimal digits. -/
def codePoint (c : Char) : List Char :=
  ['\\', 'u', '\x7b'] ++ Nat.toDigits 16 c.toNat ++ ['\x7d']

/-- Whether a character is hidden in print: it joins the one before it, or shows nothing. -/
def isHidden (c : Char) : Bool :=
  isExtendingMark c || isDefaultIgnorable c || isUnprintable c

def quotedChar (c : Char) : List Char :=
  match c with
  | '"' => ['\\', '"']
  | '\\' => ['\\', '\\']
  | '\n' => ['\\', 'n']
  | '\r' => ['\\', 'r']
  | '\t' => ['\\', 't']
  | '\x00' => ['\\', '0']
  | c => if isHidden c then codePoint c else [c]

/-- A text in double quotes. -/
def quoted (text : String) : String :=
  String.ofList ('"' :: text.toList.flatMap quotedChar ++ ['"'])

end Bindery.Text

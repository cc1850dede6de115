import Bindery.Text.Case

/-!
# Generated files

A package is a path whose dots count as slashes, and its own name is what follows the last slash.
The name of a file is in lower case, after the prefix of its package.
-/
namespace Bindery

structure GeneratedFile where
  path : String
  content : String
  deriving DecidableEq, Repr, Inhabited

namespace GeneratedFile

def directory (package : String) : String :=
  String.ofList (package.toList.map fun c => if c = '.' then '/' else c)

/-- The own name of a package: what follows its last slash. -/
def leafName (package : String) : String :=
  String.ofList (package.toList.reverse.takeWhile (· != '/')).reverse

/-- The name of a file in the given package, without its extension. -/
def stem (name : String) (package : Option String) (prefixes : List (String × String)) :
    String :=
  match package.bind fun p => prefixes.lookup p with
  | some start => start ++ Text.lower name
  | none => Text.lower name

/-- A file of a package. -/
def ofPackage (package name : String) (owner : Option String) (prefixes : List (String × String))
    (extension content : String) : GeneratedFile where
  path := directory package ++ "/" ++ stem name owner prefixes ++ extension
  content := content

end GeneratedFile
end Bindery

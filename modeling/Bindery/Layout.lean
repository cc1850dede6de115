import Bindery.Text.Case
import Bindery.Toml.Document

/-!
# Where generated files go

A layout names the packages of the generated code: the module they belong to, the package of the C
library and the package of the API, both under an optional root, and a prefix for the file names
of a package. It can be read from a TOML document, where unknown keys are ignored.
-/
namespace Bindery

structure Layout where
  modulePath : String := ""
  libraryPath : String := "internal/clib"
  apiPath : String := "api"
  root : Option String := none
  stemPrefixes : List (String × String) := []
  deriving DecidableEq, Repr, Inhabited

namespace Layout

/-- A package under the root, if there is a root. -/
def rooted (l : Layout) (package : String) : String :=
  match l.root with
  | none | some "" => package
  | some root => s!"{root}/{package}"

def library (l : Layout) : String := l.rooted l.libraryPath

def api (l : Layout) : String := l.rooted l.apiPath

/-- How a package is imported: within the module, if there is one. -/
def qualified (l : Layout) (package : String) : String :=
  if l.modulePath = "" then package else s!"{l.modulePath}/{package}"

inductive Error where
  | malformed
  | wrongKind (key : String)
  deriving DecidableEq, Repr

/-- The text under a key, or a default. -/
def textAt (entries : Toml.Entries) (key default : String) : Except Error String :=
  match entries.lookup key with
  | none => .ok default
  | some (.text s) => .ok s
  | some _ => .error (.wrongKind key)

def textAt? (entries : Toml.Entries) (key : String) : Except Error (Option String) :=
  match entries.lookup key with
  | none => .ok none
  | some (.text s) => .ok (some s)
  | some _ => .error (.wrongKind key)

/-- The only key of a moment when it stands for a table. -/
def momentKey : String := "$__toml_private_datetime"

/-- The texts of the table under a key. A moment counts as a table with one entry, its text. -/
def textsAt (entries : Toml.Entries) (key : String) : Except Error (List (String × String)) :=
  match entries.lookup key with
  | none => .ok []
  | some (.table _ inner) => inner.mapM fun
    | (name, .text s) => .ok (name, s)
    | _ => .error (.wrongKind key)
  | some (.moment m) => .ok [(momentKey, m.text)]
  | some _ => .error (.wrongKind key)

/-- The layout that a document describes. -/
def ofEntries (entries : Toml.Entries) : Except Error Layout := do
  let blank : Layout := {}
  return {
    modulePath := ← textAt entries "module" blank.modulePath
    libraryPath := ← textAt entries "clib_pkg" blank.libraryPath
    apiPath := ← textAt entries "api_pkg" blank.apiPath
    root := ← textAt? entries "pkg_prefix"
    stemPrefixes := ← textsAt entries "file_prefixes" }

def ofToml (text : String) : Except Error Layout :=
  match Toml.parse? text with
  | none => .error .malformed
  | some entries => ofEntries entries

end Layout
end Bindery

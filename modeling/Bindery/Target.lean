import Bindery.GeneratedFile
import Bindery.Header.Prototypes
import Bindery.Host.Package
import Bindery.Host.Stubs
import Bindery.Host.Wrapper

/-!
# Targets

Each target turns a description into one file of the layout. The wrapper and the header share a
directory under the package of the C library.
-/
namespace Bindery

inductive Target where
  | wrapper | interfaces | stubs | header
  deriving DecidableEq, Repr

namespace Target

/-- All targets, in the order in which they are generated. -/
def all : List Target := [wrapper, interfaces, stubs, header]

def name : Target → String
  | wrapper => "cgo"
  | interfaces => "go-api"
  | stubs => "go-stubs"
  | header => "c-header"

/-- The package that a target's file goes to. -/
def package (layout : Layout) : Target → String
  | wrapper | header => layout.library ++ "/main"
  | interfaces => layout.api
  | stubs => layout.library

/-- The package whose file prefix applies. -/
def owner (layout : Layout) : Target → String
  | wrapper | header | stubs => layout.library
  | interfaces => layout.api

/-- The name of a target's file, before prefix and extension. -/
def stem : Target → String
  | wrapper | header => "clib"
  | interfaces | stubs => "gen"

def extension : Target → String
  | header => ".h"
  | wrapper | interfaces | stubs => ".go"

def guard : String := "CLIB_H"

/-- The text that a target generates. -/
def content (target : Target) (api : Api) (layout : Layout) : Except Export.Error String :=
  match target with
  | wrapper => Host.wrapper api layout
  | interfaces => Host.package api (GeneratedFile.leafName layout.api)
  | stubs => Host.stubs api layout
  | header => Header.document api guard

/-- The file that a target generates. -/
def generate (target : Target) (api : Api) (layout : Layout) :
    Except Export.Error GeneratedFile := do
  return GeneratedFile.ofPackage (target.package layout) target.stem
    (some (GeneratedFile.leafName (target.owner layout))) layout.stemPrefixes target.extension
    (← target.content api layout)

end Target
end Bindery

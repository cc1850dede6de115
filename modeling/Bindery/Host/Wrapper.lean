import Bindery.Host.Dialect
import Bindery.Host.Enums
import Bindery.Host.Structs
import Bindery.Layout

/-!
# The wrapper

One file of Go holds all exports: the declarations of C in its preamble, the variables that
hold singletons and tables of handles, the exports by interface, and the conversions of enums
and structs.
-/
namespace Bindery.Host
open Text Export

/-- The imports of the wrapper. -/
def wrapperImports (api : Api) (layout : Layout) : List String :=
  let usesApi := !api.interfaces.isEmpty || !api.structs.isEmpty || !api.enums.isEmpty
  let usesLibrary := !api.singletons.isEmpty
  ["import ("]
    ++ (if api.enums.isEmpty then [] else ["\t\"fmt\""])
    ++ ["\t\"unsafe\""]
    ++ (if usesApi || usesLibrary then [""] else [])
    ++ (if usesApi then [s!"\tapi \"{layout.qualified layout.api}\""] else [])
    ++ (if usesLibrary then [s!"\tclib \"{layout.qualified layout.library}\""] else [])
    ++ [")"]

structure Global where
  name : String
  type : String
  deriving DecidableEq, Repr

/-- The variables of the wrapper: an instance for each singleton, then a table for each handle. -/
def globals (api : Api) : List Global :=
  (api.singletons.map fun i => ⟨decapitalize i.name, "api." ++ i.name⟩)
    ++ api.handles.map fun i => ⟨tableOf i.name, "[]api." ++ i.name⟩

def Global.text (g : Global) : String := s!"var {g.name} {g.type}"

/-- The export that creates all singletons. -/
def initializer (api : Api) : List String :=
  if api.singletons.isEmpty then ["", "//export InitLibrary", "func InitLibrary() \x7b\x7d"]
  else
    ["", "type cInit interface \x7b"]
      ++ (api.singletons.map fun i => s!"\t{i.name}() api.{i.name}")
      ++ ["\x7d", "", "//export InitLibrary", "func InitLibrary() \x7b",
        "\tvar init cInit = clib.NewInit()", ""]
      ++ (api.singletons.map fun i => s!"\t{decapitalize i.name} = init.{i.name}()")
      ++ ["\x7d"]

/-- The exports of an interface, under its name. -/
def chapterText (c : Chapter) : String :=
  s!"\n//=== {c.name} ===\n" ++ String.join (c.exports.map fun e => "\n" ++ dialect.text e)

/-- The functions that every wrapper uses. -/
def utilities : String := lines [
  "",
  "//=== UTIL ===",
  "",
  "func GoStringSlice(array **C.char, length int) []string \x7b",
  "\tslice := make([]string, 0, length)",
  "\tfor _, v := range unsafe.Slice(array, length) \x7b",
  "\t\tslice = append(slice, C.GoString(v))",
  "\t\x7d",
  "\treturn slice",
  "\x7d",
  "",
  "func CStringSlice(array []string) **C.char \x7b",
  "\treturn CMapSlice(array, func(s string) *C.char \x7b return C.CString(s) \x7d)",
  "\x7d",
  "",
  "func CBool(flag bool) C.short \x7b",
  "\tif flag \x7b",
  "\t\treturn C.short(1)",
  "\t\x7d",
  "\treturn C.short(0)",
  "\x7d",
  "",
  "func GoMapSlice[T, U any](source *T, length int, f func(*T) U) []U \x7b",
  "\ttarget := make([]U, 0, length)",
  "\tfor _, t := range unsafe.Slice(source, length) \x7b",
  "\t\ttarget = append(target, f(&t))",
  "\t\x7d",
  "\treturn target",
  "\x7d",
  "",
  "func CMapSlice[T, U any](source []T, f func(T) U) *U \x7b",
  "\tif len(source) == 0 \x7b",
  "\t\treturn nil",
  "\t\x7d",
  "\tvar zero U",
  "\tsize := C.size_t(len(source)) * C.size_t(unsafe.Sizeof(zero))",
  "\ttarget := unsafe.Slice((*U)(C.malloc(size)), len(source))",
  "\tfor i, t := range source \x7b",
  "\t\ttarget[i] = f(t)",
  "\t\x7d",
  "\treturn &target[0]",
  "\x7d"]

def wrapper (api : Api) (layout : Layout) : Except Error String := do
  let chapters ← dialect.chapters api
  let declared ← ofType (Header.declarations api)
  let structs ← ofType <| api.structs.mapM fun s => do
    return (← structInward s) ++ (← structOutward s)
  return lines ["// Code generated by portal. DO NOT EDIT.", "", "package main", "", "/*",
      "#include <stdlib.h>", "#include <string.h>", ""]
    ++ declared
    ++ lines ["*/", "import \"C\"", ""]
    ++ lines (wrapperImports api layout)
    ++ lines ["", "func main() \x7b\x7d", "", "//=== INIT ===", ""]
    ++ lines ((globals api).map Global.text)
    ++ lines (initializer api)
    ++ String.join (chapters.map chapterText)
    ++ lines ["", "//=== ENUMS ==="]
    ++ String.join (api.enums.map fun e => enumInward e ++ enumOutward e)
    ++ lines ["", "//=== STRUCTS ==="]
    ++ String.join structs
    ++ utilities

end Bindery.Host

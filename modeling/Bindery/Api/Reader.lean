import Bindery.Api.Enums
import Bindery.Json.Reader

/-!
# Descriptions in JSON

The shapes of the five kinds of record, and the reading of a whole description. Marks on
enum-typed variables are recomputed after reading, whatever the text says.
-/
namespace Bindery
open Json

/-- A variable has a name and a type; its mark may be given. -/
def Variable.shape : Shape Variable where
  name := "VarType"
  blank := { name := "", type := "" }
  fields := [
    .ofReader "name" true readString fun s v => { v with name := s },
    .ofReader "type" true readString fun s v => { v with type := s },
    .ofReader "enum" false readFlag fun b v => { v with enumTyped := b }]

/-- A method has a name and a return type; it has no parameters and does not fail unless told. -/
def Method.shape : Shape Method where
  name := "FunctionType"
  blank := { name := "", returns := "" }
  fields := [
    .ofReader "name" true readString fun s m => { m with name := s },
    .ofReader "params" false (readList (readRecord Variable.shape)) fun ps m =>
      { m with params := ps },
    .ofReader "returnType" true readString fun s m => { m with returns := s },
    .ofReader "returnOptional" false readFlag fun b m => { m with optional := b },
    .ofReader "throws" false readFlag fun b m => { m with throws := b }]

/-- An interface has a name; it is plain and empty unless told. -/
def Interface.shape : Shape Interface where
  name := "InterfaceType"
  blank := { name := "" }
  fields := [
    .ofReader "name" true readString fun s i => { i with name := s },
    .ofReader "singleton" false readFlag fun b i => { i with singleton := b },
    .ofReader "handle" false readFlag fun b i => { i with handle := b },
    .ofReader "fold" false readFlag fun b i => { i with fold := b },
    .ofReader "functions" false (readList (readRecord Method.shape)) fun ms i =>
      { i with methods := ms }]

def Record.shape : Shape Record where
  name := "StructType"
  blank := { name := "" }
  fields := [
    .ofReader "name" true readString fun s r => { r with name := s },
    .ofReader "properties" false (readList (readRecord Variable.shape)) fun vs r =>
      { r with fields := vs }]

def Api.shape : Shape Api where
  name := "ApiType"
  blank := {}
  fields := [
    .ofReader "interfaces" false (readList (readRecord Interface.shape)) fun is a =>
      { a with interfaces := is },
    .ofReader "structs" false (readList (readRecord Record.shape)) fun rs a =>
      { a with structs := rs },
    .ofReader "enums" false (readList (readRecord Record.shape)) fun rs a =>
      { a with enums := rs }]

/-- Reads a description and marks its enum-typed variables. -/
def Api.ofJson (text : String) : Except Fault Api := do
  return (← readAll (readRecord Api.shape) text).markEnums

/-- The wording of a text that is well formed and no description. -/
def Api.refusal (cause : Misfit) : String :=
  s!"invalid api description: {cause.message}"

end Bindery

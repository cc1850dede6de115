import Bindery.Api.Basic
import Bindery.Json.Writer

/-!
# Writing descriptions as JSON

Every field is written, in declaration order, whether it has its default value or not.
-/
namespace Bindery
open Json

def Variable.json (v : Variable) : List Char :=
  writeObject [
    ("name", writeString v.name),
    ("type", writeString v.type),
    ("enum", writeFlag v.enumTyped)]

def Method.json (m : Method) : List Char :=
  writeObject [
    ("name", writeString m.name),
    ("params", writeList Variable.json m.params),
    ("returnType", writeString m.returns),
    ("returnOptional", writeFlag m.optional),
    ("throws", writeFlag m.throws)]

def Interface.json (i : Interface) : List Char :=
  writeObject [
    ("name", writeString i.name),
    ("singleton", writeFlag i.singleton),
    ("handle", writeFlag i.handle),
    ("fold", writeFlag i.fold),
    ("functions", writeList Method.json i.methods)]

def Record.json (r : Record) : List Char :=
  writeObject [
    ("name", writeString r.name),
    ("properties", writeList Variable.json r.fields)]

def Api.json (api : Api) : List Char :=
  writeObject [
    ("interfaces", writeList Interface.json api.interfaces),
    ("structs", writeList Record.json api.structs),
    ("enums", writeList Record.json api.enums)]

def Api.toJson (api : Api) : String :=
  String.ofList api.json

end Bindery

import Bindery.Api.Enums

/-!
# Sample descriptions

Two small descriptions: a singleton that executes commands, and a store of blobs that uses every
model of interface.
-/
namespace Bindery.Api

/-- A singleton with one method from bytes to bytes. -/
def commandHandler : Api :=
  { interfaces := [
      { name := "CommandHandler", singleton := true
        methods := [
          { name := "execute", params := [{ name := "command", type := "Uint8Array" }]
            returns := "Uint8Array" }] }] }

/-- Stores are opened and closed through a singleton, kept as handles and read through folds. -/
def stores : Api :=
  markEnums
    { interfaces := [
        { name := "Stores", singleton := true
          methods := [
            { name := "open", params := [{ name := "cfg", type := "StoreCfg" }]
              returns := "Store" },
            { name := "close", params := [{ name := "store", type := "Store" }]
              returns := "void" }] },
        { name := "Store", handle := true
          methods := [
            { name := "config", returns := "StoreCfg" },
            { name := "status", returns := "StoreStatus" },
            { name := "blobReader", params := [{ name := "basePath", type := "string" }]
              returns := "BlobReader" }] },
        { name := "BlobReader", fold := true
          methods := [
            { name := "path", returns := "string" },
            { name := "readOnlyBlob", params := [{ name := "path", type := "string" }]
              returns := "ReadOnlyBlob" },
            { name := "syncBlobsToFs", params := [{ name := "path", type := "string" }]
              returns := "string", throws := true }] },
        { name := "ReadOnlyBlob", fold := true
          methods := [
            { name := "path", returns := "string" },
            { name := "exists", returns := "boolean" },
            { name := "size", returns := "bigint", optional := true }] }]
      structs := [
        { name := "StoreCfg", fields := [{ name := "sources", type := "StoreSource[]" }] },
        { name := "StoreSource"
          fields := [
            { name := "src", type := "string" },
            { name := "typ", type := "SourceType" },
            { name := "content", type := "ContentType" }] },
        { name := "StoreStatus"
          fields := [
            { name := "ready", type := "boolean" },
            { name := "progress", type := "number" }] }]
      enums := [
        { name := "SourceType"
          fields := [
            { name := "FS", type := "string" },
            { name := "GIT", type := "string" },
            { name := "S3", type := "string" },
            { name := "HTTP", type := "string" }] },
        { name := "ContentType"
          fields := [
            { name := "BLOBS", type := "string" },
            { name := "CONFIGS", type := "string" }] }] }

end Bindery.Api

import ChainProvision.Number.Word
import ChainProvision.Wire.Identity

/-!
# Service records

What the services contract stores about a service.
-/

namespace ChainProvision

/-- The record of a service on the contract. -/
structure ServiceRecord where
  id : ServiceId
  blueprint : BlueprintId
  owner : Address
  permittedCallers : List Address
  ttlBlocks : Word64
  deriving DecidableEq

namespace ServiceRecord

/-- A service record in JSON. -/
def toJson (r : ServiceRecord) : Json :=
  .record [
    ("id", r.id.toJson),
    ("blueprint", r.blueprint.toJson),
    ("owner", r.owner.toJson),
    ("permittedCallers", .array (r.permittedCallers.map Address.toJson)),
    ("ttlBlocks", .nat r.ttlBlocks.val)]

/-- The fields of a service record. -/
def fields : List Json.Field := [
  .of "id" (Id.ofField .service),
  .of "blueprint" (Id.ofField .blueprint),
  .of "owner" Address.ofJson,
  .of "permittedCallers" (Json.asList Address.ofJson),
  .of "ttlBlocks" (Json.asNatural UInt64.size)]

/-- The service record that a value gives. -/
def ofJson (v : Json) : Except Fault ServiceRecord := do
  let fs ← Json.Fields.ofJson fields v
  return {
    id := ← fs.required "id" (Id.ofField .service)
    blueprint := ← fs.required "blueprint" (Id.ofField .blueprint)
    owner := ← fs.required "owner" Address.ofJson
    permittedCallers := ← fs.defaulted "permittedCallers" [] (Json.asList Address.ofJson)
    ttlBlocks := ← fs.required "ttlBlocks" (Json.asNatural UInt64.size) }

end ServiceRecord

end ChainProvision

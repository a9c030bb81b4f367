import ChainProvision.Time.Instant
import ChainProvision.Wire.Identity

/-!
# Resource records

The local record of a resource: made once, when its transaction is confirmed, and only patched
afterwards.
-/

namespace ChainProvision

/-- What a deployment makes. -/
inductive ResourceKind where
  /-- A sandbox, made by a job on the shared sandbox service. -/
  | sandbox
  /-- An instance, backed by a service of its own. -/
  | dedicated
  deriving DecidableEq, Repr

/-- How far a recorded resource is. -/
inductive ResourceStatus where
  | creating
  | running
  | failed
  deriving DecidableEq, Repr

namespace ResourceKind

/-- The name of a kind. -/
def text : ResourceKind → String
  | .sandbox => "sandbox"
  | .dedicated => "instance"

/-- The kind with the given name. -/
def ofText? (s : String) : Option ResourceKind :=
  [.sandbox, .dedicated].find? fun k => k.text == s

/-- A kind in JSON. -/
def toJson (k : ResourceKind) : Json := .string k.text

/-- The kind that a value gives. -/
def ofJson : Json → Except Fault ResourceKind := Json.asVariant ofText?

end ResourceKind

namespace ResourceStatus

/-- The name of a status. -/
def text : ResourceStatus → String
  | .creating => "creating"
  | .running => "running"
  | .failed => "failed"

/-- The status with the given name. -/
def ofText? (s : String) : Option ResourceStatus :=
  [.creating, .running, .failed].find? fun k => k.text == s

/-- A status in JSON. -/
def toJson (k : ResourceStatus) : Json := .string k.text

/-- The status that a value gives. -/
def ofJson : Json → Except Fault ResourceStatus := Json.asVariant ofText?

end ResourceStatus

/-- The record of a resource. -/
structure Record where
  /-- The key under which the record is kept. -/
  key : String
  name : Name
  kind : ResourceKind
  status : ResourceStatus
  service : Option ServiceId := none
  call : Option CallId := none
  txHash : Option TxHash := none
  resource : Option String := none
  endpoint : Option String := none
  image : String
  createdAt : Instant
  updatedAt : Instant
  deriving DecidableEq

/-- The fields to overwrite along with the status; an absent one is left as it is. -/
structure Patch where
  resource : Option String := none
  endpoint : Option String := none
  service : Option ServiceId := none
  deriving DecidableEq

namespace Record

/-- The record of a resource that has just been asked for; it is kept under the resource's name. -/
def creating (name : Name) (kind : ResourceKind) (image : String) (now : Instant) : Record :=
  { key := name.text, name, kind, status := .creating, image, createdAt := now, updatedAt := now }

/-- A record with a new status and the fields of a patch. -/
def apply (r : Record) (status : ResourceStatus) (patch : Patch) (now : Instant) : Record :=
  { r with
    status
    resource := patch.resource.or r.resource
    endpoint := patch.endpoint.or r.endpoint
    service := patch.service.or r.service
    updatedAt := now }

/-- An instant in JSON. -/
def instantToJson (t : Instant) : Json := .string t.text

/-- The instant that a value gives. -/
def instantOfJson (v : Json) : Except Fault Instant :=
  match Json.asString v with
  | .ok s => match Instant.read? s with
    | some t => .ok t
    | none => .error .malformed
  | .error e => .error e

/-- A record in JSON. -/
def toJson (r : Record) : Json :=
  .record [
    ("key", .string r.key),
    ("name", r.name.toJson),
    ("kind", r.kind.toJson),
    ("status", r.status.toJson),
    ("serviceId", Json.orNull Id.toJson r.service),
    ("callId", Json.orNull Id.toJson r.call),
    ("txHash", Json.orNull TxHash.toJson r.txHash),
    ("resourceId", Json.orNull .string r.resource),
    ("endpointUrl", Json.orNull .string r.endpoint),
    ("image", .string r.image),
    ("createdAt", instantToJson r.createdAt),
    ("updatedAt", instantToJson r.updatedAt)]

/-- The fields of a record. -/
def fields : List Json.Field := [
  .of "key" Json.asString,
  .of "name" Name.ofJson,
  .of "kind" ResourceKind.ofJson,
  .of "status" ResourceStatus.ofJson,
  .of "serviceId" (Json.asOption (Id.ofField .service)),
  .of "callId" (Json.asOption (Id.ofField .call)),
  .of "txHash" (Json.asOption TxHash.ofJson),
  .of "resourceId" (Json.asOption Json.asString),
  .of "endpointUrl" (Json.asOption Json.asString),
  .of "image" Json.asString,
  .of "createdAt" instantOfJson,
  .of "updatedAt" instantOfJson]

/-- The record that a value gives. -/
def ofJson (v : Json) : Except Fault Record := do
  let fs ← Json.Fields.ofJson fields v
  return {
    key := ← fs.required "key" Json.asString
    name := ← fs.required "name" Name.ofJson
    kind := ← fs.required "kind" ResourceKind.ofJson
    status := ← fs.required "status" ResourceStatus.ofJson
    service := ← fs.optional "serviceId" (Json.asOption (Id.ofField .service))
    call := ← fs.optional "callId" (Json.asOption (Id.ofField .call))
    txHash := ← fs.optional "txHash" (Json.asOption TxHash.ofJson)
    resource := ← fs.optional "resourceId" (Json.asOption Json.asString)
    endpoint := ← fs.optional "endpointUrl" (Json.asOption Json.asString)
    image := ← fs.required "image" Json.asString
    createdAt := ← fs.required "createdAt" instantOfJson
    updatedAt := ← fs.required "updatedAt" instantOfJson }

end Record

end ChainProvision

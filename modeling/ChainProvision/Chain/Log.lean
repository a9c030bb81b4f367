import ChainProvision.Number.Word
import ChainProvision.Wire.Identity

/-!
# Contract logs

A log of a contract as the chain client has decoded it: where and as what it was emitted, and of its
arguments only those that deployments are told apart by.
-/

namespace ChainProvision

/-- A decoded contract log. -/
structure Log where
  address : Address
  event : String
  /-- The call or request that the log belongs to. -/
  key : Option String := none
  /-- The resource that a completion log announces. -/
  resource : Option String := none
  endpoint : Option String := none
  block : Option Word64 := none
  index : Option Word32 := none
  deriving DecidableEq

/-- Which logs a subscription asks for. -/
structure LogFilter where
  address : Address
  event : String
  key : Option String
  deriving DecidableEq

namespace Log

/-- A log in JSON. -/
def toJson (l : Log) : Json :=
  .record [
    ("address", l.address.toJson),
    ("event", .string l.event),
    ("correlationKey", Json.orNull .string l.key),
    ("resourceId", Json.orNull .string l.resource),
    ("endpointUrl", Json.orNull .string l.endpoint),
    ("blockNumber", Json.orNull (fun n => .nat n.val) l.block),
    ("logIndex", Json.orNull (fun n => .nat n.val) l.index)]

/-- The fields of a log. -/
def fields : List Json.Field := [
  .of "address" Address.ofJson,
  .of "event" Json.asString,
  .of "correlationKey" (Json.asOption Json.asString),
  .of "resourceId" (Json.asOption Json.asString),
  .of "endpointUrl" (Json.asOption Json.asString),
  .of "blockNumber" (Json.asOption (Json.asNatural UInt64.size)),
  .of "logIndex" (Json.asOption (Json.asNatural UInt32.size))]

/-- The log that a value gives. -/
def ofJson (v : Json) : Except Fault Log := do
  let fs ← Json.Fields.ofJson fields v
  return {
    address := ← fs.required "address" Address.ofJson
    event := ← fs.required "event" Json.asString
    key := ← fs.defaulted "correlationKey" none (Json.asOption Json.asString)
    resource := ← fs.defaulted "resourceId" none (Json.asOption Json.asString)
    endpoint := ← fs.defaulted "endpointUrl" none (Json.asOption Json.asString)
    block := ← fs.defaulted "blockNumber" none (Json.asOption (Json.asNatural UInt64.size))
    index := ← fs.defaulted "logIndex" none (Json.asOption (Json.asNatural UInt32.size)) }

end Log

end ChainProvision

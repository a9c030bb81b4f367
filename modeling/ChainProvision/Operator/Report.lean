import ChainProvision.Number.Word
import ChainProvision.Operator.Failure
import ChainProvision.Operator.Phase
import ChainProvision.Wire.Identity

/-!
# Status reports of the operator

What the operator's API answers about one call, and the completion that a finished call leads to.
Operators spell some fields in two ways, may quote the call's number, and may report any number as the
progress.
-/

namespace ChainProvision

/-- The operator's view of a call. -/
structure Report where
  call : CallId
  resource : Option String := none
  phase : Phase
  message : Option String := none
  /-- Unix milliseconds. -/
  startedAt : Signed64 := Signed64.zero
  /-- Unix milliseconds. -/
  updatedAt : Signed64 := Signed64.zero
  percent : Word8 := .ofNat 0
  endpoint : Option String := none
  deriving DecidableEq

/-- What asking the operator brings: a failure, or a report if the operator tracks the call. -/
abbrev FetchReply := Except FetchError (Option Report)

/-- Where a finished resource lives. -/
structure Completion where
  resource : String
  endpoint : Option String := none
  deriving DecidableEq

namespace Phase

/-- A phase in JSON. -/
def toJson (p : Phase) : Json := .string p.text

/-- The phase that a value gives. -/
def ofJson : Json → Except Fault Phase := Json.asVariant ofText?

end Phase

namespace Report

/-- Whether the resource is ready. -/
def isReady (r : Report) : Bool := r.phase == .ready

theorem isReady_iff {r : Report} : r.isReady = true ↔ r.phase = .ready := beq_iff_eq

/-- Whether provisioning failed. -/
def isFailed (r : Report) : Bool := r.phase == .failed

theorem isFailed_iff {r : Report} : r.isFailed = true ↔ r.phase = .failed := beq_iff_eq

/-- The progress, at most one hundred. -/
def progress (r : Report) : Nat := min r.percent.val 100

/-- A percentage as reported: any number, rounded with a half going up and kept between 0 and 100, or
    nothing at all for 0. -/
def percentOfJson : Json → Except Fault Word8
  | .null => .ok (.ofNat 0)
  | .number n =>
    let clamp (m : Nat) : Word8 := .ofNat (min m 100)
    match n.scalar? with
    | some (.natural m) => .ok (clamp m.val)
    | some (.negative _) => .ok (.ofNat 0)
    | some (.real negative x) => .ok (if negative then .ofNat 0 else clamp x.round)
    | none => .error .malformed
  | _ => .error .malformed

/-- A report in JSON.  An absent endpoint is left out. -/
def toJson (r : Report) : Json :=
  .record ([
    ("correlationId", r.call.toJson),
    ("resourceId", Json.orNull .string r.resource),
    ("phase", r.phase.toJson),
    ("message", Json.orNull .string r.message),
    ("startedAt", .int r.startedAt.val),
    ("updatedAt", .int r.updatedAt.val),
    ("progressPercent", .nat r.percent.val)] ++
    match r.endpoint with
    | some url => [("endpointUrl", .string url)]
    | none => [])

/-- The fields of a report. -/
def fields : List Json.Field := [
  .of "correlationId" (Id.ofField .call) ["callId"],
  .of "resourceId" (Json.asOption Json.asString) ["sandboxId"],
  .of "phase" Phase.ofJson,
  .of "message" (Json.asOption Json.asString),
  .of "startedAt" Json.asSigned,
  .of "updatedAt" Json.asSigned,
  .of "progressPercent" percentOfJson,
  .of "endpointUrl" (Json.asOption Json.asString) ["sidecarUrl"]]

/-- The report that a value gives. -/
def ofJson (v : Json) : Except Fault Report := do
  let fs ← Json.Fields.ofJson fields v
  return {
    call := ← fs.required "correlationId" (Id.ofField .call)
    resource := ← fs.defaulted "resourceId" none (Json.asOption Json.asString)
    phase := ← fs.required "phase" Phase.ofJson
    message := ← fs.defaulted "message" none (Json.asOption Json.asString)
    startedAt := ← fs.defaulted "startedAt" Signed64.zero Json.asSigned
    updatedAt := ← fs.defaulted "updatedAt" Signed64.zero Json.asSigned
    percent := ← fs.defaulted "progressPercent" (.ofNat 0) percentOfJson
    endpoint := ← fs.defaulted "endpointUrl" none (Json.asOption Json.asString) }

end Report

namespace Completion

/-- A completion in JSON. -/
def toJson (c : Completion) : Json :=
  .record [("resourceId", .string c.resource), ("endpointUrl", Json.orNull .string c.endpoint)]

/-- The fields of a completion. -/
def fields : List Json.Field := [
  .of "resourceId" Json.asString,
  .of "endpointUrl" (Json.asOption Json.asString)]

/-- The completion that a value gives. -/
def ofJson (v : Json) : Except Fault Completion := do
  let fs ← Json.Fields.ofJson fields v
  return {
    resource := ← fs.required "resourceId" Json.asString
    endpoint := ← fs.defaulted "endpointUrl" none (Json.asOption Json.asString) }

end Completion

end ChainProvision

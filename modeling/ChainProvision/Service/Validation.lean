import ChainProvision.Chain.Failure
import ChainProvision.Chain.Service

/-!
# Service validation

Before an existing service is given a job, the contract is asked whether it is active, what its record
is, who operates it, and whether the caller may use it.  A read that fails counts as the answer no.
-/

namespace ChainProvision

/-- Why a service cannot be used. -/
inductive ValidationError where
  | notFound
  | notActive
  | notPermitted
  deriving DecidableEq, Repr

/-- The wording of a validation's failure. -/
def ValidationError.message : ValidationError → String
  | .notFound => "Service not found"
  | .notActive => "Service is not active"
  | .notPermitted => "You are not a permitted caller for this service"

/-- The name of a failure, which stays the same whatever its wording. -/
def ValidationError.name : ValidationError → String
  | .notFound => "NotFound"
  | .notActive => "NotActive"
  | .notPermitted => "NotPermitted"

/-- The answers of the contract about a service and a caller. -/
structure ServiceReads where
  active : Except ChainError Bool
  record : Except ChainError (Option ServiceRecord)
  operators : Except ChainError (List Address)
  /-- Whether the caller is permitted; only asked when there is a caller. -/
  permitted : Except ChainError Bool

/-- What is known about a service that can be used. -/
structure Validation where
  service : ServiceId
  record : ServiceRecord
  active : Bool
  operators : List Address
  /-- The account for which permission was checked. -/
  caller : Option Address
  /-- None when there was no caller. -/
  permitted : Option Bool
  deriving DecidableEq

namespace Validation

/-- Active, and permitted for a caller. -/
def isUsable (v : Validation) : Bool := v.active && v.permitted == some true

/-- Usable by the given account, for which permission was checked. -/
def isUsableBy (v : Validation) (account : Option Address) : Bool :=
  account.isSome && v.caller == account && v.isUsable

/-- The value of a read, or what stands for a failed one. -/
def readOr {α : Type} (missing : α) : Except ChainError α → α
  | .ok a => a
  | .error _ => missing

/-- The verdict on a service: it must exist, be active, and permit the caller, in this order. -/
def judge (service : ServiceId) (caller : Option Address) (reads : ServiceReads) :
    Except ValidationError Validation :=
  let active := readOr false reads.active
  let permitted := caller.map fun _ => readOr false reads.permitted
  match readOr none reads.record with
  | none => .error .notFound
  | some record =>
    if !active then .error .notActive
    else if permitted = some false then .error .notPermitted
    else .ok ⟨service, record, active, readOr [] reads.operators, caller, permitted⟩

end Validation

end ChainProvision

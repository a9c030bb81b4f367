import ChainProvision.Chain.Log
import ChainProvision.Identity.Wei
import ChainProvision.Number.Word

/-!
# Transaction requests

The two calls of the services contract that a deployment makes, as they are handed to the wallet, and
the receipts that come back.  A job goes to an existing service and may carry value; a request for a new
service names at least one operator, attaches nothing and is paid in the native asset.
-/

namespace ChainProvision

/-- At least one operator. -/
structure Operators where
  first : Address
  others : List Address
  deriving DecidableEq

/-- The operators as a list. -/
def Operators.toList (o : Operators) : List Address := o.first :: o.others

/-- The operators in a list, if there are any. -/
def Operators.ofList? : List Address → Option Operators
  | [] => none
  | first :: others => some ⟨first, others⟩

/-- A call of the services contract. -/
inductive ContractCall where
  /-- Submit a job to a service. -/
  | submitJob (service : ServiceId) (job : Word8) (arguments : String)
  /-- Ask operators for a new service. -/
  | requestService (blueprint : BlueprintId) (operators : Operators) (arguments : String)
      (permittedCallers : List Address) (ttlBlocks : Word64) (paymentAsset : Address)
  deriving DecidableEq

/-- A transaction before it is signed. -/
structure TxRequest where
  contract : Address
  call : ContractCall
  value : Wei
  deriving DecidableEq

namespace TxRequest

/-- A job for a service. -/
def submitJob (contract : Address) (service : ServiceId) (job : Word8) (arguments : String)
    (value : Wei) : TxRequest :=
  ⟨contract, .submitJob service job arguments, value⟩

/-- A request for a new service, paid in the native asset with nothing attached. -/
def requestService (contract : Address) (blueprint : BlueprintId) (operators : Operators)
    (arguments : String) (permittedCallers : List Address) (ttlBlocks : Word64) : TxRequest :=
  ⟨contract, .requestService blueprint operators arguments permittedCallers ttlBlocks Address.zero,
    Wei.zero⟩

/-- What a transaction is called in the journal. -/
def label (r : TxRequest) : String :=
  match r.call with
  | .submitJob service job _ =>
    "Submit job " ++ Text.numeral job.val ++ " to service #" ++ service.text
  | .requestService blueprint _ _ _ _ _ => "Request service for blueprint #" ++ blueprint.text

end TxRequest

/-- The outcome of a mined transaction. -/
structure Receipt where
  succeeded : Bool
  logs : List Log
  /-- The reason of a revert, where the chain client could decode one. -/
  revertReason : Option String
  deriving DecidableEq

end ChainProvision

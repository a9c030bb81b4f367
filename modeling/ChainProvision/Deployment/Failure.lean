import ChainProvision.Time.Span
import ChainProvision.Transaction.Failure

/-!
# Failures of a deployment

Why an attempt failed or could not start.
-/

namespace ChainProvision

/-- Why an attempt failed or could not start. -/
inductive DeployError where
  | walletRejected
  | wallet (message : String)
  | broadcastFailed (message : String)
  | reverted (message : String)
  | receipt (message : String)
  | noOperators
  | encode (message : String)
  | missingCallId
  | provisionFailed (message : String)
  | provisionTimeout (limit : Span)
  deriving DecidableEq, Repr

/-- The kinds of failure. -/
inductive DeployErrorKind where
  | userRejected
  | broadcastFailure
  | onChainRevert
  | preconditionUnmet
  | provisionFailed
  | timeout
  deriving DecidableEq, Repr

/-- The name of a kind. -/
def DeployErrorKind.name : DeployErrorKind → String
  | .userRejected => "UserRejected"
  | .broadcastFailure => "BroadcastFailure"
  | .onChainRevert => "OnChainRevert"
  | .preconditionUnmet => "PreconditionUnmet"
  | .provisionFailed => "ProvisionFailed"
  | .timeout => "Timeout"

namespace DeployError

/-- The kind of a failure. -/
def kind : DeployError → DeployErrorKind
  | .walletRejected => .userRejected
  | .wallet _ => .broadcastFailure
  | .broadcastFailed _ => .broadcastFailure
  | .receipt _ => .broadcastFailure
  | .reverted _ => .onChainRevert
  | .noOperators => .preconditionUnmet
  | .encode _ => .preconditionUnmet
  | .missingCallId => .provisionFailed
  | .provisionFailed _ => .provisionFailed
  | .provisionTimeout _ => .timeout

/-- The wording of a failure. -/
def message : DeployError → String
  | .walletRejected => "Transaction rejected in wallet"
  | .wallet m => "Wallet error: " ++ m
  | .broadcastFailed m => "Broadcast failed: " ++ m
  | .reverted m => "Transaction reverted: " ++ m
  | .receipt m => "Receipt unavailable: " ++ m
  | .noOperators => "No operators available"
  | .encode m => m
  | .missingCallId => "No call id found in transaction receipt"
  | .provisionFailed m => "Provisioning failed: " ++ m
  | .provisionTimeout limit => "Provisioning timed out after " ++ limit.text

/-- The name of a failure, which stays the same whatever its wording. -/
def name : DeployError → String
  | .walletRejected => "WalletRejected"
  | .wallet _ => "Wallet"
  | .broadcastFailed _ => "BroadcastFailed"
  | .reverted _ => "Reverted"
  | .receipt _ => "Receipt"
  | .noOperators => "NoOperators"
  | .encode _ => "Encode"
  | .missingCallId => "MissingCallId"
  | .provisionFailed _ => "ProvisionFailed"
  | .provisionTimeout _ => "ProvisionTimeout"

/-- The failure of the deployment that a failure of its transaction means. -/
def ofTx : TxError → DeployError
  | .rejected => .walletRejected
  | .signing m => .wallet m
  | .broadcast m => .broadcastFailed m
  | .reverted m => .reverted m
  | .receipt m => .receipt m

end DeployError

end ChainProvision

import ChainProvision.Text.Search

/-!
# Failures of the wallet and of the chain

What the wallet and the chain client report when they cannot do what they are asked.
-/

namespace ChainProvision

/-- Why the chain client did not answer. -/
inductive ChainError where
  | broadcast (message : String)
  | receipt (message : String)
  | read (message : String)
  | subscription (message : String)
  | transport (message : String)
  deriving DecidableEq, Repr

namespace ChainError

/-- The underlying message, without the category. -/
def detail : ChainError → String
  | .broadcast m => m
  | .receipt m => m
  | .read m => m
  | .subscription m => m
  | .transport m => m

/-- The wording of a failure of the chain client. -/
def message : ChainError → String
  | .broadcast m => "broadcast failed: " ++ m
  | .receipt m => "receipt unavailable: " ++ m
  | .read m => "contract read failed: " ++ m
  | .subscription m => "log subscription failed: " ++ m
  | .transport m => "rpc transport error: " ++ m

/-- The name of a failure, which stays the same whatever its wording. -/
def name : ChainError → String
  | .broadcast _ => "Broadcast"
  | .receipt _ => "Receipt"
  | .read _ => "Read"
  | .subscription _ => "Subscription"
  | .transport _ => "Transport"

end ChainError

/-- Why the wallet did not sign. -/
inductive WalletError where
  | rejected (message : String)
  | notConnected
  | signing (message : String)
  deriving DecidableEq, Repr

namespace WalletError

/-- The wording of a failure of the wallet. -/
def message : WalletError → String
  | .rejected m => "user rejected the request: " ++ m
  | .notConnected => "no wallet connected"
  | .signing m => "signing failed: " ++ m

/-- The name of a failure, which stays the same whatever its wording. -/
def name : WalletError → String
  | .rejected _ => "Rejected"
  | .notConnected => "NotConnected"
  | .signing _ => "Signing"

/-- Whether the holder declined, as opposed to the wallet failing.  Some wallets report a refusal as a
    signing failure that says so in its message or by the code 4001. -/
def isRejection : WalletError → Bool
  | .rejected _ => true
  | .notConnected => false
  | .signing m =>
    Text.occursFolded "user rejected" m || Text.occursFolded "user denied" m ||
      Text.occursFolded "4001" m

end WalletError

end ChainProvision

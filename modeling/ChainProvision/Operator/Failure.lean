import ChainProvision.Number.Word
import ChainProvision.Time.Span
import ChainProvision.Wire.Fields

/-!
# Failures of the operator's API

Why a status could not be fetched.  To a poller each of them is transient.
-/

namespace ChainProvision

/-- Why a status could not be fetched. -/
inductive FetchError where
  | invalidUrl (url reason : String)
  | unsupportedScheme (scheme : String)
  | connect (authority source : String)
  | http (source : String)
  | request (reason : String)
  | timeout (after : Span)
  | status (code : Word16) (body : String)
  | decode (fault : Fault)
  deriving DecidableEq

/-- The kinds of failure. -/
inductive FetchErrorKind where
  | configuration
  | network
  | server
  | decode
  deriving DecidableEq, Repr

/-- The name of a kind. -/
def FetchErrorKind.name : FetchErrorKind → String
  | .configuration => "Configuration"
  | .network => "Network"
  | .server => "Server"
  | .decode => "Decode"

namespace FetchError

/-- The kind of a failure. -/
def kind : FetchError → FetchErrorKind
  | .invalidUrl _ _ => .configuration
  | .unsupportedScheme _ => .configuration
  | .request _ => .configuration
  | .connect _ _ => .network
  | .http _ => .network
  | .timeout _ => .network
  | .status _ _ => .server
  | .decode _ => .decode

/-- The wording of a failure. -/
def message : FetchError → String
  | .invalidUrl url reason => "invalid operator API url " ++ url ++ ": " ++ reason
  | .unsupportedScheme scheme => "unsupported URL scheme " ++ scheme ++ ": only http is supported"
  | .connect authority source => "failed to connect to " ++ authority ++ ": " ++ source
  | .http source => "HTTP request failed: " ++ source
  | .request reason => "failed to build request: " ++ reason
  | .timeout after => "request timed out after " ++ after.text
  | .status code body => "operator API returned " ++ Text.numeral code.val ++ ": " ++ body
  | .decode fault => "invalid status payload: " ++ fault.detail.getD "malformed JSON"

/-- The name of a failure, which stays the same whatever its wording. -/
def name : FetchError → String
  | .invalidUrl _ _ => "InvalidUrl"
  | .unsupportedScheme _ => "UnsupportedScheme"
  | .connect _ _ => "Connect"
  | .http _ => "Http"
  | .request _ => "Request"
  | .timeout _ => "Timeout"
  | .status _ _ => "Status"
  | .decode _ => "Decode"

end FetchError

end ChainProvision

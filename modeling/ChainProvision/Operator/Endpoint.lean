import ChainProvision.Identity.Id
import ChainProvision.Number.Word
import ChainProvision.Operator.Failure
import ChainProvision.Text.Blank
import ChainProvision.Text.Printable
import ChainProvision.Uri

/-!
# The operator's endpoint

Where an operator's API is reached.  Its base is a URL, of which the scheme has to be plain HTTP; the status
of a call has its place below the base's path.
-/

namespace ChainProvision

/-- Where an operator's API is reached. -/
structure Endpoint where
  /-- The URL as configured, without slashes at its end. -/
  baseUrl : String
  authority : Uri.Authority
  host : String
  port : Word16
  /-- The path of the base without slashes at its end. -/
  basePath : String
  requestTimeout : Span := .ofSeconds 10
  deriving DecidableEq

namespace Endpoint

/-- The port of a URL that names none. -/
def defaultPort : Word16 := .ofNat 80

/-- The path of the collection of statuses, below that of the base. -/
def collection : String := "/api/provisions"

/-- A text without slashes at its end. -/
def withoutSlashes (s : String) : String := Text.dropTrailing (· == '/') s

/-- The endpoint under a URL. -/
def read (url : String) : Except FetchError Endpoint :=
  match Uri.read url with
  | .error e => .error (.invalidUrl url e.message)
  | .ok (.authority _) => .error (.invalidUrl url "missing scheme")
  | .ok (.path _) => .error (.invalidUrl url "missing scheme")
  | .ok (.absolute scheme authority path) =>
    if scheme ≠ "http" then .error (.unsupportedScheme scheme)
    else .ok {
      baseUrl := withoutSlashes url
      authority
      host := authority.host
      port := authority.port.getD defaultPort
      basePath := withoutSlashes path }

/-- The path of a call's status. -/
def statusPath (e : Endpoint) (call : CallId) : String :=
  e.basePath ++ collection ++ "/" ++ call.text

/-- The description of an endpoint. -/
def description (e : Endpoint) : String :=
  "HttpProvisionClient \x7b base_url: " ++ Text.quoted e.baseUrl ++
    ", authority: " ++ Text.quoted e.authority.text ++
    ", host: " ++ Text.quoted e.host ++
    ", port: " ++ Text.numeral e.port.val ++
    ", base_path: " ++ Text.quoted e.basePath ++
    ", request_timeout: " ++ e.requestTimeout.text ++ " \x7d"

end Endpoint

end ChainProvision

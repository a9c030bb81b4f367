import ChainProvision.Json.Reader
import ChainProvision.Number.Word
import ChainProvision.Operator.Endpoint
import ChainProvision.Operator.Report
import ChainProvision.Text.Utf8

/-!
# Answers of the operator's API

How asking for a status can end, and what each end means to those who asked.  An operator that does not know
a call answers with status 404, which is no failure.

## Main definitions

* `Response.reply`: what an answer means;
* `Endpoint.reply`: what the end of an attempt means.
-/

namespace ChainProvision

/-- An answer of the operator's API. -/
structure Response where
  status : Word16
  body : List UInt8
  deriving DecidableEq

/-- How an attempt to ask the operator ended. -/
inductive Exchange where
  | answered (response : Response)
  /-- No connection could be made. -/
  | unconnected (reason : String)
  /-- The connection ended before the answer did, or what came was no answer. -/
  | broken (reason : String)
  /-- Nothing came within the time that an endpoint allows. -/
  | unanswered
  deriving DecidableEq

instance : Inhabited Exchange := ⟨.unanswered⟩

namespace Response

/-- The most characters of a body that a message quotes. -/
def quotedLength : Nat := 256

/-- Whether an answer brings what was asked for. -/
def isSuccess (r : Response) : Bool := 200 ≤ r.status.val && r.status.val < 300

/-- JSON text from characters with gaps; `escaped` tells whether a backslash stands before it that escapes
    what follows.  A gap becomes two unpaired surrogates: a reader refuses the text that holds them, and a
    value that is skipped may hold them.  After a backslash a gap becomes an escape that there is not. -/
def jsonChars (escaped : Bool) : List (Option Char) → List Char
  | [] => []
  | some c :: rest => c :: jsonChars (c == '\\' && !escaped) rest
  | none :: rest =>
    (if escaped then ['x'] else "\\ud800\\ud800".toList) ++ jsonChars false rest

/-- The body as JSON text. -/
def jsonText (r : Response) : String := String.ofList (jsonChars false (Utf8.read r.body))

/-- The start of the body as it is quoted in a message. -/
def excerpt (r : Response) : String := String.ofList ((Utf8.lossy r.body).take quotedLength)

/-- What an answer means. -/
def reply (r : Response) : FetchReply :=
  if r.status.val = 404 then .ok none
  else if r.isSuccess then
    match Json.decode Report.ofJson r.jsonText with
    | .ok report => .ok (some report)
    | .error fault => .error (.decode fault)
  else .error (.status r.status r.excerpt)

end Response

/-- What the end of an attempt means. -/
def Endpoint.reply (e : Endpoint) : Exchange → FetchReply
  | .answered response => response.reply
  | .unconnected reason => .error (.connect e.authority.text reason)
  | .broken reason => .error (.http reason)
  | .unanswered => .error (.timeout e.requestTimeout)

end ChainProvision

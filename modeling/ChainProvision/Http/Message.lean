import ChainProvision.Number.Word
import ChainProvision.Operator.Response
import ChainProvision.Text.Numeral

/-!
# HTTP messages

The request for a status, and the reading of an answer from the bytes that have come so far.  A connection
serves one request.

## Main definitions

* `Http.request`: the request for a call's status;
* `Http.readAnswer`: what the bytes say that have come so far.
-/

namespace ChainProvision.Http

/-! ## Requests -/

/-- The first line of the request for a call's status. -/
def requestLine (e : Endpoint) (call : CallId) : String := "GET " ++ e.statusPath call ++ " HTTP/1.1"

/-- The request for a call's status. -/
def request (e : Endpoint) (call : CallId) : String :=
  requestLine e call ++ "\r\nhost: " ++ e.authority.text ++ "\r\naccept: application/json\r\n\r\n"

/-! ## Answers -/

/-- What has been read so far. -/
inductive Reading (α : Type) where
  | done (a : α)
  /-- More bytes are needed. -/
  | more
  | broken (reason : String)

/-- The wording of a connection that ended too early. -/
def cutShort : String := "connection closed before message completed"

/-- The bytes of a line and those after it, if the line has an end.  A carriage return at the end of a line
    does not belong to it. -/
def takeLine (bytes : List UInt8) : Option (List UInt8 × List UInt8) :=
  match bytes.span (· ≠ 10) with
  | (_, []) => none
  | (line, _ :: rest) => some (if line.getLast? = some 13 then line.dropLast else line, rest)

/-- The lines up to the first empty one, of which there are at most `fuel`, and the bytes after it. -/
def takeHead : Nat → List UInt8 → Option (List (List UInt8) × List UInt8)
  | 0, _ => none
  | fuel + 1, bytes =>
    match takeLine bytes with
    | none => none
    | some ([], rest) => some ([], rest)
    | some (line, rest) => (takeHead fuel rest).map fun (lines, body) => (line :: lines, body)

/-- A line as text; bytes beyond ASCII stand for themselves. -/
def lineText (line : List UInt8) : List Char := line.map fun b => Char.ofNat b.toNat

/-- The status that the first line of an answer gives. -/
def statusOf (line : List UInt8) : Option Word16 :=
  let text := lineText line
  let version := text.takeWhile (· ≠ ' ')
  let code := (text.dropWhile (· ≠ ' ')).drop 1 |>.takeWhile (· ≠ ' ')
  if (version = "HTTP/1.1".toList ∨ version = "HTTP/1.0".toList) ∧ code.length = 3 then
    (Text.readNumeral UInt16.size Word16.size_pos code).toOption
  else none

/-- The value of a field, by its name in small letters, in the lines after the first one. -/
def field? (name : String) (lines : List (List UInt8)) : Option (List Char) :=
  lines.findSome? fun line =>
    let text := lineText line
    if (text.takeWhile (· ≠ ':')).map Char.toLower = name.toList ∧ ':' ∈ text then
      some (Text.strip ((text.dropWhile (· ≠ ':')).drop 1))
    else none

/-- The number that hexadecimal digits denote, if there are any. -/
def hexNumber? (digits : List Char) : Option Nat :=
  let value? (c : Char) : Option Nat :=
    if '0' ≤ c ∧ c ≤ '9' then some (c.toNat - 48)
    else if 'a' ≤ c.toLower ∧ c.toLower ≤ 'f' then some (c.toLower.toNat - 87)
    else none
  if digits.isEmpty then none
  else digits.foldlM (fun n c => (value? c).map fun d => n * 16 + d) 0

/-- The body of at most `fuel` chunks. -/
def readChunks : Nat → List UInt8 → List UInt8 → Reading (List UInt8)
  | 0, _, _ => .broken "too many chunks"
  | fuel + 1, body, bytes =>
    match takeLine bytes with
    | none => .more
    | some (line, rest) =>
      match hexNumber? ((lineText line).takeWhile fun c => c ≠ ';' && c ≠ ' ') with
      | none => .broken "invalid chunk size line"
      | some 0 =>
        match takeHead (rest.length + 1) rest with
        | none => .more
        | some _ => .done body
      | some size =>
        if rest.length < size then .more
        else
          match takeLine (rest.drop size) with
          | none => .more
          | some ([], next) => readChunks fuel (body ++ rest.take size) next
          | some _ => .broken "invalid chunk end"

/-- The body after the head of an answer.  Without a length it lasts until the connection ends. -/
def readBody (status : Word16) (lines : List (List UInt8)) (ended : Bool) (bytes : List UInt8) :
    Reading (List UInt8) :=
  if status.val = 204 ∨ status.val = 304 then .done []
  else
    match field? "transfer-encoding" lines, field? "content-length" lines with
    | some coding, _ =>
      if coding.map Char.toLower = "chunked".toList then readChunks (bytes.length + 1) [] bytes
      else if ended then .done bytes
      else .more
    | none, some length =>
      match Text.readNumeral UInt64.size Word64.size_pos length with
      | .error _ => .broken "invalid content-length"
      | .ok n => if bytes.length < n.val then .more else .done (bytes.take n.val)
    | none, none => if ended then .done bytes else .more

/-- What the bytes say that have come so far, and whether more may come.  Interim answers, of which there are
    at most `fuel`, are passed over. -/
def readAnswer (ended : Bool) : Nat → List UInt8 → Reading Response
  | 0, _ => .broken "too many interim answers"
  | fuel + 1, bytes =>
    match takeHead (bytes.length + 1) bytes with
    | none => if ended then .broken cutShort else .more
    | some ([], _) => .broken "invalid HTTP version parsed"
    | some (first :: lines, rest) =>
      match statusOf first with
      | none => .broken "invalid HTTP status-code parsed"
      | some status =>
        if 100 ≤ status.val ∧ status.val < 200 then readAnswer ended fuel rest
        else
          match readBody status lines ended rest with
          | .done body => .done ⟨status, body⟩
          | .broken reason => .broken reason
          | .more => if ended then .broken "end of file before message length reached" else .more

end ChainProvision.Http

import ChainProvision.Number.Word
import ChainProvision.Text.Numeral

/-!
# Uniform resource identifiers

The URIs under which an operator can be reached: a scheme, an authority and a path.  The grammar is lenient
about paths, which may hold any character above ASCII, and strict about authorities, which hold none.  A
query is checked and a fragment is not, and neither is kept.

## Main definitions

* `Uri`, `Uri.Authority`: the parts of an identifier;
* `Uri.read`: the identifier that a text is;
* `Uri.Authority.host`, `Uri.Authority.port`: where to connect to.
-/

namespace ChainProvision

/-- Why a text is no URI. -/
inductive UriError where
  | empty
  | tooLong
  | schemeTooLong
  | invalidFormat
  | invalidChar
  | invalidAuthority
  deriving DecidableEq, Repr

/-- The wording of a fault in a URI. -/
def UriError.message : UriError → String
  | .empty => "empty string"
  | .tooLong => "uri too long"
  | .schemeTooLong => "scheme too long"
  | .invalidFormat => "invalid format"
  | .invalidChar => "invalid uri character"
  | .invalidAuthority => "invalid authority"

namespace Uri

/-- The characters up to the first that satisfies `p`, and the rest. -/
def splitBefore (p : Char → Bool) (cs : List Char) : List Char × List Char :=
  (cs.takeWhile fun c => !p c, cs.dropWhile fun c => !p c)

/-- What follows the last occurrence of a character, or everything if there is none. -/
def afterLast (c : Char) (cs : List Char) : List Char :=
  (cs.reverse.takeWhile (· ≠ c)).reverse

/-! ## Authorities -/

/-- Who is to be asked: user information, host and port as written. -/
structure Authority where
  chars : List Char
  deriving DecidableEq

namespace Authority

/-- The written form of an authority. -/
def text (a : Authority) : String := String.ofList a.chars

/-- The part of an authority after the user information. -/
def hostAndPort (a : Authority) : List Char := afterLast '@' a.chars

/-- The host, with the brackets around a literal address. -/
def bracketedHost (a : Authority) : List Char :=
  match a.hostAndPort with
  | '[' :: rest => '[' :: rest.takeWhile (· ≠ ']') ++ [']']
  | hostAndPort => hostAndPort.takeWhile (· ≠ ':')

/-- The host without brackets. -/
def host (a : Authority) : String :=
  let opened := a.bracketedHost.dropWhile (· == '[')
  String.ofList (opened.reverse.dropWhile (· == ']')).reverse

/-- The port, if what follows the last colon is the number of one. -/
def port (a : Authority) : Option Word16 :=
  if ':' ∈ a.chars then
    (Text.readNumeral UInt16.size Word16.size_pos (afterLast ':' a.chars)).toOption
  else none

/-- The characters that may stand in an authority; a percent sign only before the host. -/
def isChar (c : Char) : Bool :=
  c.isAlphanum || c ∈ ['!', '$', '&', '\'', '(', ')', '*', '+', ',', '-', '.', ':', ';', '=', '@', '[', ']',
    '_', '~']

/-- The characters that end an authority. -/
def isEnd (c : Char) : Bool := c == '/' || c == '?' || c == '#'

/-- What has been seen of an authority. -/
structure Scan where
  /-- The colons that can still turn out to be before a port. -/
  colons : Nat := 0
  opened : Bool := false
  closed : Bool := false
  /-- Whether a percent sign was seen that the host may not hold. -/
  percent : Bool := false
  /-- Whether the last character was an at sign. -/
  endsInAt : Bool := false
  deriving DecidableEq

/-- The longest run of colons, as in a literal address with a port. -/
def maxColons : Nat := 8

/-- The scan after one more character. -/
def Scan.step (s : Scan) (c : Char) : Except UriError Scan :=
  let next := { s with endsInAt := c == '@' }
  if c = ':' then
    if maxColons ≤ s.colons then .error .invalidAuthority else .ok { next with colons := s.colons + 1 }
  else if c = '[' then
    if s.percent || s.opened then .error .invalidAuthority else .ok { next with opened := true }
  else if c = ']' then
    if !s.opened || s.closed then .error .invalidAuthority
    else .ok { next with closed := true, colons := 0, percent := false }
  else if c = '@' then .ok { next with colons := 0, percent := false }
  else if c = '%' then .ok { next with percent := true }
  else if isChar c then .ok next
  else .error .invalidChar

/-- Whether a scan may end: brackets are closed, there is at most one port, the host holds no percent sign
    and does not lack after an at sign. -/
def Scan.isSound (s : Scan) : Bool :=
  s.opened == s.closed && s.colons ≤ 1 && !s.endsInAt && !s.percent

/-- The authority at the start of a text, and what follows it. -/
def read (cs : List Char) : Except UriError (Authority × List Char) :=
  let (chars, rest) := splitBefore isEnd cs
  match chars.foldlM Scan.step {} with
  | .error e => .error e
  | .ok scan => if scan.isSound then .ok (⟨chars⟩, rest) else .error .invalidAuthority

end Authority

/-! ## Paths -/

/-- Whether a character lies beyond ASCII. -/
def isBeyondAscii (c : Char) : Bool := 0x80 ≤ c.toNat

/-- The characters that may stand in a path. -/
def isPathChar (c : Char) : Bool :=
  let n := c.toNat
  n == 0x21 || (0x24 ≤ n && n ≤ 0x3B) || n == 0x3D || (0x40 ≤ n && n ≤ 0x5F) ||
    (0x61 ≤ n && n ≤ 0x7A) || n == 0x7C || n == 0x7E || isBeyondAscii c ||
    c == '"' || c == '\x7b' || c == '\x7d'

/-- The characters that may stand in a query. -/
def isQueryChar (c : Char) : Bool :=
  let n := c.toNat
  n == 0x21 || (0x24 ≤ n && n ≤ 0x3B) || n == 0x3D || (0x3F ≤ n && n ≤ 0x7E) || isBeyondAscii c

/-- The path at the start of a text, `/` if there is none; the query after it has to be sound too. -/
def readPath (cs : List Char) : Except UriError String :=
  let (path, rest) := splitBefore (fun c => c == '?' || c == '#') cs
  if !path.all isPathChar then .error .invalidChar
  else
    let query :=
      match rest with
      | '?' :: query => (splitBefore (· == '#') query).1
      | _ => []
    if !query.all isQueryChar then .error .invalidChar
    else .ok (if path.isEmpty then "/" else String.ofList path)

/-! ## Schemes -/

/-- The characters that may stand in a scheme. -/
def isSchemeChar (c : Char) : Bool :=
  c.isAlphanum || c == '+' || c == '-' || c == '.' || c == '~'

/-- The longest scheme. -/
def maxScheme : Nat := 64

/-- The rest of a text after a phrase, in any case of the text's letters. -/
def afterFolded? : List Char → List Char → Option (List Char)
  | [], text => some text
  | _ :: _, [] => none
  | p :: phrase, c :: text => if p = c.toLower then afterFolded? phrase text else none

/-- The scheme at the start of a text, if there is one, and what follows `://`.  The usual schemes are
    recognised in any case. -/
def readScheme (cs : List Char) : Except UriError (Option (String × List Char)) :=
  match afterFolded? "http://".toList cs, afterFolded? "https://".toList cs with
  | some rest, _ => .ok (some ("http", rest))
  | none, some rest => .ok (some ("https", rest))
  | none, none =>
    let scheme := cs.takeWhile isSchemeChar
    match cs.drop scheme.length with
    | ':' :: '/' :: '/' :: rest =>
      if scheme.isEmpty && rest.isEmpty then .ok none
      else if maxScheme < scheme.length then .error .schemeTooLong
      else .ok (some (String.ofList scheme, rest))
    | _ => .ok none

end Uri

/-- An identifier of a resource. -/
inductive Uri where
  | absolute (scheme : String) (authority : Uri.Authority) (path : String)
  /-- An authority alone. -/
  | authority (authority : Uri.Authority)
  /-- A path on a server that is known otherwise, or `*` for the server itself. -/
  | path (path : String)
  deriving DecidableEq

namespace Uri

/-- The greatest length of an identifier, in bytes. -/
def maxLength : Nat := 65534

/-- An authority that must be there, and what follows it. -/
def readAuthority (cs : List Char) : Except UriError (Authority × List Char) :=
  if cs.isEmpty then .error .empty else Authority.read cs

/-- The identifier that a text is. -/
def read (s : String) : Except UriError Uri :=
  let cs := s.toList
  if maxLength < s.utf8ByteSize then .error .tooLong
  else
    match cs with
    | [] => .error .empty
    | ['*'] => .ok (.path "*")
    | '/' :: _ => (readPath cs).map .path
    | [_] =>
      match readAuthority cs with
      | .error e => .error e
      | .ok (found, rest) => if rest.isEmpty then .ok (.authority found) else .error .invalidChar
    | _ =>
      match readScheme cs with
      | .error e => .error e
      | .ok none =>
        match readAuthority cs with
        | .error e => .error e
        | .ok (found, rest) => if rest.isEmpty then .ok (.authority found) else .error .invalidFormat
      | .ok (some (scheme, rest)) =>
        match readAuthority rest with
        | .error e => .error e
        | .ok (found, rest) =>
          if found.chars.isEmpty then .error .invalidFormat
          else (readPath rest).map (.absolute scheme found)

end Uri

end ChainProvision

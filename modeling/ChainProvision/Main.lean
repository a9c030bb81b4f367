import ChainProvision.Console.Help
import ChainProvision.Console.Session
import ChainProvision.Http.Message
import ChainProvision.Number.Word
import Std.Async.DNS
import Std.Async.TCP
import Std.Async.Timer

/-!
# The program

The thin outer layer: the directory is read and written, notices are printed, the operator is asked over the
network, and the clock is watched.  What happens is decided by the session.
-/

namespace ChainProvision.Program

open ChainProvision.Console Std.Async Std.Net

/-! ## The directory -/

/-- What stands under a name in the working directory. -/
def readEntry (name : String) : IO (Option DirectoryEntry) := do
  try
    return some (.file (← IO.FS.readFile name))
  catch
    | .noFileOrDirectory _ _ _ => return none
    | .inappropriateType _ _ _ => return some .folder
    | e => return some (.unreadable (toString e))

/-- The working directory, as far as it matters. -/
def readDirectory : IO Directory := do
  let entries ← Directory.configNames.filterMapM fun name => do
    return (← readEntry name).map fun entry => (name, entry)
  return { path := (← IO.currentDir).toString, entries }

/-- Write the configuration file if it has changed. -/
def writeDirectory (before after : Directory) : IO Unit := do
  let name := Directory.configName
  match after.get? name with
  | some (.file content) =>
    if before.get? name != after.get? name then IO.FS.writeFile name content
  | _ => return

/-! ## The console -/

/-- Print a line. -/
def printLine (line : Line) : IO Unit :=
  match line.channel with
  | .output => do
    IO.println line.text
    (← IO.getStdout).flush
  | .error => IO.eprintln line.text

/-- Print a notice. -/
def tell (mode : Mode) (notice : Notice) : IO Unit :=
  match notice.line? mode with
  | some line => printLine line
  | none => return

/-! ## The network -/

/-- The address of a socket. -/
def socketAddress (port : Word16) : IPAddr → SocketAddress
  | .v4 addr => .v4 ⟨addr, port.val.toUInt16⟩
  | .v6 addr => .v6 ⟨addr, port.val.toUInt16⟩

/-- Connect to the first address that can be reached. -/
def connectAny (port : Word16) : List IPAddr → Async TCP.Socket.Client
  | [] => throw (IO.userError "could not resolve to any addresses")
  | address :: others => do
    try
      let client ← TCP.Socket.Client.mk
      client.connect (socketAddress port address)
      return client
    catch e =>
      if others.isEmpty then throw e else connectAny port others

/-- Connect to an endpoint. -/
def connect (e : Endpoint) : Async TCP.Socket.Client := do
  let addresses ← DNS.getAddrInfo e.host ""
  connectAny e.port addresses.toList

/-- Receive until an answer is complete. -/
partial def receive (client : TCP.Socket.Client) (bytes : List UInt8) : Async Exchange := do
  let more ← client.recv? 65536
  let bytes := match more with
    | some chunk => bytes ++ chunk.toList
    | none => bytes
  match Http.readAnswer more.isNone 16 bytes with
  | .done response => return .answered response
  | .broken reason => return .broken reason
  | .more => receive client bytes

/-- Ask an endpoint about a call. -/
def ask (e : Endpoint) (call : CallId) : Async Exchange := do
  let client ←
    try
      connect e
    catch reason =>
      return .unconnected (toString reason)
  try
    client.send (Http.request e call).toUTF8
    receive client []
  catch reason =>
    return .broken (toString reason)

/-- Ask an endpoint about a call for at most the given milliseconds. -/
def askWithin (ms : Nat) (e : Endpoint) (call : CallId) : IO Exchange :=
  let limit : Async Exchange := do
    sleep (Std.Time.Millisecond.Offset.ofNat ms)
    return .unanswered
  (Async.race (ask e call) limit).block

/-! ## Sessions -/

/-- Run a session to its end, from its effects on.  While a fetch is under way, only the end of the waiting is
    due. -/
partial def run (mode : Mode) (start : Nat) (session : Session) (effects : List Session.Effect) :
    IO UInt32 := do
  let mut fetch := none
  for effect in effects do
    match effect with
    | .tell notice => tell mode notice
    | .fetch epoch endpoint call => fetch := some (epoch, endpoint, call)
  let now := (← IO.monoMsNow) - start
  match session, fetch with
  | .over exitCode, _ => return exitCode.toUInt32
  | _, some (epoch, endpoint, call) =>
    let allowed := endpoint.requestTimeout.timerMillis
    let left := (session.nextDue.map (· - now)).getD allowed
    let exchange ← askWithin (min allowed left) endpoint call
    let isOver := exchange == .unanswered && left < allowed
    let event := if isOver then .wake else .fetched epoch (endpoint.reply exchange)
    let (session, effects) := session.handle ((← IO.monoMsNow) - start) event
    run mode start session effects
  | _, none =>
    match session.nextDue with
    | none => return 0
    | some due =>
      if now < due then IO.sleep (due - now).toUInt32
      let (session, effects) := session.handle ((← IO.monoMsNow) - start) .wake
      run mode start session effects

/-- Run an invocation in the working directory. -/
def invoke (i : Invocation) : IO UInt32 := do
  let mode := Session.mode i
  let before ← readDirectory
  let opening := Session.begin before 0 i.command
  try
    writeDirectory before opening.directory
  catch e =>
    tell mode (.error (CommandError.setup (.io (toString e))).message)
    return 1
  run mode (← IO.monoMsNow) opening.session opening.effects

/-- Run the program with the words of its command line. -/
def start (words : List String) : IO UInt32 := do
  match Invocation.read words with
  | .error (.help topic) =>
    IO.println topic.text
    return 0
  | .error .version =>
    IO.println versionLine
    return 0
  | .error (.misuse fault) =>
    IO.eprintln ("error: " ++ fault.message ++ "\n\nFor more information, try '--help'.")
    return 2
  | .ok invocation => invoke invocation

end ChainProvision.Program

/-- The entry of the program. -/
def main (words : List String) : IO UInt32 := ChainProvision.Program.start words

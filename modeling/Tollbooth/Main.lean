import Std.Async.DNS
import Std.Async.System
import Std.Async.TCP
import Std.Async.Timer
import Tollbooth.CommandLine.Program
import Tollbooth.Http.Wire
/-!
# The command line program

The outer layer: it looks at the surroundings, lets the network answer what the program asks, and
prints what comes of it.  Connections are plain: what would have to be encrypted is not delivered.
-/

set_option autoImplicit false

namespace Tollbooth.Main

open Std.Async

/-- The address and port that a request is sent to without encryption. -/
def destination (request : Http.Request) : Option (String × UInt16) :=
  request.peer?.map fun (host, port) =>
    (.ofList (host.filter fun c => c ≠ '[' ∧ c ≠ ']'), UInt16.ofNat port)

/-- The address of a socket. -/
def socketAddress (port : UInt16) : Std.Net.IPAddr → Std.Net.SocketAddress
  | .v4 address => .v4 ⟨address, port⟩
  | .v6 address => .v6 ⟨address, port⟩

/-- Connects to the first address of a host. -/
def connect (host : String) (port : UInt16) : Async TCP.Socket.Client := do
  let addresses ← DNS.getAddrInfo host ""
  let some address := addresses[0]? | throw (IO.userError "no address")
  let socket ← TCP.Socket.Client.mk
  socket.connect (socketAddress port address)
  return socket

/-- Receives until the other side closes the connection. -/
partial def receive (socket : TCP.Socket.Client) (received : ByteArray) : Async ByteArray := do
  match ← socket.recv? 65536 with
  | some more => receive socket (received ++ more)
  | none => return received

/-- Sends a request over a connection of its own. -/
def exchange (request : Http.Request) (host : String) (port : UInt16) : Async Http.Exchange := do
  let connected : Option TCP.Socket.Client ←
    try pure (some (← connect host port)) catch _ => pure none
  let some socket := connected | return .failed .undelivered
  try
    socket.send ⟨request.wire.toArray⟩
    let received := (← receive socket .empty).toList
    match Http.Response.ofWire? received.length received with
    | some response => return .answered response
    | none => return .failed .interrupted
  catch _ => return .failed .interrupted

/-- How long an answer is waited for. -/
def patience : Std.Time.Millisecond.Offset := 30000

/-- Waits for an answer, but not for ever. -/
def exchangeInTime (request : Http.Request) : IO Http.Exchange := do
  let some (host, port) := destination request | return .failed .undelivered
  let late : Async Http.Exchange := do
    sleep patience
    return .silent
  (Async.race (exchange request host port) late).block

/-- The network answers requests.  Time passes while answers are waited for, and no chain and no
holder of a key is asked in another way. -/
def world : Dialogue.World IO where
  send := exchangeInTime
  read _ _ := return .failed
  sign _ _ := return .error "no signer can be reached"
  wait _ := return ()

/-- Why a file could not be read. -/
def fileFault : IO.Error → FileFault
  | .noFileOrDirectory _ _ _ => .missing
  | .permissionDenied _ _ _ => .denied
  | .inappropriateType _ 20 _ => .notDirectory
  | .inappropriateType _ 21 _ => .isDirectory
  | e => .other e.toString

/-- The content of a file. -/
def readFile (path : String) : IO (Except FileFault Bytes) := do
  try return .ok (← IO.FS.readBinFile path).toList
  catch e => return .error (fileFault e)

/-- The nearest file of environment variables, here or in a directory above. -/
def readEnvFile : IO (Option Bytes) := do
  let here := (← IO.currentDir).components
  for above in List.range here.length do
    let directory := "/".intercalate (here.take (here.length - above))
    match ← readFile (directory ++ "/.env") with
    | .ok content => return some content
    | .error _ => pure ()
  return none

/-- The time of the clock in milliseconds since the epoch. -/
def now : IO Nat := do
  return (← Std.Time.Timestamp.now).toMillisecondsSinceUnixEpoch.toInt.toNat

/-- Random octets. -/
def random (n : Nat) : IO (Octets n) := do
  return .ofNat n (Bytes.toNat (← IO.getRandomBytes n.toUSize).toList)

/-- What a run finds around it.  Only the files that the command line names are read. -/
def surroundings (args : List String) : IO Surroundings := do
  let found ← System.getEnv
  let time ← now
  let around : Surroundings := {
    environment := found.get?
    envFile := ← readEnvFile
    files := fun _ => .error .missing
    occasion := ⟨.ofSeconds (time / 1000), ← random 32⟩
    stamp := .ofRandom time (← random 16) }
  let contents ← (Program.paths around args).mapM fun path => do return (path, ← readFile path)
  return { around with files := fun path => (contents.lookup path).getD (.error .missing) }

end Tollbooth.Main

open Tollbooth in
/-- Runs the program: prints what it has to say and ends with its status. -/
def main (args : List String) : IO UInt32 := do
  let around ← Main.surroundings args
  let ended : Option Ending ← (Program.run around args).run Main.world
  let ending := ended.getD (.failure "no answer")
  IO.print ending.output
  IO.eprint ending.errors
  return UInt32.ofNat ending.status

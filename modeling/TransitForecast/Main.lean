import Std.Async.DNS
import Std.Async.TCP
import TransitForecast.Console.Connection
import TransitForecast.Console.Run

/-!
# TransitForecast — the command `tpa`

The console with real files, a real environment and real connections. Everything that
it decides is decided by `Console.run`.
-/

open Std.Async

namespace TransitForecast.Console

/-- The bytes that come until the other side closes, after some that came already. -/
partial def receiveAll (client : TCP.Socket.Client) (bytes : ByteArray) : Async ByteArray := do
  match ← client.recv? 65536 with
  | some more => receiveAll client (bytes ++ more)
  | none => return bytes

/-- The address of a server on the network. -/
def socketAddress (ip : Std.Net.IPAddr) (port : Nat) : Std.Net.SocketAddress :=
  match ip with
  | .v4 addr => .v4 ⟨addr, port.toUInt16⟩
  | .v6 addr => .v6 ⟨addr, port.toUInt16⟩

/-- Sends a request to an endpoint, and gives the bytes that come back. -/
def converse (e : Endpoint) (r : Api.Request) : Async ByteArray := do
  let found ← DNS.getAddrInfo e.host (toString e.port)
  match found[0]? with
  | none => throw (IO.userError "unknown host")
  | some ip =>
    let client ← TCP.Socket.Client.mk
    client.connect (socketAddress ip e.port)
    client.send (requestText e r).toUTF8
    receiveAll client .empty

/-- Connections over the network. -/
def network : Transport IO := fun address request => do
  match address.endpoint? with
  | none => return none
  | some e =>
    try
      let bytes ← (converse e request).block
      return Reply.ofBytes? bytes.toList
    catch _ => return none

/-- The contents of a file, if it can be read. -/
def fileContents (path : String) : IO (Option String) := do
  try
    let text ← IO.FS.readFile path
    return some text
  catch _ => return none

/-- The file that a call reads, and its contents. -/
def namedFile (args : List String) : IO (Option (String × Option String)) := do
  match Invocation.ofArguments args with
  | .ok ⟨_, _, .publish _ file⟩ => return some (file, ← fileContents file)
  | _ => return none

/-- What a call finds on this machine. -/
def surroundings (args : List String) : IO Surroundings := do
  let address ← IO.getEnv addressVariable
  let home := (← IO.getEnv "HOME").getD ""
  let config ← fileContents (home ++ "/" ++ configPath)
  let named ← namedFile args
  let file := fun path =>
    named.bind fun (name, contents) => if name = path then contents else none
  return ⟨address, config, file⟩

end TransitForecast.Console

open TransitForecast.Console in
/-- Runs the console. -/
def main (args : List String) : IO UInt32 := do
  let outcome ← run network (← surroundings args) args
  (← IO.getStdout).putStr outcome.stdout
  (← IO.getStderr).putStr outcome.stderr
  return outcome.exitCode.toUInt32

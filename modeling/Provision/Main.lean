import Std.Async.DNS
import Std.Async.TCP
import Provision.Command.Run

/-!
# The command

Reads the settings file in the home directory and the snapshot, prints the report and exits.
-/

namespace Provision.Main

open Std.Async
open Std.Net (IPAddr SocketAddress)

/-- The text of a file; none if it does not read. -/
def readFile (path : String) : IO (Option String) := do
  try return some (← IO.FS.readFile path) catch _ => return none

/-- A name and a value around the first sign of equality. -/
def binding? (text : String) : Option (String × String) :=
  match text.toList.span (· != '=') with
  | (name, _ :: value) => some (String.ofList name, String.ofList value)
  | _ => none

/-- The variables that a run looks at, where not all can be listed. -/
def variableNames : List String := [
  "KRES_SNAPSHOT_URL", "KRES_CPU_FLOOR", "KRES_MEMORY_FLOOR_MB", "CLICOLOR_FORCE"]

def environment : IO (List (String × String)) := do
  match ← readFile "/proc/self/environ" with
  | some text => return (text.splitOn "\x00").filterMap binding?
  | none =>
    let found ← variableNames.mapM fun name => do return (← IO.getEnv name).map (name, ·)
    return found.filterMap id

def settingsFile : IO (Option String) := do
  match ← IO.getEnv "HOME" with
  | some home => readFile (home ++ "/.config/kres/config.toml")
  | none => return none

def socketAddress (address : IPAddr) (number : UInt16) : SocketAddress :=
  match address with
  | .v4 addr => .v4 ⟨addr, number⟩
  | .v6 addr => .v6 ⟨addr, number⟩

partial def receive (socket : TCP.Socket.Client) (received : ByteArray) : Async ByteArray := do
  match ← socket.recv? 65536 with
  | some bytes => if bytes.isEmpty then return received else receive socket (received ++ bytes)
  | none => return received

/-- The bytes that a host answers to a request. -/
def exchange (host : Host) (portNumber : Option Nat) (target : String) : Async ByteArray := do
  let number := portNumber.getD 80
  let name := (Http.hostText host).toList.filter fun c => c != '[' && c != ']'
  let addresses ← DNS.getAddrInfo (String.ofList name) (toString number)
  match addresses[0]? with
  | none => throw (IO.userError "no address")
  | some address => do
    let socket ← TCP.Socket.Client.mk
    socket.connect (socketAddress address number.toUInt16)
    socket.send (Http.request host portNumber target).toUTF8
    receive socket ByteArray.empty

/-- The response of a plain connection; secured ones are not made. -/
def fetch (url : Url) : IO (Option Http.Response) := do
  match url.scheme, url.host with
  | "http", some host =>
    try
      let bytes ← (exchange host url.portNumber url.target).block
      return Http.Response.read? (bytes.toList.map fun byte => Char.ofNat byte.toNat)
    catch _ => return none
  | _, _ => return none

end Provision.Main

open Provision in
def main (arguments : List String) : IO UInt32 := do
  let around : Command.Surroundings IO := {
    environment := ← Main.environment
    settingsFile := ← Main.settingsFile
    file := Main.readFile
    fetch := Main.fetch }
  let outcome ← Command.run around arguments
  IO.print (Printed.text outcome.printed.stdout)
  IO.eprint (Printed.text outcome.printed.stderr)
  return outcome.code.toUInt32

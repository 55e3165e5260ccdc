import RecordDesk.Program
import RecordDesk.Client.Wire
import Std.Async.TCP
import Std.Async.DNS
import Std.Time

/-
  The program on a real machine: files, variables, connections and the clock. What is printed, and
  why, is decided elsewhere.
-/

namespace RecordDesk.Machine.Real

open Std.Async

/-! ## Files and variables -/

/-- A task with a file; what goes wrong is told with the path. -/
def withFile {α : Type} (path : String) (task : IO α) : ExceptT Error IO α := ExceptT.mk do
  match ← task.toBaseIO with
  | .ok a => return .ok a
  | .error e => return .error (.io path (toString e))

/-- The directory in which programs keep their settings. -/
def configDir? : IO (Option String) := do
  match (← IO.getEnv "XDG_CONFIG_HOME").filter (·.toList.head? = some '/') with
  | some dir => return some dir
  | none => return (← IO.getEnv "HOME").map (Path.join · ".config")

/-- There is a file or a directory. -/
def isThere (path : String) : IO Bool := do
  match ← (IO.FS.realPath path).toBaseIO with
  | .ok _ => return true
  | .error _ => return false

/-- The machine. -/
def host : Host IO where
  env? name := IO.getEnv name
  configDir? := configDir?
  isThere := isThere
  read path := withFile path (IO.FS.readFile path)
  write path text := withFile path (IO.FS.writeFile path text)
  makeDirs path := withFile path (if path.isEmpty then pure () else IO.FS.createDirAll path)

/-! ## Connections -/

/-- All bytes up to the end of a connection. -/
partial def receive (socket : TCP.Socket.Client) (bytes : ByteArray) : Async ByteArray := do
  match ← socket.recv? 65536 with
  | some more => receive socket (bytes ++ more)
  | none => return bytes

/-- A port of a computer. -/
def endpoint (port : UInt16) : Std.Net.IPAddr → Std.Net.SocketAddress
  | .v4 addr => .v4 ⟨addr, port⟩
  | .v6 addr => .v6 ⟨addr, port⟩

/-- The place of an address on the network. -/
def locate (a : Address) : Async Std.Net.SocketAddress := do
  match (← DNS.getAddrInfo a.host "" none).toList with
  | addr :: _ => return endpoint a.port.toUInt16 addr
  | [] => throw (.userError ("no address for " ++ a.host))

/-- Sends a request and takes in the response. -/
def exchange (r : Request) : Async String := do
  let some a := Address.ofUrl? r.url | throw (.userError "address not understood")
  let socket ← TCP.Socket.Client.mk
  socket.connect (← locate a)
  socket.send (r.text a).toUTF8
  let bytes ← receive socket .empty
  match String.fromUTF8? bytes with
  | some text => return text
  | none => throw (.userError "response is no text")

/-- Waits for a task, for some hundredths of a second at most. -/
def await {α : Type} (task : Task α) : Nat → IO (Option α)
  | 0 => return none
  | n + 1 => do
    if ← IO.hasFinished task then return some task.get
    IO.sleep 10
    await task n

/-- Sends a request; the response must come in time. -/
def send (timeout : Nat) (r : Request) : IO (Except String Response) := do
  let failure (reason : String) : Except String Response :=
    .error ("error sending request for url (" ++ r.url ++ "): " ++ reason)
  match ← await (← IO.asTask (exchange r).block) (100 * timeout) with
  | none => return failure "operation timed out"
  | some (.error e) => return failure (toString e)
  | some (.ok text) =>
    match Response.ofText? text with
    | some response => return .ok response
    | none => return failure "response not understood"

/-- The ways to servers. -/
def transport (timeout : Nat) : Transport IO where
  send := send timeout
  pause milliseconds := IO.sleep milliseconds.toUInt32

/-! ## The clock -/

/-- The local time. -/
def now : IO String := do
  return (← Std.Time.PlainDateTime.now).format "uuuu-MM-dd HH:mm:ss"

/-- The world that the program runs in. -/
def world : World IO := ⟨host, transport, now⟩

end RecordDesk.Machine.Real

/-- Does what the words ask for. -/
def main (words : List String) : IO UInt32 := do
  let o ← RecordDesk.Program.run RecordDesk.Machine.Real.world words
  IO.print o.printed
  IO.eprint o.complaint
  return o.code.toUInt32

import RecordDesk.Client.Basic
import RecordDesk.Text.Search

/-
  Requests and responses as they go over a connection. An address names a host, a port and what is
  asked of the host; a request asks for a response without chunks and for the end of the connection
  after it, so that the body is all that follows the headers.
-/

namespace RecordDesk

/-- Where a request goes. -/
structure Address where
  host : String
  port : Nat
  /-- What is asked of the host, beginning with a slash. -/
  target : String
deriving DecidableEq, Repr

namespace Address

/-- A byte that a target can hold as it is. -/
def isPlain (b : UInt8) : Bool :=
  let special := ['"', '#', '<', '>', '`', '\x7b', '\x7d']
  0x21 ≤ b && b ≤ 0x7E && !special.contains (Char.ofNat b.toNat)

/-- A hexadecimal digit. -/
def hexDigit (n : Nat) : Char :=
  if n < 10 then Char.ofNat ('0'.toNat + n) else Char.ofNat ('A'.toNat + n - 10)

/-- A byte of a target; what it cannot hold is written as a percent code. -/
def encodeByte (b : UInt8) : List Char :=
  if isPlain b then [Char.ofNat b.toNat]
  else ['%', hexDigit (b.toNat / 16), hexDigit (b.toNat % 16)]

/-- A text as part of a target. -/
def encode (s : String) : String := String.ofList (s.toUTF8.toList.flatMap encodeByte)

/-- The host and the port of an authority; the port is 80 if it is not named. -/
def authority? (s : String) : Option (String × Nat) :=
  match Text.splitAtFirst? s ':' with
  | none => if s.isEmpty then none else some (s, 80)
  | some (host, port) =>
    if host.isEmpty then none
    else if port.isEmpty then some (host, 80)
    else if port.toList.all Char.isDigit then
      (port.toNat?.filter (· < 65536)).map (host, ·)
    else none

/-- The address of a request. Only plain connections are known. -/
def ofUrl? (url : String) : Option Address := do
  let scheme := "http://"
  if !scheme.toList.isPrefixOf url.toList then none
  let rest := (url.toList.drop scheme.length).takeWhile (· != '#')
  let (host, port) ← authority? (String.ofList (rest.takeWhile fun c => c != '/' && c != '?'))
  let target := rest.dropWhile fun c => c != '/' && c != '?'
  let target := if target.head? = some '/' then target else '/' :: target
  return ⟨host, port, encode (String.ofList target)⟩

/-- The address as the host is told it. -/
def hostText (a : Address) : String :=
  if a.port = 80 then a.host else a.host ++ ":" ++ toString a.port

end Address

namespace Request

/-- A line of a message. -/
def line (s : String) : String := s ++ "\r\n"

/-- The headers that describe a body. -/
def bodyHeaders (body : String) : String :=
  line "Content-Type: application/json" ++ line ("Content-Length: " ++ toString body.utf8ByteSize)

/-- A request as it is sent to an address. -/
def text (r : Request) (a : Address) : String :=
  let body := r.body.map Value.compact
  line (r.method.name ++ " " ++ a.target ++ " HTTP/1.0")
    ++ line ("Host: " ++ a.hostText) ++ line "Accept: */*" ++ line "Connection: close"
    ++ ((body.map bodyHeaders).getD "") ++ line "" ++ body.getD ""

end Request

namespace Response

/-- The text after the first empty line. -/
def afterHeaders : List Char → Option (List Char)
  | [] => none
  | '\r' :: '\n' :: '\r' :: '\n' :: cs => some cs
  | '\n' :: '\n' :: cs => some cs
  | _ :: cs => afterHeaders cs

/-- The status that the first line says. -/
def status? (s : String) : Option Nat :=
  match (Text.lines s).head?.map fun l => Text.split l (· == ' ') with
  | some (_ :: code :: _) => code.toNat?
  | _ => none

/-- A response as it was received. -/
def ofText? (s : String) : Option Response := do
  return ⟨← status? s, String.ofList (← afterHeaders s.toList)⟩

end Response

end RecordDesk

import RecordDesk.Source.Basic
import RecordDesk.Json.Parse
import RecordDesk.Text.Blank

/-
  Talking to a server: requests, responses and what can go wrong. A request that fails in a way
  that may pass is sent again, a limited number of times and unchanged.
-/

namespace RecordDesk

/-- The method of a request. -/
inductive Method
  | get
  | post
deriving DecidableEq, Repr

/-- A request to a server. -/
structure Request where
  method : Method
  url : String
  body : Option Value

/-- What a server answers. -/
structure Response where
  status : Nat
  body : String
deriving DecidableEq, Repr

/-- What can go wrong with a server. -/
inductive ClientError
  /-- A failure of the program itself, such as a malformed answer. -/
  | inner (e : Error)
  /-- The server could not be reached. -/
  | transport (reason : String)
  /-- The server answered with a status that is no success. -/
  | status (code : Nat) (body : String)
  /-- The server reported a failure. -/
  | api (message : String)
deriving DecidableEq, Repr

namespace Method

/-- The name of a method. -/
def name : Method → String
  | get => "GET"
  | post => "POST"

end Method

namespace ClientError

/-- Another attempt may succeed: the server was not reached, is overloaded or out of order. -/
def isRetryable : ClientError → Bool
  | inner e => e.isRetryable
  | transport _ => true
  | status code _ => 500 ≤ code || code == 429
  | api _ => false

/-- The text of a failure. -/
def message : ClientError → String
  | inner e => "Core error: " ++ e.message
  | transport reason => "HTTP error: " ++ reason
  | status code body => "HTTP " ++ toString code ++ ": " ++ body
  | api message => "API error: " ++ message

/-- The failure as one of the source of records. -/
def toError : ClientError → Error
  | inner e => e
  | e => .source e.message e.isRetryable

end ClientError

/-- The way to a server, and a pause before a request is sent again. -/
structure Transport (m : Type → Type) where
  /-- Sends a request; a failure says why the server was not reached. -/
  send : Request → m (Except String Response)
  /-- Waits for some milliseconds. -/
  pause : Nat → m Unit

namespace Response

/-- The status is a success. -/
def isSuccess (r : Response) : Bool := 200 ≤ r.status && r.status < 300

/-- The value that a response gives: the JSON of its body, null where that is blank. -/
def value (r : Response) : Except ClientError Value :=
  if !r.isSuccess then .error (.status r.status r.body)
  else if (Text.trim r.body).isEmpty then .ok .null
  else match Json.parseValue? r.body with
    | some v => .ok v
    | none => .error (.inner .serialization)

end Response

/-- A server and how often a request is sent again. -/
structure Client (m : Type → Type) where
  transport : Transport m
  baseUrl : String
  maxRetries : Nat

namespace Client

variable {m : Type → Type} [Monad m]

/-- The address of a path; slashes at the end of the base do not count. -/
def url (c : Client m) (path : String) : String :=
  String.ofList (c.baseUrl.toList.reverse.dropWhile (· == '/')).reverse ++ path

/-- The first pause in milliseconds. -/
def firstPause : Nat := 200

/-- The longest pause in milliseconds. -/
def longestPause : Nat := 60000

/-- The pause before attempt `n + 1`: twice as long each time. -/
def pauseBefore (n : Nat) : Nat := min (firstPause * pow2 n) longestPause

/-- Sends a request once. -/
def sendOnce (t : Transport m) (r : Request) : m (Except ClientError Value) := do
  match ← t.send r with
  | .ok response => return response.value
  | .error reason => return .error (.transport reason)

/-- Sends a request, and up to `retries` times more after failures that may pass. -/
def sendAgain (t : Transport m) (r : Request) : (retries done : Nat) → m (Except ClientError Value)
  | 0, _ => sendOnce t r
  | retries + 1, done => do
    match ← sendOnce t r with
    | .ok v => return .ok v
    | .error e =>
      if e.isRetryable then
        t.pause (pauseBefore done)
        sendAgain t r retries (done + 1)
      else return .error e

/-- Sends a request to a path. -/
def request (c : Client m) (method : Method) (path : String) (body : Option Value) :
    m (Except ClientError Value) :=
  sendAgain c.transport ⟨method, c.url path, body⟩ c.maxRetries 0

end Client

end RecordDesk

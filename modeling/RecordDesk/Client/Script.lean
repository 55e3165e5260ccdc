import RecordDesk.Client.Records

/-
  A server that follows a script: each request is noted and answered by the next response of the
  script, and by an empty one of status 418 when the script has ended.
-/

namespace RecordDesk

/-- Responses still to come, and the requests so far in order. -/
structure Script where
  responses : List Response
  requests : List Request

namespace Script

/-- The response to requests after the end. -/
def exhausted : Response := ⟨418, ""⟩

/-- The next response, and the script after it. -/
def step (s : Script) (r : Request) : Response × Script :=
  match s.responses with
  | [] => (exhausted, ⟨[], s.requests ++ [r]⟩)
  | response :: rest => (response, ⟨rest, s.requests ++ [r]⟩)

/-- The way to a server that follows a script; nobody waits. -/
def transport : Transport (StateM Script) where
  send r := fun s => let (response, s) := s.step r; (.ok response, s)
  pause _ := pure ()

end Script

/-- The way to a server that cannot be reached. -/
def Transport.unreachable {m : Type → Type} [Monad m] : Transport m where
  send r := return .error ("error sending request for url (" ++ r.url ++ ")")
  pause _ := pure ()

end RecordDesk

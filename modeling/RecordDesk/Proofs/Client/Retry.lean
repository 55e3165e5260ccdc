import RecordDesk.Proofs.Client.Calls
import RecordDesk.Proofs.Json.Blank

/-
  Sending a request again. A server that follows a script is sent the same request until it gives an
  answer that does not ask for patience, or until the attempts have come to an end, and the last
  answer alone determines the result (`sendAgain_script`). So it is with every request and with
  every call on the records of the server, and as a source of records the server fails with failures
  that may pass where the client does (`request_stops`).
-/

namespace RecordDesk

namespace ClientError

/-- A failure may pass for a source of records where it may for the client. -/
theorem isRetryable_toError (e : ClientError) : e.toError.isRetryable = e.isRetryable := by
  cases e <;> rfl

end ClientError

/-! ## Answers -/

namespace Response

/-- The server asks for patience: it is out of order, or asked too often. -/
def isBusy (r : Response) : Bool := 500 ≤ r.status || r.status == 429

/-- What a response by itself gives. -/
inductive Gives (r : Response) : Except ClientError Value → Prop
  | refused (h : r.isSuccess = false) : Gives r (.error (.status r.status r.body))
  | nothing (h : r.isSuccess = true) (hbody : Text.trim r.body = "") : Gives r (.ok .null)
  | value (h : r.isSuccess = true) {v : Value} (hbody : Json.parseValue? r.body = some v) :
      Gives r (.ok v)
  | malformed (h : r.isSuccess = true) (hblank : Text.trim r.body ≠ "")
      (hbody : Json.parseValue? r.body = none) : Gives r (.error (.inner .serialization))

variable {r : Response}

theorem gives_value (r : Response) : r.Gives r.value := by
  unfold Response.value
  cases hsuccess : r.isSuccess with
  | false => exact .refused hsuccess
  | true =>
    rw [Bool.not_true, if_neg Bool.false_ne_true]
    by_cases hblank : Text.trim r.body = ""
    · rw [if_pos (by rw [hblank]; rfl)]
      exact .nothing hsuccess hblank
    · rw [if_neg (by simpa using hblank)]
      split
      · next hbody => exact .value hsuccess hbody
      · next hbody => exact .malformed hsuccess hblank hbody

/-- A response gives one thing only: a blank body is no JSON. -/
theorem Gives.value_eq {x : Except ClientError Value} (h : r.Gives x) : r.value = x := by
  cases h with
  | refused h => rw [Response.value, h]; rfl
  | nothing h hbody => rw [Response.value, h, hbody]; rfl
  | @value h v hbody =>
    have hblank : ¬ Text.trim r.body = "" := by
      intro hblank
      rw [Json.parseValue?_of_trim hblank] at hbody
      cases hbody
    rw [Response.value, h, Bool.not_true, if_neg Bool.false_ne_true, if_neg (by simpa using hblank),
      hbody]
  | malformed h hblank hbody =>
    rw [Response.value, h, Bool.not_true, if_neg Bool.false_ne_true, if_neg (by simpa using hblank),
      hbody]

/-- A server that asks for patience has not succeeded. -/
theorem isBusy_of_isSuccess (h : r.isSuccess = true) : r.isBusy = false := by
  simp only [isSuccess, Bool.and_eq_true, decide_eq_true_eq] at h
  simp only [isBusy, Bool.or_eq_false_iff, decide_eq_false_iff_not, beq_eq_false_iff_ne]
  omega

/-- The failures that may pass are those of a server that asks for patience. -/
theorem Gives.isBusy_of_error {e : ClientError} (h : r.Gives (.error e)) :
    r.isBusy = e.isRetryable := by
  cases h with
  | refused h => rfl
  | malformed h _ _ => exact isBusy_of_isSuccess h

theorem Gives.isBusy_of_ok {v : Value} (h : r.Gives (.ok v)) : r.isBusy = false := by
  cases h with
  | nothing h _ => exact isBusy_of_isSuccess h
  | value h _ => exact isBusy_of_isSuccess h

end Response

/-! ## Scripts -/

namespace Script

variable {s : Script} {r : Request}

/-- The client of a server that follows a script. -/
def client (baseUrl : String) (maxRetries : Nat) : Client (StateM Script) :=
  ⟨transport, baseUrl, maxRetries⟩

/-- The answer to a request after `i` others. -/
def answer (s : Script) (i : Nat) : Response := s.responses[i]?.getD exhausted

/-- The script when a request has been sent some times. -/
def after (s : Script) (times : Nat) (r : Request) : Script :=
  ⟨s.responses.drop times, s.requests ++ List.replicate times r⟩

/-- How often a request is sent again, at most `limit` times. -/
def repeats (s : Script) (limit : Nat) : Nat :=
  min (s.responses.findIdx fun response => !response.isBusy) limit

/-- Of the answers to a request that is sent again, at most `limit` times, the one after `k` others
is the last: all before it ask for patience, and it does not unless it is the last that there can
be. -/
structure Stops (s : Script) (limit k : Nat) : Prop where
  within : k ≤ limit
  busy : ∀ i < k, (s.answer i).isBusy = true
  final : k < limit → (s.answer k).isBusy = false

theorem answer_after (s : Script) (i : Nat) (r : Request) :
    (s.after 1 r).answer i = s.answer (i + 1) := by
  rw [answer, answer, after, List.getElem?_drop, Nat.add_comm]

theorem after_after (s : Script) (times : Nat) (r : Request) :
    (s.after 1 r).after times r = s.after (times + 1) r := by
  simp only [after, List.drop_drop, List.append_assoc, List.replicate_append_replicate,
    Nat.add_comm 1 times]

theorem step_eq (s : Script) (r : Request) : s.step r = (s.answer 0, s.after 1 r) := by
  obtain ⟨responses, requests⟩ := s
  cases responses <;> rfl

theorem repeats_of_busy (h : (s.answer 0).isBusy = true) (limit : Nat) (r : Request) :
    s.repeats (limit + 1) = (s.after 1 r).repeats limit + 1 := by
  obtain ⟨responses, requests⟩ := s
  cases responses with
  | nil => cases h
  | cons first rest =>
    have hfirst : first.isBusy = true := h
    simp [repeats, after, List.findIdx_cons, hfirst]

theorem repeats_of_not_busy (h : (s.answer 0).isBusy = false) (limit : Nat) :
    s.repeats limit = 0 := by
  obtain ⟨responses, requests⟩ := s
  cases responses with
  | nil => simp [repeats]
  | cons first rest =>
    have hfirst : first.isBusy = false := h
    simp [repeats, List.findIdx_cons, hfirst]

theorem stops_repeats (s : Script) (limit : Nat) : s.Stops limit (s.repeats limit) where
  within := Nat.min_le_right _ _
  busy := by
    intro i hi
    have hfirst := Nat.lt_of_lt_of_le hi (Nat.min_le_left _ _)
    have hlength := Nat.lt_of_lt_of_le hfirst List.findIdx_le_length
    rw [answer, List.getElem?_eq_getElem hlength, Option.getD_some]
    simpa using List.not_of_lt_findIdx hfirst
  final := by
    intro h
    have hrepeats : s.repeats limit = s.responses.findIdx fun response => !response.isBusy :=
      Nat.min_eq_left (Nat.le_of_not_le fun hle => by
        rw [repeats, Nat.min_eq_right hle] at h
        exact Nat.lt_irrefl _ h)
    rw [hrepeats, answer]
    by_cases hlength : (s.responses.findIdx fun response => !response.isBusy) < s.responses.length
    · rw [List.getElem?_eq_getElem hlength, Option.getD_some]
      simpa using List.findIdx_getElem (w := hlength)
    · rw [List.getElem?_eq_none (Nat.le_of_not_lt hlength)]
      rfl

/-- One attempt takes one answer. -/
theorem sendOnce_script (s : Script) (r : Request) :
    Client.sendOnce transport r s = ((s.answer 0).value, s.after 1 r) := by
  change (((s.step r).1.value, (s.step r).2) : Except ClientError Value × Script) = _
  rw [step_eq]

/-- A request is sent until an answer does not ask for patience, or for the last time that it can
be, and the last answer gives the result. -/
theorem sendAgain_script (s : Script) (r : Request) (limit done : Nat) :
    Client.sendAgain transport r limit done s =
      ((s.answer (s.repeats limit)).value, s.after (s.repeats limit + 1) r) := by
  induction limit generalizing s done with
  | zero =>
    have hrepeats : s.repeats 0 = 0 := Nat.min_zero _
    rw [hrepeats]
    exact sendOnce_script s r
  | succ limit ih =>
    have hgives := (s.answer 0).gives_value
    rw [Client.sendAgain]
    simp only [bind, StateT.bind, sendOnce_script]
    cases hvalue : (s.answer 0).value with
    | ok v =>
      rw [hvalue] at hgives
      rw [repeats_of_not_busy hgives.isBusy_of_ok, hvalue]
      rfl
    | error e =>
      rw [hvalue] at hgives
      have hbusy := hgives.isBusy_of_error
      dsimp only
      by_cases he : e.isRetryable = true
      -- the attempts that are left go through the script after this one
      · rw [if_pos he]
        change Client.sendAgain transport r limit (done + 1) (s.after 1 r) = _
        rw [ih, repeats_of_busy (hbusy.trans he) limit r, answer_after, after_after]
      · rw [if_neg he, repeats_of_not_busy (hbusy.trans (Bool.eq_false_iff.2 he)), hvalue]
        rfl

/-- A request to a path, and the script after it. -/
theorem request_script (baseUrl : String) (limit : Nat) (method : Method) (path : String)
    (body : Option Value) (s : Script) :
    (client baseUrl limit).request method path body s =
      ((s.answer (s.repeats limit)).value,
        s.after (s.repeats limit + 1) ⟨method, (client baseUrl limit).url path, body⟩) :=
  sendAgain_script s _ limit 0

end Script

namespace RecordCall

variable {α : Type}

/-- The request that a call sends to a server. -/
def request {m : Type → Type} (c : Client m) (call : RecordCall α) : Request :=
  ⟨call.method, c.url call.path, call.body⟩

theorem run_script (baseUrl : String) (limit : Nat) (call : RecordCall α) (s : Script) :
    call.run (Script.client baseUrl limit) s =
      (call.result (s.answer (s.repeats limit)).value,
        s.after (s.repeats limit + 1) (call.request (Script.client baseUrl limit))) := by
  rw [run_eq]
  change Prod.map call.result id ((Script.client baseUrl limit).request _ _ _ s) = _
  rw [Script.request_script]
  rfl

theorem ask_script (baseUrl : String) (limit : Nat) (call : RecordCall α) (s : Script) :
    call.ask (Script.client baseUrl limit).records s =
      ((call.run (Script.client baseUrl limit) s).1.mapError ClientError.toError,
        (call.run (Script.client baseUrl limit) s).2) := by
  rw [ask_eq]
  rfl

end RecordCall

namespace Script

/-- A server is sent the same request until one answer does not ask for patience, or for the last
time that it can be sent, and the last answer alone gives the result. So it is with every call on
records too, and a failure may pass for a source of records exactly if it may for the client. -/
theorem request_stops (s : Script) (baseUrl : String) (limit : Nat) :
    let c := client baseUrl limit
    ∃ k x, s.Stops limit k ∧ (s.answer k).Gives x ∧
      (∀ method path body, c.request method path body s =
        (x, s.after (k + 1) ⟨method, c.url path, body⟩)) ∧
      ∀ (α : Type) (call : RecordCall α),
        call.run c s = (call.result x, s.after (k + 1) (call.request c)) ∧
          ∀ e, call.result x = .error e →
            call.ask c.records s = (.error e.toError, s.after (k + 1) (call.request c)) ∧
              e.toError.isRetryable = e.isRetryable := by
  intro c
  refine ⟨s.repeats limit, (s.answer (s.repeats limit)).value, s.stops_repeats limit,
    (s.answer _).gives_value, fun method path body => ?_, fun α call => ⟨?_, fun e he => ⟨?_, ?_⟩⟩⟩
  · exact request_script baseUrl limit method path body s
  · exact call.run_script baseUrl limit s
  · rw [call.ask_script, call.run_script, he]
    rfl
  · exact e.isRetryable_toError

/-- A server that is out of order twice before it answers. -/
def recovering : Script := ⟨[⟨503, "busy"⟩, ⟨500, "down"⟩, ⟨200, ""⟩], []⟩

/-- A client that may ask once more does not hear that answer: it has been refused twice. -/
theorem request_stops_recovering :
    let c := client "http://host" 1
    let call := RecordCall.findAll "pens"
    call.run c recovering = (.error (.status 500 "down"), recovering.after 2 (call.request c)) ∧
      call.result (.error (.status 500 "down")) = .error (.status 500 "down") ∧
      call.ask c.records recovering =
        (.error (.source "HTTP 500: down" true), recovering.after 2 (call.request c)) := by
  obtain ⟨k, x, hstops, hgives, -, hcalls⟩ := request_stops recovering "http://host" 1
  obtain rfl : k = 1 := by
    have hnot : k ≠ 0 := by
      rintro rfl
      exact absurd (hstops.final Nat.one_pos) (by decide)
    have hwithin := hstops.within
    omega
  obtain rfl : .error (.status 500 "down") = x := hgives.value_eq
  obtain ⟨hrun, hfails⟩ := hcalls _ (.findAll "pens")
  exact ⟨hrun, rfl, (hfails _ rfl).1⟩

end Script

end RecordDesk

import RecordDesk.Proofs.Client.Retry

/-
  Failures that a server reports in the envelope of a success. Every call on records fails with the
  reported text, but for the one that asks for one row: there the same answer says that there is no
  such row (`reports_iff`).
-/

namespace RecordDesk

namespace Response

/-- The response is a success, and its body an envelope that reports a failure with this text. -/
structure Reports (r : Response) (text : String) (e : Envelope) : Prop where
  success : r.isSuccess = true
  body : (Json.parseValue? r.body).bind (Document.ofValue? Document.envelope) = some e
  failed : e.success = false
  error : e.error = some text

end Response

namespace RecordCall

variable {α : Type} {r : Response} {text : String} {e : Envelope}

/-- The call makes of a response what it makes of the envelope in its body. -/
theorem result_of_reports (h : r.Reports text e) (call : RecordCall α) :
    call.result r.value = call.ofEnvelope e := by
  obtain ⟨v, hv, he⟩ := Option.bind_eq_some_iff.1 h.body
  have hread : Client.read Document.envelope v = .ok e := by rw [Client.read, he]
  rw [(Response.Gives.value h.success hv).value_eq, result_ok, hread]
  rfl

/-- A reported failure is one of the call, unless the call asks for one row. -/
theorem ofEnvelope_of_reports (h : r.Reports text e) {call : RecordCall α}
    (hmany : call.asksForOne = false) : call.ofEnvelope e = .error (.api text) := by
  have hfailure : e.failure = text := by rw [Envelope.failure, h.error]; rfl
  have hresult : e.result = .error (.api text) := by
    rw [Envelope.result, h.failed, hfailure]
    rfl
  cases call with
  | findAll table => rw [ofEnvelope, hresult]; rfl
  | findById table id => cases hmany
  | create table data => exact hresult
  | update table key data => exact hresult
  | delete table key =>
    rw [ofEnvelope, Client.deleted, h.failed, h.error, hfailure]
    rfl

theorem ofEnvelope_findById (h : r.Reports text e) (table : String) (id : Value) :
    (findById table id).ofEnvelope e = .ok none := by
  rw [ofEnvelope, h.failed]
  rfl

/-- Where the last answer of a server reports a failure, a call fails with the reported text exactly
if it does not ask for one row. One that does is answered that there is none. -/
theorem reports_iff (baseUrl : String) (limit : Nat) (s : Script)
    (h : (s.answer (s.repeats limit)).Reports text e) (call : RecordCall α) :
    let c := Script.client baseUrl limit
    ((call.run c s).1 = .error (.api text) ↔ call.asksForOne = false) ∧
      ∀ table id, ((findById table id).run c s).1 = .ok none := by
  intro c
  have hrun {β : Type} (call : RecordCall β) : (call.run c s).1 = call.ofEnvelope e := by
    rw [run_script, result_of_reports h]
  have hone (table : String) (id : Value) : ((findById table id).run c s).1 = .ok none := by
    rw [hrun, ofEnvelope_findById h]
  refine ⟨⟨fun hfails => ?_, fun hmany => ?_⟩, hone⟩
  · cases call with
    | findById table id => rw [hone] at hfails; cases hfails
    | _ => rfl
  · rw [hrun, ofEnvelope_of_reports h hmany]

/-- A server that was out of order and then cannot get at a row. -/
def lockedScript : Script :=
  ⟨[⟨503, ""⟩, ⟨200, "\x7b\"error\": \"locked\"\x7d"⟩], []⟩

theorem reports_lockedScript :
    ∃ e, (lockedScript.answer (lockedScript.repeats 3)).Reports "locked" e := by
  let body := (lockedScript.answer (lockedScript.repeats 3)).body
  obtain ⟨e, hbody, he⟩ := (Option.any_eq_true (fun e => !e.success && e.error == some "locked")
    ((Json.parseValue? body).bind (Document.ofValue? Document.envelope))).1 (by decide +kernel)
  obtain ⟨hfailed, herror⟩ := Bool.and_eq_true_iff.1 he
  exact ⟨e, by decide, hbody, by simpa using hfailed, by simpa using herror⟩

/-- To store a row then fails, with the text of the server. -/
theorem reports_iff_create : ∃ e, (lockedScript.answer (lockedScript.repeats 3)).Reports "locked" e ∧
    ((create "pens" .empty).run (Script.client "http://host" 3) lockedScript).1 =
      .error (.api "locked") := by
  obtain ⟨e, he⟩ := reports_lockedScript
  exact ⟨e, he, (reports_iff "http://host" 3 lockedScript he (create "pens" .empty)).1.2 rfl⟩

/-- To ask for a row does not. -/
theorem not_reported_findById :
    ∃ e, (lockedScript.answer (lockedScript.repeats 3)).Reports "locked" e ∧
      ((findById "pens" (.int 1)).run (Script.client "http://host" 3) lockedScript).1 ≠
        .error (.api "locked") := by
  obtain ⟨e, he⟩ := reports_lockedScript
  refine ⟨e, he, ?_⟩
  rw [run_script, result_of_reports he, ofEnvelope_findById he]
  nofun

end RecordCall

end RecordDesk

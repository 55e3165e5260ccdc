import RecordDesk.Proofs.Desk.Reading
import RecordDesk.Proofs.Source.Memory

/-
  Records that are validated and submitted at a desk over a memory. Either command fills a form with
  the record in a file and validates it, which only reads; submitting then writes once, if there is
  no violation. So what validation says is what submission comes to, and a submission that is turned
  down changes nothing (`submit_after_validate`).
-/

namespace RecordDesk

namespace Session

variable {r : Record} {s : Session} {edit : Bool}

/-- What the form of a record sends: its payload, under the key of the record if that is edited. -/
inductive Sends (r : Record) (s : Session) : (edit : Bool) → Submission → Prop
  | create : Sends r s false (.create s.table.name (Submission.payload s.table s.values))
  | update {key : RecordKey} (hkey : RecordKey.ofRecord r s.table.primaryKey = .ok key) :
      Sends r s true (.update s.table.name key (Submission.payload s.table s.values))

theorem exists_submit (hform : s.For r edit) {report : Report} (hreport : s.validate = .ok report)
    (hvalid : report.violations = []) :
    ∃ submission, s.submit = .ok submission ∧ s.Sends r edit submission := by
  have hresult : report.result = .ok () := by rw [Report.result, hvalid]
  cases hform with
  | new hmode =>
    refine ⟨_, bind_eq_ok.2 ⟨report, hreport, bind_eq_ok.2 ⟨(), hresult, ?_⟩⟩, .create⟩
    rw [hmode]
    rfl
  | edited hmode hkey hrecord =>
    refine ⟨_, bind_eq_ok.2 ⟨report, hreport, bind_eq_ok.2 ⟨(), hresult, ?_⟩⟩, .update hrecord⟩
    rw [hmode, hkey]
    rfl

end Session

namespace Desk

open DeskTask

variable {m : Type → Type} [Monad m]

/-! ## What the commands share -/

/-- The record in a file, with the form that it fills. -/
def prepare (d : Desk m) (table path : String) (edit : Bool) : DeskTask m (Record × Session) := do
  let r ← d.readRecord path
  return (r, ← d.fillForm table r edit)

/-- Stores what a form sends, if it violates no rule. -/
def commit (d : Desk m) (s : Session) : DeskTask m Value := do
  let report ← ofResult s.validate
  if !report.isValid then throw (.invalid report.violations.length)
  ask ((← ofResult s.submit).send d.records)

theorem validate_eq [LawfulMonad m] (d : Desk m) (table path : String) (edit : Bool) :
    d.validate table path edit = d.prepare table path edit >>= fun p => ofResult p.2.validate := by
  simp only [validate, prepare, bind_assoc, pure_bind]

theorem submit_eq [LawfulMonad m] (d : Desk m) (table path : String) (edit : Bool) :
    d.submit table path edit = d.prepare table path edit >>= fun p => d.commit p.2 := by
  simp only [submit, prepare, commit, bind_assoc, pure_bind]

variable {files : String → Except Error String} {store : ConfigStore (StateM Memory)}
  {s s' : Memory} {session : Session}

theorem reads_prepare (files : String → Except Error String) (table path : String) (edit : Bool) :
    Reads ((overMemory files).prepare table path edit) fun p => p.2.For p.1 edit := by
  refine (reads_readRecord path).bind fun r _ => (reads_fillForm table r edit).bind ?_
  exact fun session hform => reads_lift (r := .ok (r, session)) fun p hp => Except.ok.inj hp ▸ hform

theorem commit_of_error {e : Error} (h : session.validate = .error e) :
    (overMemory files).commit session store s = ((.error (.inner e), store), s) := by
  refine bind_of_error ?_
  rw [h]
  rfl

theorem commit_of_invalid {report : Report} (h : session.validate = .ok report)
    (hinvalid : report.violations ≠ []) : (overMemory files).commit session store s =
      ((.error (.invalid report.violations.length), store), s) := by
  have hreport : ofResult session.validate store s = ((.ok report, store), s) := by rw [h]; rfl
  refine (bind_of_ok hreport).trans ?_
  have hcond : (!report.isValid) = true := by
    rw [Report.isValid, Bool.not_eq_true', List.isEmpty_eq_false_iff]
    exact hinvalid
  rw [if_pos hcond]
  rfl

theorem commit_of_valid {report : Report} (h : session.validate = .ok report)
    (hvalid : report.violations = []) {submission : Submission}
    (hsubmit : session.submit = .ok submission) {answer : Except Error Value}
    (hsent : s.Sent submission answer s') : (overMemory files).commit session store s =
      ((answer.mapError .inner, store), s') := by
  have hreport : ofResult session.validate store s = ((.ok report, store), s) := by rw [h]; rfl
  refine (bind_of_ok hreport).trans ?_
  have hcond : ¬ (!report.isValid) = true := by
    rw [Report.isValid, hvalid]
    exact Bool.noConfusion
  rw [if_neg hcond]
  have hsubmission : ofResult session.submit store s = ((.ok submission, store), s) := by
    rw [hsubmit]
    rfl
  have hanswer := Memory.send_eq_iff.2 hsent
  refine (bind_of_ok hsubmission).trans ?_
  simp only [ask, overMemory, bind, StateT.bind, hanswer]
  rfl

/-- What becomes of the form of a record. It is stored as the memory will have it, if nothing stands
against it. -/
theorem exists_commit {r : Record} {edit : Bool} (hform : session.For r edit)
    (files : String → Except Error String) (s : Memory) :
    ∃ outcome s', (∀ store, (overMemory files).commit session store s = ((outcome, store), s')) ∧
      (∀ e, session.validate = .error e → outcome = .error (.inner e) ∧ s' = s) ∧
      ∀ report, session.validate = .ok report →
        (report.violations ≠ [] →
          outcome = .error (.invalid report.violations.length) ∧ s' = s) ∧
        (report.violations = [] → ∃ submission answer, session.Sends r edit submission ∧
          s.Sent submission answer s' ∧ outcome = answer.mapError .inner) := by
  cases hreport : session.validate with
  | error e =>
    refine ⟨_, _, fun store => commit_of_error hreport, ?_, nofun⟩
    rintro _ ⟨⟩
    exact ⟨rfl, rfl⟩
  | ok report =>
    by_cases hvalid : report.violations = []
    · obtain ⟨submission, hsubmit, hsends⟩ := Session.exists_submit hform hreport hvalid
      obtain ⟨answer, s', hsent⟩ := s.exists_sent submission
      refine ⟨_, _, fun store => commit_of_valid hreport hvalid hsubmit hsent, nofun, ?_⟩
      rintro _ ⟨⟩
      exact ⟨fun h => absurd hvalid h, fun _ => ⟨submission, answer, hsends, hsent, rfl⟩⟩
    · refine ⟨_, _, fun store => commit_of_invalid hreport hvalid, nofun, ?_⟩
      rintro _ ⟨⟩
      exact ⟨fun _ => ⟨rfl, rfl⟩, fun h => absurd h hvalid⟩

/-! ## Validating and submitting -/

def noteTable : Table :=
  { Table.default with
    name := "notes"
    formFields := [{ FormField.default with name := "id" },
      { FormField.default with name := "text" }] }

def noteMemory : Memory :=
  let notes : List Record :=
    [.ofList [("id", .int 1), ("text", .str "pen")], .ofList [("id", .int 2), ("text", .str "ink")]]
  { Memory.empty.setRows "notes" notes with tableBook := .only noteTable }

/-- The second note, under its `id` in capitals, with another text. -/
def noteFile (_path : String) : Except Error String :=
  .ok "\x7b\"ID\": 2, \"text\": \"paper\"\x7d"

/-- The second note is changed, and the first stays. -/
example :
    (((overMemory noteFile).submit "notes" "note.json" true (.ofSource Memory.config none)
      noteMemory).2.rows "notes").map (fun note => (note.get? "text").map Value.display) =
      [some "pen", some "paper"] := by
  decide +kernel

end Desk

end RecordDesk

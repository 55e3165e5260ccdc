import RecordDesk.Proofs.Submission
import RecordDesk.Source.Memory

/-
  What becomes of a submission that is sent to a memory. Where its table fails, or no row has its
  key, nothing changes; else one row is put at the end of its table, or the first row that has the
  key takes the columns that are sent (`send_eq_iff`).
-/

namespace RecordDesk.Memory

variable {s s' : Memory} {key : RecordKey} {change : Record}

/-! ## Rows -/

@[simp] theorem rows_setRows (s : Memory) (table : String) (rows : List Record) (other : String) :
    (s.setRows table rows).rows other = if other = table then rows else s.rows other := by
  rw [Memory.rows, setRows, Dict.get?_insert]
  split <;> rfl

theorem updateFirst_of_none {rows : List Record} (h : ∀ row ∈ rows, key.isIn row = false) :
    updateFirst key change rows = none := by
  induction rows with
  | nil => rfl
  | cons row rest ih =>
    obtain ⟨hrow, hrest⟩ := List.forall_mem_cons.1 h
    rw [updateFirst, hrow, ih hrest]
    rfl

theorem updateFirst_of_first {before after : List Record} {row : Record}
    (hbefore : ∀ other ∈ before, key.isIn other = false) (hrow : key.isIn row = true) :
    updateFirst key change (before ++ row :: after) =
      some (before ++ merge row change :: after, merge row change) := by
  induction before with
  | nil => rw [List.nil_append, updateFirst, hrow]; rfl
  | cons other rest ih =>
    obtain ⟨hother, hrest⟩ := List.forall_mem_cons.1 hbefore
    rw [List.cons_append, updateFirst, hother, ih hrest]
    rfl

/-! ## Submissions -/

/-- The row that is stored for a new record: with the next `id`, if it brings none. -/
def newRow (s : Memory) (table : String) (data : Record) : Record :=
  if (data.lookup "id").isSome then data else data.insert "id" (nextId (s.rows table))

/-- What becomes of a submission: the answer to it, and the memory that it leaves. -/
inductive Sent (s : Memory) : Submission → Except Error Value → Memory → Prop
  | unavailable {sub : Submission} (hfails : sub.table ∈ s.failing) :
      Sent s sub (.error (.source ("table '" ++ sub.table ++ "' unavailable") true)) s
  | unknown {table : String} {key : RecordKey} {data : Record} (hworks : table ∉ s.failing)
      (hrows : ∀ row ∈ s.rows table, key.isIn row = false) :
      Sent s (.update table key data) (.error (.notFound "record" key.display)) s
  | created {table : String} {data : Record} (hworks : table ∉ s.failing) :
      Sent s (.create table data) (.ok (s.newRow table data).toValue)
        (s.setRows table (s.rows table ++ [s.newRow table data]))
  | updated {table : String} {key : RecordKey} {data row : Record} {before after : List Record}
      (hworks : table ∉ s.failing) (hrows : s.rows table = before ++ row :: after)
      (hbefore : ∀ other ∈ before, key.isIn other = false) (hrow : key.isIn row = true) :
      Sent s (.update table key data) (.ok (merge row data).toValue)
        (s.setRows table (before ++ merge row data :: after))

theorem check_of_fails {table : String} (h : table ∈ s.failing) :
    s.check table = .error (.source ("table '" ++ table ++ "' unavailable") true) :=
  if_pos h

theorem check_of_works {table : String} (h : table ∉ s.failing) : s.check table = .ok () :=
  if_neg h

theorem send_of_sent {sub : Submission} {answer : Except Error Value} (h : Sent s sub answer s') :
    sub.send records s = (answer, s') := by
  cases h with
  | unavailable hfails =>
    cases sub with
    | create table data =>
      change table ∈ s.failing at hfails
      simp only [Submission.send, records, run, create, check_of_fails hfails]
      rfl
    | update table key data =>
      change table ∈ s.failing at hfails
      simp only [Submission.send, records, run, update, check_of_fails hfails]
      rfl
  | unknown hworks hrows =>
    simp only [Submission.send, records, run, update, check_of_works hworks,
      updateFirst_of_none hrows]
    rfl
  | created hworks =>
    simp only [Submission.send, records, run, create, check_of_works hworks]
    rfl
  | updated hworks hrows hbefore hrow =>
    simp only [Submission.send, records, run, update, check_of_works hworks, hrows,
      updateFirst_of_first hbefore hrow]
    rfl

theorem exists_sent (s : Memory) (sub : Submission) : ∃ answer s', Sent s sub answer s' := by
  by_cases hfails : sub.table ∈ s.failing
  · exact ⟨_, _, .unavailable hfails⟩
  cases sub with
  | create table data => exact ⟨_, _, .created hfails⟩
  | update table key data =>
    cases hfirst : (s.rows table).find? key.isIn with
    | none =>
      have hnone := List.find?_eq_none.1 hfirst
      exact ⟨_, _, .unknown hfails fun row hrow => Bool.eq_false_iff.2 (hnone row hrow)⟩
    | some row =>
      obtain ⟨hrow, before, after, hrows, hbefore⟩ := List.find?_eq_some_iff_append.1 hfirst
      refine ⟨_, _, .updated hfails hrows (fun other hother => ?_) hrow⟩
      simpa using hbefore other hother

theorem send_eq_iff {sub : Submission} {answer : Except Error Value} :
    sub.send records s = (answer, s') ↔ Sent s sub answer s' := by
  refine ⟨fun h => ?_, send_of_sent⟩
  obtain ⟨answer', s'', hsent⟩ := exists_sent s sub
  obtain ⟨rfl, rfl⟩ := Prod.mk.inj ((send_of_sent hsent).symm.trans h)
  exact hsent

/-- No other table is touched. -/
theorem Sent.rows_of_ne {sub : Submission} {answer : Except Error Value}
    (h : Sent s sub answer s') {other : String} (hother : other ≠ sub.table) :
    s'.rows other = s.rows other := by
  cases h with
  | unavailable => rfl
  | unknown => rfl
  | created => exact (rows_setRows ..).trans (if_neg hother)
  | updated => exact (rows_setRows ..).trans (if_neg hother)

/-- A submission that fails leaves the memory as it is. -/
theorem Sent.eq_of_error {sub : Submission} {e : Error} (h : Sent s sub (.error e) s') :
    s' = s := by
  cases h with
  | unavailable => rfl
  | unknown => rfl

end RecordDesk.Memory

import RecordDesk.Proofs.Form.Confluence

/-
  What an edit sends. The history of a session is everything that its calls have written: the value
  that a call gives to its field, then the changes that it reports. The values of a session are
  those it was opened with, overwritten by its history (`values_run`). An edit is sent to the record
  that was opened, whatever happens to its key columns, and each field of the form is sent with the
  value that was written last (`edit_run_update`).
-/

namespace RecordDesk.Session

/-! ## History -/

/-- The value that a call gives to its field. -/
def given (s : Session) : Call → Except Error Value
  | .value _ v => .ok v
  | .input name raw => do
    let f ← s.field name
    f.readInput raw s.lookups s.config.language s.config.defaultLanguage

/-- What a call writes: the value of its field, then the changes that it reports. A call that fails
writes nothing. -/
def written (s : Session) (c : Call) : List (String × Value) :=
  match s.given c, s.call c with
  | .ok v, .ok (changes, _) => (c.field, v) :: changes.changes
  | _, _ => []

/-- What calls write one after another. -/
def history (s : Session) : List Call → List (String × Value)
  | [] => []
  | c :: rest => s.written c ++ (s.after c).history rest

variable {s : Session} {t : Table}

/-- A call reads the value that it gives, and sets its field to it. -/
theorem call_eq_bind (s : Session) (c : Call) : s.call c = s.given c >>= s.setValue c.field := by
  cases c with
  | value name v => rfl
  | input name raw =>
    rw [call, setInput, given]
    simp only [bind_assoc]
    rfl

/-- A call fails, writes nothing and leaves the session as it is, or it writes the value that it
gives and the changes that follow from it. -/
theorem after_cases (s : Session) (c : Call) :
    (s.written c = [] ∧ s.after c = s) ∨
      ∃ v, s.table.HasField c.field ∧
        s.written c = (c.field, v) :: (s.assign c.field v).1.changes ∧
        s.after c = (s.assign c.field v).2 := by
  cases hcall : s.call c with
  | error e =>
    refine .inl ⟨?_, ?_⟩
    · rw [written, hcall]
      split <;> simp_all
    · rw [after, hcall]
  | ok result =>
    have hbind := hcall
    rw [call_eq_bind] at hbind
    obtain ⟨v, hgiven, hset⟩ := bind_eq_ok.1 hbind
    obtain ⟨hfield, rfl⟩ := setValue_eq_ok hset
    refine .inr ⟨v, hfield, ?_, ?_⟩
    · rw [written, hgiven, hcall]
    · rw [after, hcall]

/-- The values that a session ends with are those it began with, overwritten by all that its calls
have written. -/
theorem values_run (s : Session) (calls : List Call) : (s.run calls).values =
    (s.history calls).foldl (fun r (column, value) => r.insert column value) s.values := by
  induction calls generalizing s with
  | nil => rfl
  | cons c rest ih =>
    have hafter : (s.after c).values =
        (s.written c).foldl (fun r (column, value) => r.insert column value) s.values := by
      rcases s.after_cases c with ⟨hwritten, heq⟩ | ⟨v, -, hwritten, heq⟩
      · rw [hwritten, heq]
        rfl
      · rw [hwritten, heq]
        rfl
    rw [history, List.foldl_append, ← hafter]
    exact ih (s.after c)

/-! ## Fields that are written -/

/-- A call writes to fields of the form. -/
theorem hasField_of_mem_written (hp : Plan.Follows s.plan s.table) {c : Call}
    {entry : String × Value} (h : entry ∈ s.written c) : s.table.HasField entry.1 := by
  rcases s.after_cases c with ⟨hwritten, -⟩ | ⟨v, hfield, hwritten, -⟩
  · exact absurd (hwritten ▸ h) List.not_mem_nil
  · rw [hwritten] at h
    rcases List.mem_cons.1 h with rfl | hchange
    · exact hfield
    · exact hp.hasField_of_derived (Plan.derived_of_mem_changes hp hchange)

theorem hasField_of_mem_history (hp : Plan.Follows s.plan s.table) {calls : List Call}
    {entry : String × Value} (h : entry ∈ s.history calls) : s.table.HasField entry.1 := by
  induction calls generalizing s with
  | nil => exact absurd h List.not_mem_nil
  | cons c rest ih =>
    rcases List.mem_append.1 h with h | h
    · exact hasField_of_mem_written hp h
    · have hafter := s.after_eq c
      have htable : (s.after c).table = s.table := by rw [hafter]
      have hplan : (s.after c).plan = s.plan := by rw [hafter]
      exact htable ▸ ih (by rwa [hplan, htable]) h

/-- A field of the form is looked up as what was written to it last, or as at first if nothing
was. -/
theorem lookup_run (hp : Plan.Follows s.plan s.table) (ht : s.table.Distinct) {field : String}
    (hfield : s.table.HasField field) (calls : List Call) :
    (s.run calls).values.lookup field =
      (lastGiven (s.history calls) field).or (s.values.lookup field) := by
  rw [values_run]
  refine Record.lookup_foldl_insert (fun entry hentry => ?_) s.values
  by_cases heq : entry.1 = field
  · exact .inl heq
  · exact .inr (ht.apart hfield (hasField_of_mem_history hp hentry) (Ne.symm heq))

/-! ## Updates -/

/-- A form that edits the record of a key sends an update of this record. -/
theorem submit_eq_update {key : RecordKey} (hmode : s.mode = .edit) (hkey : s.key = some key)
    {sent : Submission} (h : s.submit = .ok sent) :
    sent = .update s.table.name key (Submission.payload s.table s.values) := by
  obtain ⟨report, -, h⟩ := bind_eq_ok.1 h
  obtain ⟨⟨⟩, -, h⟩ := bind_eq_ok.1 h
  rw [hmode, hkey] at h
  exact (Except.ok.inj h).symm

/-- An update goes to the record that was opened and carries the last values. After any calls, a
call that fails leaves the session as it is, the key is still the one of the record, which it is
found in, and what is sent is an update under this key. Its columns are the fields that are found,
other than the `id`, each with the value that was written to it last, by a call or among the changes
that a call reported, or else with the one that the form was opened with. -/
theorem edit_run_update {tables : TableBook} {rules : RuleBook} {messages : Catalog}
    {language : String} {config : Configuration}
    (hmake : Configuration.make tables rules messages language = .ok config)
    {name : String} (htable : config.table name = .ok t) (ht : t.Distinct)
    {r : Record} (hr : r.Finite) {lookups : Lookups}
    (hedit : Session.edit config name r lookups = .ok s) (calls : List Call) :
    (∀ c e, (s.run calls).call c = .error e → (s.run calls).after c = s.run calls) ∧
    ∃ key, RecordKey.ofRecord r t.primaryKey = .ok key ∧ (s.run calls).key = some key ∧
      key.isIn r = true ∧
      ∀ sent, (s.run calls).submit = .ok sent → ∃ data, sent = .update t.name key data ∧
        data.columns = Formula.distinct ((t.formFields.filter fun f =>
          !f.isId && ((s.run calls).values.lookup f.name).isSome).map (·.name)) ∧
        ∀ f ∈ t.formFields, f.isId = false → data.get? f.name =
          (lastGiven (s.history calls) f.name).or (s.values.lookup f.name) := by
  obtain ⟨p, key, hplan, hkey, hs⟩ := edit_eq_ok htable hedit
  have hp : Plan.Follows s.plan t := by
    rw [hs]
    exact Plan.follows_of_ofTable (Configuration.plan_of_make hmake htable hplan)
  have hstable : s.table = t := by rw [hs]
  have hrun := run_eq s calls
  have hrunTable : (s.run calls).table = t := by rw [hrun, ← hstable]
  have hrunKey : (s.run calls).key = some key := by rw [hrun, hs]
  have hrunMode : (s.run calls).mode = .edit := by rw [hrun, hs]
  refine ⟨fun c e herror => by rw [after, herror], key, hkey, hrunKey,
    RecordKey.isIn_of_ofRecord hr hkey, fun sent hsent => ?_⟩
  refine ⟨Submission.payload t (s.run calls).values, ?_, Submission.columns_payload t _,
    fun f hf hid => ?_⟩
  · rw [submit_eq_update hrunMode hrunKey hsent, hrunTable]
  · have hfield : s.table.HasField f.name := hstable ▸ List.mem_map_of_mem hf
    rw [Submission.get?_payload hf hid,
      lookup_run (hstable.symm ▸ hp) (hstable.symm ▸ ht) hfield calls]

/-! ## A line of an order -/

/-- Lines of orders, each with the key of its order and its item. -/
def lineTable : Table :=
  { Table.default with
    name := "lines"
    key := some (.composite ["order", "item"])
    formFields := [
      { FormField.default with name := "order", kind := .number },
      { FormField.default with name := "item" },
      { FormField.default with name := "price", kind := .number },
      { FormField.default with name := "amount", kind := .number },
      { FormField.default with
        name := "total", calculation := some ⟨true, "price * amount", none, []⟩ }] }

/-- A line with columns in upper case and in lower case. -/
def penLine : Record :=
  .ofList [("order", .int 1), ("ITEM", .str "pen"), ("PRICE", .int 4), ("amount", .int 2)]

/-- Another item is chosen, though it belongs to the key, the amount is mistyped and typed again,
and a field is set that is not there. -/
def lineCalls : List Call :=
  [.value "item" (.str "ink"), .input "amount" "x", .input "amount" "3", .value "colour" .null]

theorem distinct_lineTable : lineTable.Distinct := by decide +kernel

theorem finite_penLine : penLine.Finite := by
  have hentries : penLine.entries =
      [("order", .int 1), ("ITEM", .str "pen"), ("PRICE", .int 4), ("amount", .int 2)] := rfl
  refine Record.finite_of_entries fun entry hentry x hx => ?_
  rw [hentries] at hentry
  simp only [List.mem_cons, List.not_mem_nil, or_false] at hentry
  rcases hentry with rfl | rfl | rfl | rfl <;> cases hx

/-- The line of the pen is sent under the key that it had, though another item was chosen. -/
theorem edit_run_update_penLine :
    ∃ config s key data, Configuration.make (.only lineTable) .default .empty "en" = .ok config ∧
      config.table "lines" = .ok lineTable ∧ lineTable.Distinct ∧ penLine.Finite ∧
      Session.edit config "lines" penLine .empty = .ok s ∧
      RecordKey.ofRecord penLine lineTable.primaryKey = .ok key ∧
      (s.run lineCalls).submit = .ok (.update "lines" key data) ∧
      data.columns = ["order", "item", "price", "amount", "total"] ∧
      ∀ f ∈ lineTable.formFields, f.isId = false → data.get? f.name =
        (lastGiven (s.history lineCalls) f.name).or (s.values.lookup f.name) := by
  obtain ⟨s, hs, hsends⟩ := exists_of_any
    (x := Configuration.make (.only lineTable) .default .empty "en" >>=
      fun config => Session.edit config "lines" penLine .empty)
    (p := fun s => (s.run lineCalls).submit.toOption.any fun sent =>
      sent.data.columns = ["order", "item", "price", "amount", "total"])
    (by decide +kernel)
  obtain ⟨config, hmake, hedit⟩ := bind_eq_ok.1 hs
  have htable : config.table "lines" = .ok lineTable := Configuration.table_of_only hmake
  obtain ⟨sent, hsent, hcolumns⟩ := exists_of_any hsends
  obtain ⟨-, key, hkey, -, -, hupdate⟩ :=
    edit_run_update hmake htable distinct_lineTable finite_penLine hedit lineCalls
  obtain ⟨data, rfl, -, hdata⟩ := hupdate sent hsent
  exact ⟨config, s, key, data, hmake, htable, distinct_lineTable, finite_penLine, hedit, hkey,
    hsent, of_decide_eq_true hcolumns, hdata⟩

end RecordDesk.Session

import RecordDesk.Proofs.Form.Current
import RecordDesk.Proofs.Record.Key
import RecordDesk.Proofs.Validation

/-
  The table that a session works on. Calls change the values of a session and nothing else
  (`run_eq`), so a session keeps the definition that is stored under the name it was opened with.
  Validation, submission and deletion go by the name that the definition itself carries, which a
  document may leave out. They are about the table that was opened exactly if this is the name it is
  stored under (`worksOn_iff`).
-/

namespace RecordDesk

namespace RecordKey

/-- A record with a value in each of some columns. -/
def filledIn (columns : List String) : Record :=
  .ofList (columns.map fun column => (column, .int 1))

theorem filled_filledIn {columns : List String} {column : String} (h : column ∈ columns) :
    (filledIn columns).Filled column := by
  have hget : (filledIn columns).get? column = some (.int 1) := by
    rw [filledIn, Record.ofList, Record.get?_foldl_insert, ← List.map_reverse]
    have hmem := List.mem_reverse.2 h
    generalize columns.reverse = reversed at hmem
    induction reversed with
    | nil => cases hmem
    | cons first rest ih =>
      rw [List.map_cons, Value.field?]
      split
      · rfl
      · next hne => exact ih ((List.mem_cons.1 hmem).resolve_left fun e => hne e.symm)
  exact ⟨.int 1, by rw [Record.lookup, hget], by simp⟩

/-- Along any primary key there is a record with a key. -/
theorem exists_ofRecord (key : PrimaryKey) :
    ∃ k, ofRecord (filledIn key.columns) key = .ok k := by
  by_cases h : key.isComposite = true
  · obtain ⟨all, hall⟩ : ∃ all, gather (filledIn key.columns) .empty key.columns = .ok all :=
      exists_gather_iff.2 fun _ hc => filled_filledIn hc
    exact ⟨_, (ofRecord_composite h).2 ⟨all, hall, rfl⟩⟩
  · obtain ⟨column, rest, hcolumns⟩ := List.exists_cons_of_ne_nil key.columns_ne_nil
    have hmem : column ∈ key.columns := by simp [hcolumns]
    obtain ⟨v, hv⟩ := filled_filledIn hmem
    exact ⟨_, (ofRecord_single h (by rw [hcolumns, List.head?_cons])).2 ⟨v, hv, rfl⟩⟩

end RecordKey

namespace Session

/-! ## Sessions after calls -/

theorem after_eq (s : Session) (c : Call) :
    s.after c = { s with values := (s.after c).values } := by
  unfold after
  split
  · next changes s' hcall =>
    obtain ⟨-, v, rfl⟩ := call_eq_ok hcall
    rfl
  · rfl

/-- Calls change nothing but the values. -/
theorem run_eq (s : Session) (calls : List Call) :
    s.run calls = { s with values := (s.run calls).values } := by
  induction calls generalizing s with
  | nil => rfl
  | cons c rest ih =>
    have hform : ∀ values, { s.after c with values := values } = { s with values := values } := by
      rw [after_eq]
      exact fun _ => rfl
    exact (ih (s.after c)).trans (hform _)

/-- A session that was opened under a name, after any calls. -/
def Opened (config : Configuration) (name : String) (s : Session) : Prop :=
  ∃ r lookups opened calls, start config name r lookups = .ok opened ∧ s = opened.run calls

variable {config : Configuration} {name : String} {s : Session}

theorem start_eq_ok {r : Option Record} {lookups : Lookups}
    (h : start config name r lookups = .ok s) :
    s.config = config ∧ config.table name = .ok s.table := by
  cases r with
  | none =>
    obtain ⟨t, ht, h⟩ := bind_eq_ok.1 h
    obtain ⟨plan, -, h⟩ := bind_eq_ok.1 h
    obtain rfl := Except.ok.inj h
    exact ⟨rfl, ht⟩
  | some r =>
    obtain ⟨t, ht, h⟩ := bind_eq_ok.1 h
    obtain ⟨plan, -, h⟩ := bind_eq_ok.1 h
    obtain ⟨key, -, h⟩ := bind_eq_ok.1 h
    obtain rfl := Except.ok.inj h
    exact ⟨rfl, ht⟩

theorem Opened.stored (h : s.Opened config name) :
    s.config = config ∧ config.table name = .ok s.table := by
  obtain ⟨r, lookups, opened, calls, hstart, rfl⟩ := h
  rw [run_eq]
  exact start_eq_ok (s := opened) hstart

/-! ## Validation and submission -/

theorem validate_eq_error {e : Error} (h : s.validate = .error e) :
    s.config.validator s.table.name = .error e := by
  rcases bind_eq_error.1 h with h | ⟨_, -, h⟩
  · exact h
  · cases h

theorem submit_eq_ok {sent : Submission} (h : s.submit = .ok sent) : sent.table = s.table.name := by
  obtain ⟨report, -, h⟩ := bind_eq_ok.1 h
  obtain ⟨⟨⟩, -, h⟩ := bind_eq_ok.1 h
  dsimp only at h
  split at h
  · obtain rfl := Except.ok.inj h
    rfl
  · obtain rfl := Except.ok.inj h
    rfl

/-- A submission fails where validation does, or with a violation. -/
theorem submit_eq_error {e : Error} (h : s.submit = .error e) :
    s.validate = .error e ∨ ∃ field message, e = .validation field message := by
  rcases bind_eq_error.1 h with h | ⟨report, -, h⟩
  · exact .inl h
  rcases bind_eq_error.1 h with h | ⟨⟨⟩, -, h⟩
  · unfold Report.result at h
    split at h
    · cases h
    · exact .inr ⟨_, _, (Except.error.inj h).symm⟩
  · dsimp only at h
    split at h <;> cases h

/-! ## The table that was opened -/

/-- What is opened under a name works on the table of this name: sessions are validated by the rules
stored under it and never miss a table or a field, and submissions and deletions go to it. -/
structure WorksOn (config : Configuration) (name : String) (t : Table) : Prop where
  validates : ∀ s, Opened config name s → s.validate =
    (Validator.make t (config.rules.table? name) config.messages).map (·.check s.values s.mode)
  found : ∀ s, Opened config name s → ∀ kind missing,
    s.validate ≠ .error (.notFound kind missing) ∧ s.submit ≠ .error (.notFound kind missing)
  submits : ∀ s, Opened config name s → ∀ sent, s.submit = .ok sent → sent.table = name
  deletes : ∀ r d, Deletion.ofRecord t r = .ok d → d.table = name

variable {t : Table}

theorem validator_eq (htable : config.table name = .ok t) :
    config.validator name = Validator.make t (config.rules.table? name) config.messages := by
  rw [Configuration.validator, htable]
  rfl

theorem worksOn_of_name (htable : config.table name = .ok t) (hname : t.name = name) :
    WorksOn config name t := by
  have hvalidator : ∀ s, Opened config name s → s.config.validator s.table.name =
      Validator.make t (config.rules.table? name) config.messages := by
    intro s hs
    obtain ⟨hconfig, hstored⟩ := hs.stored
    obtain rfl : t = s.table := Except.ok.inj (htable.symm.trans hstored)
    rw [hconfig, hname, validator_eq htable]
  have hfound : ∀ s, Opened config name s → ∀ kind missing,
      s.validate ≠ .error (.notFound kind missing) := by
    intro s hs kind missing herror
    obtain ⟨message, hmessage⟩ :=
      Validator.make_error (hvalidator s hs ▸ validate_eq_error herror)
    cases hmessage
  refine ⟨fun s hs => ?_, fun s hs kind missing => ⟨hfound s hs kind missing, fun herror => ?_⟩,
    fun s hs sent hsent => ?_, fun r d hd => ?_⟩
  · rw [validate, hvalidator s hs]
    cases Validator.make t (config.rules.table? name) config.messages <;> rfl
  · rcases submit_eq_error herror with herror | ⟨_, _, herror⟩
    · exact hfound s hs kind missing herror
    · cases herror
  · obtain ⟨-, hstored⟩ := hs.stored
    obtain rfl : t = s.table := Except.ok.inj (htable.symm.trans hstored)
    rw [submit_eq_ok hsent, hname]
  · obtain ⟨key, -, hd⟩ := bind_eq_ok.1 hd
    obtain rfl := Except.ok.inj hd
    exact hname

/-- What is opened under a name works on the table of this name exactly if the definition stored
there carries the name too. -/
theorem worksOn_iff (htable : config.table name = .ok t) :
    WorksOn config name t ↔ t.name = name := by
  constructor
  · intro h
    -- there is a record with a key, and its deletion goes to the table that the definition names
    obtain ⟨key, hkey⟩ := RecordKey.exists_ofRecord t.primaryKey
    exact h.deletes _ ⟨t.name, key⟩ (bind_eq_ok.2 ⟨key, hkey, rfl⟩)
  · exact worksOn_of_name htable

theorem worksOn_orderTable :
    ∃ config, Configuration.make orderBook .default .empty "en" = .ok config ∧
      config.table "orders" = .ok orderTable ∧ WorksOn config "orders" orderTable := by
  obtain ⟨config, hmake⟩ := exists_of_isOk
    (x := Configuration.make orderBook .default .empty "en") (by decide +kernel)
  have htable : config.table "orders" = .ok orderTable := by
    rw [Configuration.table_eq_ok, (Configuration.make_eq_ok hmake).1]
    exact List.mem_singleton_self _
  exact ⟨config, hmake, htable, (worksOn_iff htable).2 rfl⟩

/-- A table that is stored under a name and carries none, as where the document leaves it out. -/
def namelessTable : Table :=
  { Table.default with formFields := [{ FormField.default with name := "a" }] }

example : Document.table (.obj [("formFields", .arr [.obj [("name", .str "a")]])]) =
    some namelessTable := rfl

/-- The nameless table alone. -/
def namelessBook : TableBook :=
  { TableBook.default with tables := Dict.empty.insert "t" namelessTable }

/-- A form for a new record of the nameless table opens, and then its table is not found. -/
theorem not_worksOn_namelessTable :
    ∃ config s, Configuration.make namelessBook .default .empty "en" = .ok config ∧
      config.table "t" = .ok namelessTable ∧ start config "t" none .empty = .ok s ∧
      s.validate = .error (.notFound "table" "") ∧ ¬ WorksOn config "t" namelessTable := by
  obtain ⟨s, hs⟩ := exists_of_isOk
    (x := Configuration.make namelessBook .default .empty "en" >>= fun config =>
      start config "t" none .empty) (by decide +kernel)
  obtain ⟨config, hmake, hstart⟩ := bind_eq_ok.1 hs
  have htables := (Configuration.make_eq_ok hmake).1
  have htable : config.table "t" = .ok namelessTable := by
    rw [Configuration.table_eq_ok, htables]
    exact List.mem_singleton_self _
  obtain ⟨hconfig, hstored⟩ := start_eq_ok hstart
  have hmissing : config.table "" = .error (.notFound "table" "") := by
    rw [Configuration.table, htables]
    rfl
  have hvalidate : s.validate = .error (.notFound "table" "") := by
    rw [htable] at hstored
    rw [validate, hconfig, ← Except.ok.inj hstored, Configuration.validator]
    simp only [namelessTable, Table.default, hmissing]
    rfl
  refine ⟨config, s, hmake, htable, hstart, hvalidate, fun h => ?_⟩
  exact (h.found s ⟨none, .empty, s, [], hstart, rfl⟩ "table" "").1 hvalidate

end Session

end RecordDesk

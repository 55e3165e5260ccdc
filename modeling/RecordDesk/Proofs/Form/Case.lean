import RecordDesk.Proofs.Derive.Alike
import RecordDesk.Proofs.Form.Opened
import RecordDesk.Proofs.Form.Reading
import RecordDesk.Proofs.Listing.Case

/-
  Columns in capitals. Where everything that a table names is in small letters, it makes no
  difference whether the columns of its records and of the rows it refers to are in small letters or
  in capitals: lists and forms cannot be told apart through anything that is done to them
  (`capitalized_indistinguishable`).
-/

namespace RecordDesk

open Text (InSmall)

/-- Everything that a table names of records is in small letters: the fields of its form and the
columns of its list, its key columns, what its choices and cells refer to, and what its autofills
copy. -/
structure Table.SmallNames (t : Table) : Prop extends Listing.SmallNames t where
  fields : ∀ f ∈ t.formFields, InSmall f.name
  choices : ∀ f ∈ t.formFields, Lookups.SmallChoices f
  copied : ∀ s ∈ t.selectors, InSmall s.autofill.sourceColumn ∧
    ∀ copy ∈ s.autofill.copies, InSmall copy.source

/-! ## Lists -/

namespace Listing

/-- The lists cannot be told apart, however they are searched and sorted. -/
structure Indistinguishable (l m : Listing) : Prop where
  rows : ∀ steps, (m.run steps).rows = (l.run steps).rows
  headers : ∀ steps, (m.run steps).headers = (l.run steps).headers
  counts : ∀ steps, (m.run steps).foundCount = (l.run steps).foundCount ∧
    (m.run steps).totalCount = (l.run steps).totalCount

theorem Alike.indistinguishable {l m : Listing} (ht : SmallNames l.table) (h : l.Alike m) :
    l.Indistinguishable m where
  rows steps := (h.run ht steps).rows (by rwa [table_run])
  headers steps := (h.run ht steps).headers
  counts steps := (h.run ht steps).counts

theorem alike_capitalized (t : Table) {records : List Record}
    (hrecords : ∀ r ∈ records, r.SmallColumns) {lookups : Lookups} (hl : lookups.SmallColumns)
    (language default : String) :
    (ofRecords t records lookups language default).Alike
      (ofRecords t (records.map Record.capitalized) lookups.capitalized language default) where
  table := rfl
  language := rfl
  defaultLanguage := rfl
  query := rfl
  sort := rfl
  sorted _ h := nomatch h
  lookups := Lookups.readsAlike_capitalized hl
  records := List.forall₂_map_right_iff.2
    (List.forall₂_same.2 fun r hr => Record.shownAlike_capitalized (hrecords r hr))

end Listing

/-! ## Forms -/

namespace Session

/-- Two sessions of one form, on values and lookups that read alike. -/
structure Alike (s u : Session) : Prop extends SameForm s u where
  plan : u.plan = s.plan
  lookups : s.lookups.ReadsAlike u.lookups
  values : Record.ReadsAlike s.values u.values

/-- The sessions cannot be told apart through any calls. -/
structure Indistinguishable (s u : Session) : Prop where
  key : u.key = s.key
  outcome : ∀ calls c, ((u.run calls).call c).map Prod.fst = ((s.run calls).call c).map Prod.fst
  widgets : ∀ calls, (u.run calls).widgets = (s.run calls).widgets
  report : ∀ calls, (u.run calls).validate = (s.run calls).validate
  sent : ∀ calls, (u.run calls).submit = (s.run calls).submit

variable {s u : Session}

theorem Alike.field (h : s.Alike u) (name : String) : u.field name = s.field name := by
  rw [Session.field, Session.field, h.table]

/-- Setting a field changes the same in both. -/
theorem Alike.assign (hp : s.plan.SmallNames) (h : s.Alike u) {name : String} (hname : InSmall name)
    (v : Value) : (u.assign name v).1 = (s.assign name v).1 ∧
      (s.assign name v).2.Alike (u.assign name v).2 := by
  obtain ⟨hchanges, hvalues⟩ := Plan.applyChange_alike hp h.lookups (h.values.insert hname v) name
  unfold Session.assign
  rw [h.plan]
  exact ⟨hchanges, ⟨h.config, h.table, h.mode, h.key⟩, rfl, h.lookups, hvalues⟩

theorem readInput_alike {l m : Lookups} (h : l.ReadsAlike m) {f : FormField}
    (hf : Lookups.SmallChoices f) (raw language default : String) :
    f.readInput raw m language default = f.readInput raw l language default := by
  simp only [FormField.readInput, Lookups.offers_alike h hf]

theorem mem_of_field {name : String} {f : FormField} (h : s.field name = .ok f) :
    f ∈ s.table.formFields := by
  unfold Session.field Table.formField? at h
  split at h
  · next g hg => exact Except.ok.inj h ▸ List.mem_of_find?_eq_some hg
  · cases h

/-- Both calls fail alike, or both report the same changes and leave sessions that are alike. -/
inductive SameOutcome :
    Except Error (ChangeSet × Session) → Except Error (ChangeSet × Session) → Prop
  | error (e : Error) : SameOutcome (.error e) (.error e)
  | ok (changes : ChangeSet) {s u : Session} (h : s.Alike u) :
    SameOutcome (.ok (changes, s)) (.ok (changes, u))

variable {t : Table}

/-- A table whose names are in small letters, with its plan. -/
structure SmallForm (s : Session) : Prop where
  table : s.table.SmallNames
  plan : s.plan.SmallNames

theorem Alike.setValue (hs : s.SmallForm) (h : s.Alike u) (name : String) (v : Value) :
    SameOutcome (s.setValue name v) (u.setValue name v) := by
  unfold Session.setValue
  rw [h.field]
  cases hf : s.field name with
  | error e => exact .error e
  | ok f =>
    obtain ⟨hchanges, halike⟩ := h.assign hs.plan (hs.table.fields f (mem_of_field hf)) v
    change SameOutcome (.ok (s.assign f.name v)) (.ok (u.assign f.name v))
    rw [← Prod.mk.eta (p := u.assign f.name v), hchanges]
    exact .ok _ halike

theorem Alike.setInput (hs : s.SmallForm) (h : s.Alike u) (name raw : String) :
    SameOutcome (s.setInput name raw) (u.setInput name raw) := by
  unfold Session.setInput
  rw [h.field, h.config]
  cases hf : s.field name with
  | error e => exact .error e
  | ok f =>
    have hread := readInput_alike h.lookups (hs.table.choices f (mem_of_field hf)) raw
      s.config.language s.config.defaultLanguage
    change SameOutcome
      (f.readInput raw s.lookups s.config.language s.config.defaultLanguage >>= s.setValue name)
      (f.readInput raw u.lookups s.config.language s.config.defaultLanguage >>= u.setValue name)
    rw [hread]
    cases f.readInput raw s.lookups s.config.language s.config.defaultLanguage with
    | error e => exact .error e
    | ok v => exact h.setValue hs name v

theorem Alike.call (hs : s.SmallForm) (h : s.Alike u) (c : Call) :
    SameOutcome (s.call c) (u.call c) := by
  cases c with
  | value field v => exact h.setValue hs field v
  | input field raw => exact h.setInput hs field raw

theorem SameOutcome.changes_eq {x y : Except Error (ChangeSet × Session)} (h : SameOutcome x y) :
    y.map Prod.fst = x.map Prod.fst := by
  cases h <;> rfl

theorem Alike.after (hs : s.SmallForm) (h : s.Alike u) (c : Call) :
    (s.after c).Alike (u.after c) := by
  have houtcome := h.call hs c
  unfold Session.after
  generalize s.call c = x at houtcome
  generalize u.call c = y at houtcome
  cases houtcome with
  | error e => exact h
  | ok changes h => exact h

theorem SmallForm.after (hs : s.SmallForm) (c : Call) : (s.after c).SmallForm := by
  rw [after_eq]
  exact ⟨hs.table, hs.plan⟩

theorem Alike.run (hs : s.SmallForm) (h : s.Alike u) (calls : List Call) :
    (s.run calls).Alike (u.run calls) := by
  induction calls generalizing s u with
  | nil => exact h
  | cons c rest ih => exact ih (hs.after c) (h.after hs c)

/-! ## What is shown and sent -/

theorem Alike.widgets (hs : s.table.SmallNames) (h : s.Alike u) : u.widgets = s.widgets := by
  unfold Session.widgets
  rw [h.table, h.config, h.mode]
  refine List.filterMap_congr fun f hf => ?_
  have hvalue : f.shownValue u.values = f.shownValue s.values := by
    rw [FormField.shownValue, FormField.shownValue, h.values f.name (hs.fields f hf)]
  have hoffers := Lookups.offers_alike h.lookups (hs.choices f hf)
  simp only [FormField.widget?, FormField.widgetKind, hvalue, hoffers]

/-- Sessions that are alike cannot be told apart, if what is validated is in small letters too. -/
theorem Alike.indistinguishable (hs : s.SmallForm)
    (hchecked : ∀ field ∈ s.checkedFields, InSmall field) (h : s.Alike u) :
    s.Indistinguishable u := by
  have hrun := fun calls => h.run hs calls
  have hform : ∀ calls, (s.run calls).SmallForm ∧
      ∀ field ∈ (s.run calls).checkedFields, InSmall field := by
    intro calls
    rw [run_eq]
    exact ⟨⟨hs.table, hs.plan⟩, hchecked⟩
  have hreads : ∀ calls, ∀ field ∈ (s.run calls).checkedFields,
      (s.run calls).values.lookup field = (u.run calls).values.lookup field :=
    fun calls field hfield => ((hrun calls).values field ((hform calls).2 field hfield)).symm
  refine ⟨h.key, fun calls c => ?_, fun calls => ?_, fun calls => ?_, fun calls => ?_⟩
  · exact ((hrun calls).call (hform calls).1 c).changes_eq
  · exact (hrun calls).widgets (hform calls).1.table
  · exact (validate_congr (hrun calls).toSameForm (hreads calls)).symm
  · refine (submit_congr (hrun calls).toSameForm (hreads calls) fun f hf => ?_).symm
    exact ((hrun calls).values f.name ((hform calls).1.table.fields f hf)).symm

/-! ## Opening -/

/-- A form opens for a record in capitals as it does for one in small letters, or fails alike. -/
theorem edit_capitalized {tables : TableBook} {rules : RuleBook} {messages : Catalog}
    {language : String} {config : Configuration}
    (hmake : Configuration.make tables rules messages language = .ok config) {name : String}
    {t : Table} (htable : config.table name = .ok t) (ht : t.SmallNames)
    {r : Record} (hr : r.SmallColumns) {lookups : Lookups} (hl : lookups.SmallColumns) :
    (∃ e, edit config name r lookups = .error e ∧
      edit config name r.capitalized lookups.capitalized = .error e) ∨
    ∃ s u, edit config name r lookups = .ok s ∧
      edit config name r.capitalized lookups.capitalized = .ok u ∧
      s.config = config ∧ s.table = t ∧ s.SmallForm ∧ s.Alike u := by
  obtain ⟨p, hplan, hp⟩ := Configuration.exists_plan hmake htable
  have hsmall := Plan.smallNames_of_follows (Plan.follows_of_ofTable hp) ht.fields ht.copied
  have hkey : RecordKey.ofRecord r.capitalized t.primaryKey = RecordKey.ofRecord r t.primaryKey :=
    RecordKey.ofRecord_congr fun column hcolumn =>
      Record.readsAlike_capitalized hr column (ht.key column hcolumn)
  have hopen : ∀ r lookups, edit config name r lookups =
      RecordKey.ofRecord r t.primaryKey >>= fun key =>
        .ok ⟨config, t, p, lookups, .edit, some key,
          (p.recomputeAll r.forEditing).applyTo r.forEditing⟩ := by
    intro r lookups
    rw [edit, htable, hplan]
    rfl
  rw [hopen, hopen, hkey]
  cases RecordKey.ofRecord r t.primaryKey with
  | error e => exact .inl ⟨e, rfl, rfl⟩
  | ok key =>
    have hcopies : Record.ReadsAlike r.forEditing r.capitalized.forEditing :=
      ((Record.oneCase_of_small hr).readsAlike_forEditing.symm.trans
        (Record.readsAlike_capitalized hr)).trans
        (Record.oneCase_capitalized hr).readsAlike_forEditing
    exact .inr ⟨_, _, rfl, rfl, rfl, rfl, ⟨ht, hsmall⟩, ⟨rfl, rfl, rfl, rfl⟩, rfl,
      Lookups.readsAlike_capitalized hl, Plan.recomputeAll_alike hsmall hcopies⟩

end Session

/-- Columns in capitals make no difference to what is opened under a name. A list shows the same
rows, headers and counts, however it is searched and sorted. A form opens or fails alike, and shows,
reports and sends the same after any calls, each of which has the same outcome. A record has the
same key and is deleted by the same request. -/
structure Configuration.IgnoresCapitals (config : Configuration) (name : String) (t : Table)
    (lookups : Lookups) : Prop where
  lists : ∀ records : List Record, (∀ r ∈ records, r.SmallColumns) → ∀ language default,
    (Listing.ofRecords t records lookups language default).Indistinguishable
      (.ofRecords t (records.map Record.capitalized) lookups.capitalized language default)
  forms : ∀ r : Record, r.SmallColumns →
    (∃ e, Session.edit config name r lookups = .error e ∧
      Session.edit config name r.capitalized lookups.capitalized = .error e) ∨
    ∃ s u, Session.edit config name r lookups = .ok s ∧
      Session.edit config name r.capitalized lookups.capitalized = .ok u ∧ s.Indistinguishable u
  keys : ∀ r : Record, r.SmallColumns →
    RecordKey.ofRecord r.capitalized t.primaryKey = RecordKey.ofRecord r t.primaryKey ∧
      Deletion.ofRecord t r.capitalized = Deletion.ofRecord t r

/-- Where everything that a table names is in small letters, columns in capitals make no
difference. -/
theorem capitalized_indistinguishable {tables : TableBook} {rules : RuleBook} {messages : Catalog}
    {language : String} {config : Configuration}
    (hmake : Configuration.make tables rules messages language = .ok config) {name : String}
    {t : Table} (htable : config.table name = .ok t) (ht : t.SmallNames)
    (hchecked : ∀ entry ∈ Validator.ruledFields (config.rules.table? t.name), InSmall entry.1)
    {lookups : Lookups} (hl : lookups.SmallColumns) : config.IgnoresCapitals name t lookups := by
  refine ⟨fun records hrecords language default => ?_, fun r hr => ?_, fun r hr => ?_⟩
  · exact (Listing.alike_capitalized t hrecords hl language default).indistinguishable
      ht.toSmallNames
  · refine (Session.edit_capitalized hmake htable ht hr hl).imp id ?_
    rintro ⟨s, u, hs, hu, rfl, rfl, hform, halike⟩
    refine ⟨s, u, hs, hu, halike.indistinguishable hform fun field hfield => ?_⟩
    obtain ⟨entry, hentry, rfl⟩ := List.mem_map.1 hfield
    exact hchecked entry hentry
  · have hkey : ∀ column ∈ t.primaryKey.columns, r.capitalized.lookup column = r.lookup column :=
      fun column hcolumn => Record.readsAlike_capitalized hr column (ht.key column hcolumn)
    exact ⟨RecordKey.ofRecord_congr hkey, Deletion.ofRecord_congr hkey⟩

/-! ## A stock list -/

/-- Stock: an item is chosen by its name and brings its price, and the list shows it by its name. -/
def stockTable : Table :=
  { Table.default with
    name := "stock"
    formFields := [
      { FormField.default with
        name := "item", kind := .select, options := some (.foreignKey "items" "id" "name"),
        autofill := some ⟨true, "items", "id", [⟨"price", "price"⟩]⟩ },
      { FormField.default with name := "price" },
      { FormField.default with name := "amount", kind := .number },
      { FormField.default with
        name := "total", calculation := some ⟨true, "price * amount", none, []⟩ }]
    listColumns := [
      { ListColumn.default with name := "item", foreignKey := some ⟨"items", "name", "id"⟩ },
      { ListColumn.default with name := "amount", sortable := true }] }

/-- One item. -/
def stockItems : Lookups :=
  Lookups.empty.insert "items" [.ofList [("id", .int 7), ("name", .str "pen"), ("price", .int 40)]]

theorem smallColumns_stockItems : stockItems.SmallColumns := by
  intro table row hrow
  by_cases h : table = "items"
  · subst h
    have hall : ∀ row ∈ stockItems.rows "items", row.SmallColumns := by decide +kernel
    exact hall row hrow
  · have hnone : stockItems.rows table = [] := by
      simp [stockItems, Lookups.rows, Lookups.insert, Lookups.empty, Dict.get?_insert, h]
    rw [hnone] at hrow
    cases hrow

theorem capitalized_indistinguishable_stockTable :
    ∃ config, Configuration.make (.only stockTable) (.requiring "stock" "amount")
        .empty "en" = .ok config ∧
      config.table "stock" = .ok stockTable ∧ stockTable.SmallNames ∧
      (∀ entry ∈ Validator.ruledFields (config.rules.table? "stock"), InSmall entry.1) ∧
      stockItems.SmallColumns ∧ config.IgnoresCapitals "stock" stockTable stockItems := by
  obtain ⟨config, hmake⟩ := exists_of_isOk
    (x := Configuration.make (.only stockTable) (.requiring "stock" "amount") .empty
      "en") (by decide +kernel)
  have htable : config.table "stock" = .ok stockTable := Configuration.table_of_only hmake
  have hsmall : stockTable.SmallNames := {
    columns := by decide +kernel
    foreign := by decide +kernel
    key := by decide +kernel
    fields := by decide +kernel
    choices := by decide +kernel
    copied := by decide +kernel }
  have hchecked :
      ∀ entry ∈ Validator.ruledFields (config.rules.table? "stock"), InSmall entry.1 := by
    rw [Configuration.rules_of_make hmake]
    decide +kernel
  exact ⟨config, hmake, htable, hsmall, hchecked, smallColumns_stockItems,
    capitalized_indistinguishable hmake htable hsmall hchecked smallColumns_stockItems⟩

end RecordDesk

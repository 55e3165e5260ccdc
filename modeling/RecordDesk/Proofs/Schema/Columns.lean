import RecordDesk.Proofs.Json.Written
import RecordDesk.Proofs.Schema.Generated

/-
  The columns of a schema and what is generated of them. A column that the schema describes is
  completed and stands in the table of its name (`table_of_describes`), and the form field and the
  list column that go by its name are made of it if it is shown (`formField?_definition`,
  `listColumn?_definition`).
-/

namespace RecordDesk.Schema

/-! ## Reading -/

/-- A column as it was read and completed. -/
def ReadAs (default : String) (entry : String × Value) (c : NamedColumn) : Prop :=
  c.name = entry.1 ∧ ∃ spec, Document.ofValue? Document.columnSpec entry.2 = some spec ∧
    c.spec = spec.completed entry.1 default

theorem readAs_of_readColumns {table default : String} {t : TableSpec} {columns : List NamedColumn}
    (h : readColumns table default t = .ok columns) :
    List.Forall₂ (ReadAs default) t.columns columns := by
  refine (mapM_eq_ok.1 h).imp ?_
  rintro ⟨name, raw⟩ c hc
  dsimp only at hc
  split at hc
  · next spec hspec =>
    obtain rfl := Except.ok.inj hc
    exact ⟨rfl, spec, hspec, rfl⟩
  · cases hc

theorem nodup_of_orElse {w? : Option Written} {fields : List (String × Value)}
    (h : Document.orElse Document.entries [] w? = some fields) : (fields.map Prod.fst).Nodup := by
  cases w? with
  | none => exact Option.some.inj h ▸ List.nodup_nil
  | some w =>
    change Document.entries w = some fields at h
    unfold Document.entries at h
    split at h
    · next fields' hfields =>
      obtain rfl := Option.some.inj h
      exact Written.nodup_of_value? hfields
    · cases h

/-- No column of a table is described twice. -/
theorem nodup_of_tableSpec {w : Written} {t : TableSpec} (h : Document.tableSpec w = some t) :
    (t.columns.map Prod.fst).Nodup := by
  obtain ⟨given, -, h⟩ := Option.bind_eq_some_iff.1 h
  split at h
  · simp only [bind_eq_some] at h
    obtain ⟨metadata, -, columns, hcolumns, heq⟩ := h
    obtain rfl := Option.some.inj heq
    exact nodup_of_orElse hcolumns
  · cases h

/-- No table of a schema is described twice. -/
theorem nodup_of_schema {w : Written} {s : Schema} (h : Document.schema w = some s) :
    (s.tables.map Prod.fst).Nodup := by
  obtain ⟨given, -, h⟩ := Option.bind_eq_some_iff.1 h
  split at h
  · simp only [bind_eq_some] at h
    obtain ⟨project, -, tables, htables, heq⟩ := h
    obtain rfl := Option.some.inj heq
    exact nodup_of_orElse htables
  · cases h

/-- No column that was read has the name of another. -/
theorem nodup_of_readColumns {table default : String} {raw : Value} {t : TableSpec}
    {columns : List NamedColumn} (ht : Document.ofValue? Document.tableSpec raw = some t)
    (h : readColumns table default t = .ok columns) : (columns.map (·.name)).Nodup := by
  have hnames : columns.map (·.name) = t.columns.map Prod.fst := by
    rw [← List.forall₂_eq_eq_eq, List.forall₂_map_left_iff, List.forall₂_map_right_iff]
    exact (readAs_of_readColumns h).flip.imp fun _ _ hc => hc.1
  exact hnames ▸ nodup_of_tableSpec ht

theorem hidden_completed (spec : ColumnSpec) (name default : String) :
    (spec.completed name default).ui.hidden = spec.ui.hidden := rfl

/-! ## Definitions -/

section

variable {name default : String} {t : TableSpec} {columns : List NamedColumn} {c : NamedColumn}

theorem name_formField (c : NamedColumn) : (formField c).name = c.name := by
  simp only [formField]
  split <;> rfl

theorem kind_formField (c : NamedColumn) :
    (formField c).kind = InputKind.ofName (c.spec.ui.inputType.getD "text") := by
  simp only [formField]
  split <;> rfl

theorem label_formField (c : NamedColumn) : (formField c).label = c.spec.labels := by
  simp only [formField]
  split <;> rfl

/-- Only a selection has choices, those of the table that its column refers to. -/
theorem options_formField (c : NamedColumn) : (formField c).options =
    if (formField c).kind = .select then c.spec.foreignKey.map (choices c.spec) else none := by
  rw [kind_formField]
  simp only [formField]
  generalize InputKind.ofName (c.spec.ui.inputType.getD "text") = kind
  cases kind <;> rfl

/-- What is made of a shown column stands under its name. -/
theorem find?_visible {α : Type} {make : NamedColumn → α} {nameOf : α → String}
    (hname : ∀ c, nameOf (make c) = c.name) (hnodup : (columns.map (·.name)).Nodup)
    (hc : c ∈ columns) (hshown : c.spec.ui.hidden = false) :
    ((visible columns).map make).find? (nameOf · == c.name) = some (make c) := by
  have hnames : (((visible columns).map make).map nameOf).Nodup := by
    rw [List.map_map, show nameOf ∘ make = NamedColumn.name from funext hname]
    exact hnodup.sublist (List.filter_sublist.map _)
  have hmem : make c ∈ (visible columns).map make :=
    List.mem_map_of_mem (List.mem_filter.2 ⟨hc, by rw [hshown]; rfl⟩)
  rw [← hname c]
  exact Dict.find?_of_nodup hnames hmem

theorem formField?_definition (hnodup : (columns.map (·.name)).Nodup) (hc : c ∈ columns)
    (hshown : c.spec.ui.hidden = false) :
    (definition name default t columns).formField? c.name = some (formField c) :=
  find?_visible name_formField hnodup hc hshown

theorem listColumn?_definition (hnodup : (columns.map (·.name)).Nodup) (hc : c ∈ columns)
    (hshown : c.spec.ui.hidden = false) :
    (definition name default t columns).listColumn? c.name = some (listColumn c) :=
  find?_visible (fun _ => rfl) hnodup hc hshown

end

/-! ## Described columns -/

/-- The schema describes a column of a table. -/
def Describes (s : Schema) (table column : String) (spec : ColumnSpec) : Prop :=
  ∃ raw t given, (table, raw) ∈ s.tables ∧ Document.ofValue? Document.tableSpec raw = some t ∧
    (column, given) ∈ t.columns ∧ Document.ofValue? Document.columnSpec given = some spec

variable {s : Schema} {time : String} {g : Generated}

/-- Every generated table is the definition of columns with distinct names. -/
theorem definition_of_generate (h : s.generate time = .ok g) {entry : String × Table}
    (hentry : entry ∈ g.tables.tables.entries) :
    ∃ t columns, entry.2 = definition entry.1 s.project.defaultLanguage t columns ∧
      (columns.map (·.name)).Nodup := by
  obtain ⟨made, hmade, htables, -⟩ := generate_eq_ok h
  rw [htables] at hentry
  obtain ⟨⟨name, t, r⟩, hm, rfl⟩ := List.mem_map.1 (Dict.mem_of_mem_ofList hentry)
  obtain ⟨⟨other, raw⟩, -, hname, htable⟩ := exists_of_forall₂ hmade hm
  obtain rfl : name = other := hname
  obtain ⟨spec, columns, _, hspec, hcolumns, ht, -⟩ := generateTable_eq_ok.1 htable
  exact ⟨spec, columns, ht, nodup_of_readColumns hspec hcolumns⟩

/-- A column that is described stands completed in the table that is generated, and if it is shown
its form field and its list column stand there under its name. -/
theorem table_of_describes {w : Written} (hw : Document.schema w = some s)
    (h : s.generate time = .ok g) {table column : String} {spec : ColumnSpec}
    (hd : s.Describes table column spec) (hshown : spec.ui.hidden = false) :
    ∃ t, g.tables.tables.get? table = some t ∧
      schemaColumn ⟨column, spec.completed column s.project.defaultLanguage⟩ ∈ t.columns ∧
      t.formField? column =
        some (formField ⟨column, spec.completed column s.project.defaultLanguage⟩) ∧
      t.listColumn? column =
        some (listColumn ⟨column, spec.completed column s.project.defaultLanguage⟩) := by
  obtain ⟨raw, t, given, hmem, ht, hcolumn, hspec⟩ := hd
  obtain ⟨_, _, htable, hget, -⟩ := table_of_generate h (nodup_of_schema hw) hmem
  obtain ⟨t', columns, _, ht', hcolumns, rfl, -⟩ := generateTable_eq_ok.1 htable
  obtain rfl := Option.some.inj (ht.symm.trans ht')
  have hnodup := nodup_of_readColumns ht hcolumns
  obtain ⟨⟨name, spec'⟩, hnamed, hname, spec₀, hspec₀, hcompleted⟩ :=
    exists_of_forall₂ (readAs_of_readColumns hcolumns).flip hcolumn
  obtain rfl := Option.some.inj (hspec.symm.trans hspec₀)
  dsimp only at hname hcompleted
  rw [hname, hcompleted] at hnamed
  exact ⟨_, hget, List.mem_map_of_mem hnamed, formField?_definition hnodup hnamed hshown,
    listColumn?_definition hnodup hnamed hshown⟩

end RecordDesk.Schema

import RecordDesk.Document.Rules
import RecordDesk.Document.Table
import RecordDesk.Proofs.Document.Fields

/-
  The documents of all tables and of all rules, written and read again (`books_survive`). Rules are
  read as they were. Tables are too, but for the primary key: where it names no column, none is
  written, and what is read names `id`, the column that the key had all along.
-/

namespace RecordDesk

/-! ## Rules -/

theorem RuleKind.eq_of_ofName {name other : String} (h : ofName name = .other other) :
    name = other := by
  unfold ofName at h
  split at h <;> first | exact RuleKind.other.inj h | cases h

theorem RuleKind.ofName_name (name : String) : ofName (ofName name).name = ofName name := by
  cases h : ofName name with
  | other other =>
    obtain rfl := eq_of_ofName h
    exact h
  | _ => rfl

namespace Document

theorem stable_rule : Stable rule ofRule := by
  refine settles_object (fun r => [("type", some (.str r.kind.name)), ("value", r.value),
      ("message", some (.str r.message))])
    (by decide) (fun _ => rfl) (fun r => ?_) (fun _ => rfl) ?_
  · simp only [ofRule, always_eq, written_cons, written_nil, List.append_assoc,
      List.append_nil]
  intro given r h
  split at h
  · simp only [bind_eq_some] at h
    obtain ⟨name, hname, value, hvalue, message, hmessage, heq⟩ := h
    obtain rfl := Option.some.inj heq
    exact bind_some rfl <|
      bind_some (optional_any hvalue) <|
      bind_some (orElse_always stable_text ⟨.str _, rfl⟩ hmessage) (by simp [RuleKind.ofName_name])
  · cases h

theorem stable_fieldRules : Stable fieldRules ofFieldRules := by
  refine settles_object (fun f => [("name", some (.str f.name)),
      ("rules", some (.arr (f.rules.map ofRule))), ("realtime", some (.bool f.realtime))])
    (by decide) (fun _ => rfl) (fun _ => rfl) (fun _ => rfl) ?_
  intro given f h
  split at h
  · simp only [bind_eq_some] at h
    obtain ⟨name, hname, rules, hrules, realtime, hrealtime, heq⟩ := h
    obtain rfl := Option.some.inj heq
    exact bind_some (orElse_always stable_text ⟨.str _, rfl⟩ hname) <|
      bind_some (orElse_always (stable_list stable_rule) readable_nil hrules) <|
      bind_some (orElse_always stable_flag ⟨.bool _, rfl⟩ hrealtime) rfl
  · cases h

theorem readable_empty {α : Type} {part : Reader α} : Readable (dict part) .empty :=
  ⟨.obj [], rfl⟩

theorem stable_tableRules : Stable tableRules ofTableRules := by
  refine settles_object (fun t => [("name", some (.str t.name)),
      ("fields", some (ofDict ofFieldRules t.fields)), ("rules", some (.arr t.across))])
    (by decide) (fun _ => rfl) (fun _ => rfl) (fun _ => rfl) ?_
  intro given t h
  split at h
  · simp only [bind_eq_some] at h
    obtain ⟨name, hname, fields, hfields, across, hacross, heq⟩ := h
    obtain rfl := Option.some.inj heq
    exact bind_some (orElse_always stable_text ⟨.str _, rfl⟩ hname) <|
      bind_some (orElse_always (stable_dict stable_fieldRules) readable_empty hfields) <|
      bind_some (orElse_always stable_anyList readable_nil hacross) rfl
  · cases h

theorem stable_ruleBook : Stable ruleBook ofRuleBook := by
  refine settles_object (fun b => [("version", some (.str b.version)),
      ("generated", b.generated.map .str), ("tables", some (ofDict ofTableRules b.tables))])
    (by decide) (fun _ => rfl) (fun b => ?_) (fun _ => rfl) ?_
  · simp only [ofRuleBook, always_eq, written_cons, written_nil, List.append_assoc,
      List.append_nil]
  intro given b h
  split at h
  · simp only [bind_eq_some] at h
    obtain ⟨version, hversion, generated, hgenerated, tables, htables, heq⟩ := h
    obtain rfl := Option.some.inj heq
    exact bind_some (orElse_always stable_text ⟨.str _, rfl⟩ hversion) <|
      bind_some (optional_given stable_text rfl hgenerated) <|
      bind_some (orElse_always (stable_dict stable_tableRules) readable_empty htables) (by simp)
  · cases h

end Document

/-! ## Primary keys -/

namespace PrimaryKey

/-- Keys of the same columns, both composite or neither. -/
structure Alike (k l : PrimaryKey) : Prop where
  columns : k.columns = l.columns
  isComposite : k.isComposite = l.isComposite

/-- A key that names the column that it has without one. -/
def settled (k : PrimaryKey) : PrimaryKey := { k with column := some (k.column.getD "id") }

theorem settled_settled (k : PrimaryKey) : k.settled.settled = k.settled := rfl

theorem alike_settled (k : PrimaryKey) : k.Alike k.settled := ⟨rfl, rfl⟩

end PrimaryKey

namespace Document

theorem stable_keyKind : Stable keyKind fun kind => .str kind.name := by
  rintro kind -
  cases kind <;> rfl

theorem settles_primaryKey : Settles primaryKey ofPrimaryKey PrimaryKey.settled := by
  refine settles_object (fun k => [("type", some (.str k.kind.name)),
      ("column", k.column.map .str), ("columns", filled (texts k.listed))])
    (by decide) (fun _ => rfl) (fun k => ?_) (fun _ => rfl) ?_
  · simp only [ofPrimaryKey, always_eq, nonEmpty_eq, written_cons, written_nil, List.append_assoc,
      List.append_nil]
  intro given k h
  split at h
  · simp only [bind_eq_some] at h
    obtain ⟨kind, hkind, column, hcolumn, listed, hlisted, heq⟩ := h
    obtain rfl := Option.some.inj heq
    -- null is a column that may be given, but it is not written: the default is read in its place
    have hsettled : orElse (nullable text) (some "id")
        ((column.map Value.str).map Written.ofValue) = some (some (column.getD "id")) := by
      cases column <;> rfl
    exact bind_some (orElse_always stable_keyKind ⟨.str "single", rfl⟩ hkind) <|
      bind_some hsettled <|
      bind_some (orElse_nonEmpty stable_text hlisted) (by simp [PrimaryKey.settled])
  · cases h

/-! ## Tables -/

theorem stable_project : Stable project ofProject := by
  refine settles_object (fun p => [("name", some (.str p.name)),
      ("defaultLanguage", some (.str p.defaultLanguage)),
      ("supportedLanguages", some (.arr (texts p.languages)))])
    (by decide) (fun _ => rfl) (fun _ => rfl) (fun _ => rfl) ?_
  intro given p h
  split at h
  · simp only [bind_eq_some] at h
    obtain ⟨name, hname, language, hlanguage, languages, hlanguages, heq⟩ := h
    obtain rfl := Option.some.inj heq
    exact bind_some (orElse_always stable_text ⟨.str _, rfl⟩ hname) <|
      bind_some (orElse_always stable_text ⟨.str _, rfl⟩ hlanguage) <|
      bind_some (orElse_always (stable_list stable_text) ⟨.arr [.str "ja", .str "en"], rfl⟩
        hlanguages) rfl
  · cases h

theorem stable_tableMetadata : Stable tableMetadata ofTableMetadata := by
  refine settles_object (fun m => [("icon", some (.str m.icon)), ("color", some (.str m.color)),
      ("sortOrder", some (.int m.sortOrder)), ("category", some (.str m.category)),
      ("labels", some (ofLocalized m.labels)), ("description", some (ofLocalized m.description))])
    (by decide) (fun _ => rfl) (fun _ => rfl) (fun _ => rfl) ?_
  intro given m h
  split at h
  · simp only [bind_eq_some] at h
    obtain ⟨icon, hicon, color, hcolor, sortOrder, hsortOrder, category, hcategory, labels, hlabels,
      description, hdescription, heq⟩ := h
    obtain rfl := Option.some.inj heq
    exact bind_some (orElse_always stable_text ⟨.str _, rfl⟩ hicon) <|
      bind_some (orElse_always stable_text ⟨.str _, rfl⟩ hcolor) <|
      bind_some (orElse_always stable_int64 ⟨.int 0, rfl⟩ hsortOrder) <|
      bind_some (orElse_always stable_text ⟨.str _, rfl⟩ hcategory) <|
      bind_some (orElse_always stable_localized readable_localized hlabels) <|
      bind_some (orElse_always stable_localized readable_localized hdescription) rfl
  · cases h

theorem stable_schemaColumn : Stable schemaColumn ofSchemaColumn := by
  refine settles_object (fun c => [("name", some (.str c.name)), ("type", some (.str c.sqlType)),
      ("constraints", some c.constraints), ("labels", some (ofLocalized c.labels)),
      ("ui", some c.ui), ("validation", some c.validation), ("foreignKey", c.foreignKey)])
    (by decide) (fun _ => rfl) (fun c => ?_) (fun _ => rfl) ?_
  · simp only [ofSchemaColumn, always_eq, written_cons, written_nil, List.append_assoc,
      List.append_nil]
  intro given c h
  split at h
  · simp only [bind_eq_some] at h
    obtain ⟨name, hname, sqlType, hsqlType, constraints, hconstraints, labels, hlabels, ui, hui,
      validation, hvalidation, foreign, hforeign, heq⟩ := h
    obtain rfl := Option.some.inj heq
    exact bind_some (orElse_always stable_text ⟨.str _, rfl⟩ hname) <|
      bind_some (orElse_always stable_text ⟨.str _, rfl⟩ hsqlType) <|
      bind_some (orElse_always stable_any ⟨.null, rfl⟩ hconstraints) <|
      bind_some (orElse_always stable_localized readable_localized hlabels) <|
      bind_some (orElse_always stable_any ⟨.null, rfl⟩ hui) <|
      bind_some (orElse_always stable_any ⟨.null, rfl⟩ hvalidation) <|
      bind_some (optional_any hforeign) rfl
  · cases h

end Document

namespace Table

/-- Tables that are equal in every field, with keys that are alike. -/
structure Alike (t u : Table) : Prop where
  name : t.name = u.name
  metadata : t.metadata = u.metadata
  key : Option.Rel PrimaryKey.Alike t.key u.key
  columns : t.columns = u.columns
  formFields : t.formFields = u.formFields
  listColumns : t.listColumns = u.listColumns
  searchable : t.searchable = u.searchable
  sortable : t.sortable = u.sortable

/-- A table with its key settled. -/
def settled (t : Table) : Table := { t with key := t.key.map PrimaryKey.settled }

theorem settled_settled (t : Table) : t.settled.settled = t.settled := by
  simp [settled, Function.comp_def, PrimaryKey.settled_settled]

theorem alike_settled (t : Table) : t.Alike t.settled where
  name := rfl
  metadata := rfl
  key := by
    rw [settled]
    cases t.key with
    | none => exact .none
    | some k => exact .some k.alike_settled
  columns := rfl
  formFields := rfl
  listColumns := rfl
  searchable := rfl
  sortable := rfl

end Table

namespace Document

theorem settles_table : Settles table ofTable Table.settled := by
  refine settles_object (fun t => [("name", some (.str t.name)),
      ("metadata", some (ofTableMetadata t.metadata)), ("primaryKey", t.key.map ofPrimaryKey),
      ("columns", filled (t.columns.map ofSchemaColumn)),
      ("formFields", some (.arr (t.formFields.map ofFormField))),
      ("listColumns", some (.arr (t.listColumns.map ofListColumn))),
      ("searchableColumns", some (.arr (texts t.searchable))),
      ("sortableColumns", some (.arr (texts t.sortable)))])
    (by decide) (fun _ => rfl) (fun t => ?_) (fun _ => rfl) ?_
  · simp only [ofTable, always_eq, nonEmpty_eq, written_cons, written_nil, List.append_assoc,
      List.append_nil]
  intro given t h
  split at h
  · simp only [bind_eq_some] at h
    obtain ⟨name, hname, metadata, hmetadata, key, hkey, columns, hcolumns, formFields, hformFields,
      listColumns, hlistColumns, searchable, hsearchable, sortable, hsortable, heq⟩ := h
    obtain rfl := Option.some.inj heq
    exact bind_some (orElse_always stable_text ⟨.str _, rfl⟩ hname) <|
      bind_some (orElse_always stable_tableMetadata ⟨.obj [], rfl⟩ hmetadata) <|
      bind_some (optional_given settles_primaryKey rfl hkey) <|
      bind_some (orElse_nonEmpty stable_schemaColumn hcolumns) <|
      bind_some (orElse_always (stable_list stable_formField) readable_nil hformFields) <|
      bind_some (orElse_always (stable_list stable_listColumn) readable_nil hlistColumns) <|
      bind_some (orElse_always (stable_list stable_text) readable_nil hsearchable) <|
      bind_some (orElse_always (stable_list stable_text) readable_nil hsortable)
        (by simp [Table.settled])
  · cases h

end Document

/-! ## Books -/

namespace TableBook

/-- Books that are equal in every field, with tables that are alike under the same names. -/
structure Alike (b c : TableBook) : Prop where
  version : b.version = c.version
  generated : b.generated = c.generated
  project : b.project = c.project
  tables : List.Forall₂ (fun t u => t.1 = u.1 ∧ t.2.Alike u.2) b.tables.entries c.tables.entries

/-- A book with the keys of its tables settled. -/
def settled (b : TableBook) : TableBook :=
  { b with tables := Document.settleDict Table.settled b.tables }

theorem settled_settled (b : TableBook) : b.settled.settled = b.settled := by
  simp [settled, Document.settleDict, Dict.map, Function.comp_def, Table.settled_settled]

theorem alike_settled (b : TableBook) : b.Alike b.settled where
  version := rfl
  generated := rfl
  project := rfl
  tables := by
    change List.Forall₂ _ b.tables.entries (b.tables.entries.map fun (k, t) => (k, t.settled))
    rw [List.forall₂_map_right_iff, List.forall₂_same]
    exact fun entry _ => ⟨rfl, entry.2.alike_settled⟩

end TableBook

namespace Document

theorem settles_tableBook : Settles tableBook ofTableBook TableBook.settled := by
  refine settles_object (fun b => [("version", some (.str b.version)),
      ("generated", b.generated.map .str), ("project", some (ofProject b.project)),
      ("tables", some (ofDict ofTable b.tables))])
    (by decide) (fun _ => rfl) (fun b => ?_) (fun _ => rfl) ?_
  · simp only [ofTableBook, always_eq, written_cons, written_nil, List.append_assoc,
      List.append_nil]
  intro given b h
  split at h
  · simp only [bind_eq_some] at h
    obtain ⟨version, hversion, generated, hgenerated, settings, hsettings, tables, htables,
      heq⟩ := h
    obtain rfl := Option.some.inj heq
    exact bind_some (orElse_always stable_text ⟨.str _, rfl⟩ hversion) <|
      bind_some (optional_given stable_text rfl hgenerated) <|
      bind_some (orElse_always stable_project ⟨.obj [], rfl⟩ hsettings) <|
      bind_some (orElse_always (settles_dict settles_table) readable_empty htables)
        (by simp [TableBook.settled])
  · cases h

/-- What is read as the document of all tables or of all rules is read again of what is written for
it: tables alike, and from then on unchanged; rules as they were. -/
theorem books_survive (w : Written) :
    (∀ b, tableBook w = some b → ∃ c, ofValue? tableBook (ofTableBook b) = some c ∧ b.Alike c ∧
      ofValue? tableBook (ofTableBook c) = some c) ∧
    ∀ b, ruleBook w = some b → ofValue? ruleBook (ofRuleBook b) = some b := by
  constructor
  · intro b hb
    have hread := settles_tableBook b ⟨w, hb⟩
    refine ⟨b.settled, hread, b.alike_settled, ?_⟩
    rw [settles_tableBook b.settled ⟨_, hread⟩, b.settled_settled]
  · exact fun b hb => stable_ruleBook b ⟨w, hb⟩

/-- A document of tables with a key that names no column, a directive written as an array, a copy
under its other names and a field that nobody knows. -/
def looseTables : Written :=
  let copies := .arr [.arr [.str "price", .str "cost"],
    .obj [("from", .str "unit"), ("targetField", .str "unit")]]
  let supplier := .obj [("name", .str "supplier"), ("type", .str "select"), ("hint", .null),
    ("autofill", .arr [.bool true, .str "suppliers", .str "id", copies])]
  .obj [("tables", .obj [("orders",
    .obj [("primaryKey", .obj [("column", .null)]), ("formFields", .arr [supplier])])])]

/-- A document of rules, some of them written as arrays. -/
def looseRules : Written :=
  let rules := .arr [.arr [.str "required"], .obj [("type", .str "max"), ("value", .null)]]
  .obj [("tables",
    .obj [("orders", .arr [.str "orders", .obj [("supplier", .arr [.str "", rules])]])])]

theorem books_survive_loose :
    (∃ b c, tableBook looseTables = some b ∧ ofValue? tableBook (ofTableBook b) = some c ∧
      b.Alike c ∧ ofValue? tableBook (ofTableBook c) = some c) ∧
    ∃ b, ruleBook looseRules = some b ∧ ofValue? ruleBook (ofRuleBook b) = some b := by
  obtain ⟨b, hb⟩ := Option.isSome_iff_exists.1 (by decide +kernel : (tableBook looseTables).isSome)
  obtain ⟨r, hr⟩ := Option.isSome_iff_exists.1 (by decide +kernel : (ruleBook looseRules).isSome)
  obtain ⟨c, hc⟩ := (books_survive looseTables).1 b hb
  exact ⟨⟨b, c, hb, hc⟩, r, hr, (books_survive looseRules).2 r hr⟩

end Document

end RecordDesk

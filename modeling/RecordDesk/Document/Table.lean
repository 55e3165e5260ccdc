import RecordDesk.Document.PrimaryKey
import RecordDesk.Document.FormField
import RecordDesk.Document.ListColumn
import RecordDesk.Error

/-
  Tables: everything a screen needs to know of one table, and the document that holds all tables
  of a project.
-/

namespace RecordDesk

/-- Settings shared by all tables of a project. -/
structure Project where
  name : String
  defaultLanguage : String
  languages : List String
deriving DecidableEq, Repr

/-- How a table is presented. -/
structure TableMetadata where
  icon : String
  color : String
  sortOrder : Int
  category : String
  labels : Localized
  description : Localized

/-- Directives of a schema column, carried along as they were given. -/
structure SchemaColumn where
  name : String
  sqlType : String
  constraints : Value
  labels : Localized
  ui : Value
  validation : Value
  foreignKey : Option Value

/-- The screen configuration of one table. -/
structure Table where
  name : String
  metadata : TableMetadata
  key : Option PrimaryKey
  columns : List SchemaColumn
  formFields : List FormField
  listColumns : List ListColumn
  searchable : List String
  sortable : List String

/-- The document of all tables. -/
structure TableBook where
  version : String
  generated : Option String
  project : Project
  tables : Dict Table

namespace Project

/-- A nameless project in Japanese and English. -/
def default : Project := ⟨"", "ja", ["ja", "en"]⟩

end Project

namespace TableMetadata

/-- A filing cabinet among the general tables. -/
def default : TableMetadata := ⟨"🗄️", "#4A90E2", 0, "general", .empty, .empty⟩

end TableMetadata

namespace Table

/-- A nameless table without columns. -/
def default : Table := ⟨"", .default, none, [], [], [], [], []⟩

/-- The primary key; a single `id` column where none is given. -/
def primaryKey (t : Table) : PrimaryKey := t.key.getD (.single "id")

/-- The form field of a name, the first if there are several. -/
def formField? (t : Table) (name : String) : Option FormField :=
  t.formFields.find? (·.name == name)

/-- The list column of a name, the first if there are several. -/
def listColumn? (t : Table) (name : String) : Option ListColumn :=
  t.listColumns.find? (·.name == name)

/-- The label in a language, or the table's name. -/
def label (t : Table) (language default : String) : String :=
  (t.metadata.labels.resolve? language default).getD t.name

/-- The description in a language. -/
def description? (t : Table) (language default : String) : Option String :=
  t.metadata.description.resolve? language default

end Table

namespace TableBook

/-- No tables. -/
def default : TableBook := ⟨"", none, .default, .empty⟩

/-- The definition stored under a name. -/
def table (b : TableBook) (name : String) : Except Error Table :=
  match b.tables.get? name with
  | some t => .ok t
  | none => .error (.notFound "table" name)

/-- One table comes before another, or shares its place: by sort order, then by name. -/
def displayedBefore (a b : Table) : Bool :=
  if a.metadata.sortOrder = b.metadata.sortOrder then !(b.name < a.name)
  else a.metadata.sortOrder < b.metadata.sortOrder

/-- The tables in the order in which they are displayed. -/
def inDisplayOrder (b : TableBook) : List Table :=
  b.tables.values.mergeSort displayedBefore

end TableBook

/-! ## Documents -/

namespace Document

/-- Project settings. -/
def project : Reader Project := fun w => do
  let [name, defaultLanguage, languages] ←
    slots [["name"], ["defaultLanguage"], ["supportedLanguages"]] w | none
  return {
    name := ← orElse text Project.default.name name
    defaultLanguage := ← orElse text Project.default.defaultLanguage defaultLanguage
    languages := ← orElse (list text) Project.default.languages languages }

/-- The presentation of a table. -/
def tableMetadata : Reader TableMetadata := fun w => do
  let [icon, color, sortOrder, category, labels, description] ←
    slots [["icon"], ["color"], ["sortOrder"], ["category"], ["labels"], ["description"]] w | none
  return {
    icon := ← orElse text TableMetadata.default.icon icon
    color := ← orElse text TableMetadata.default.color color
    sortOrder := ← orElse int64 TableMetadata.default.sortOrder sortOrder
    category := ← orElse text TableMetadata.default.category category
    labels := ← orElse localized .empty labels
    description := ← orElse localized .empty description }

/-- A schema column. -/
def schemaColumn : Reader SchemaColumn := fun w => do
  let [name, sqlType, constraints, labels, ui, validation, foreign] ←
    slots [["name"], ["type"], ["constraints"], ["labels"], ["ui"], ["validation"],
      ["foreignKey"]] w | none
  return {
    name := ← orElse text "" name
    sqlType := ← orElse text "" sqlType
    constraints := ← orElse any .null constraints
    labels := ← orElse localized .empty labels
    ui := ← orElse any .null ui
    validation := ← orElse any .null validation
    foreignKey := ← optional any foreign }

/-- A table. -/
def table : Reader Table := fun w => do
  let [name, metadata, key, columns, formFields, listColumns, searchable, sortable] ←
    slots [["name"], ["metadata"], ["primaryKey"], ["columns"], ["formFields"], ["listColumns"],
      ["searchableColumns"], ["sortableColumns"]] w | none
  return {
    name := ← orElse text "" name
    metadata := ← orElse tableMetadata .default metadata
    key := ← optional primaryKey key
    columns := ← orElse (list schemaColumn) [] columns
    formFields := ← orElse (list formField) [] formFields
    listColumns := ← orElse (list listColumn) [] listColumns
    searchable := ← orElse (list text) [] searchable
    sortable := ← orElse (list text) [] sortable }

/-- The document of all tables. -/
def tableBook : Reader TableBook := fun w => do
  let [version, generated, settings, tables] ←
    slots [["version"], ["generated"], ["project"], ["tables"]] w | none
  return {
    version := ← orElse text "" version
    generated := ← optional text generated
    project := ← orElse project .default settings
    tables := ← orElse (dict table) .empty tables }

/-- Project settings as a document. -/
def ofProject (p : Project) : Value :=
  .obj (
    always "name" (.str p.name)
    ++ always "defaultLanguage" (.str p.defaultLanguage)
    ++ always "supportedLanguages" (.arr (texts p.languages)))

/-- The presentation of a table as a document. -/
def ofTableMetadata (m : TableMetadata) : Value :=
  .obj (
    always "icon" (.str m.icon)
    ++ always "color" (.str m.color)
    ++ always "sortOrder" (.int m.sortOrder)
    ++ always "category" (.str m.category)
    ++ always "labels" (ofLocalized m.labels)
    ++ always "description" (ofLocalized m.description))

/-- A schema column as a document. -/
def ofSchemaColumn (c : SchemaColumn) : Value :=
  .obj (
    always "name" (.str c.name)
    ++ always "type" (.str c.sqlType)
    ++ always "constraints" c.constraints
    ++ always "labels" (ofLocalized c.labels)
    ++ always "ui" c.ui
    ++ always "validation" c.validation
    ++ given "foreignKey" c.foreignKey)

/-- A table as a document. -/
def ofTable (t : Table) : Value :=
  .obj (
    always "name" (.str t.name)
    ++ always "metadata" (ofTableMetadata t.metadata)
    ++ given "primaryKey" (t.key.map ofPrimaryKey)
    ++ nonEmpty "columns" (t.columns.map ofSchemaColumn)
    ++ always "formFields" (.arr (t.formFields.map ofFormField))
    ++ always "listColumns" (.arr (t.listColumns.map ofListColumn))
    ++ always "searchableColumns" (.arr (texts t.searchable))
    ++ always "sortableColumns" (.arr (texts t.sortable)))

/-- The document of all tables as a value. -/
def ofTableBook (b : TableBook) : Value :=
  .obj (
    always "version" (.str b.version)
    ++ given "generated" (b.generated.map .str)
    ++ always "project" (ofProject b.project)
    ++ always "tables" (ofDict ofTable b.tables))

end Document

end RecordDesk

import RecordDesk.Schema.Enrich
import RecordDesk.Derive.Plan
import RecordDesk.Validation

/-
  Configuration generated from a schema: the tables with their forms and lists, the validation
  rules, and a catalog of messages for every language. A generated table must have a derivation
  plan.
-/

namespace RecordDesk

/-- Generated documents. -/
structure Generated where
  tables : TableBook
  rules : RuleBook
  messages : Dict Catalog

namespace Schema

/-- A named column with everything filled in. -/
structure NamedColumn where
  name : String
  spec : ColumnSpec

/-- The version of generated documents. -/
def version : String := "1.0.0"

/-! ## Columns -/

/-- The columns of a table, read and completed; the first fault counts. -/
def readColumns (table default : String) (t : TableSpec) : Except Error (List NamedColumn) :=
  t.columns.mapM fun (name, raw) =>
    match Document.ofValue? Document.columnSpec raw with
    | some c => .ok ⟨name, c.completed name default⟩
    | none => .error (.config ("invalid metadata for column '" ++ table ++ "." ++ name ++ "'"))

/-- A column as the table carries it along. -/
def schemaColumn (c : NamedColumn) : SchemaColumn where
  name := c.name
  sqlType := c.spec.sqlType
  constraints := Document.ofConstraints c.spec.constraints
  labels := c.spec.labels
  ui := Document.ofPresentation c.spec.ui
  validation := Document.ofDemands c.spec.validation
  foreignKey := c.spec.foreignKey.map Document.ofReference

/-- The choices of a column that refers to another table. -/
def choices (spec : ColumnSpec) (r : Reference) : ChoiceSource :=
  { ChoiceSource.foreignKey r.table r.column r.displayColumn with
    allowNull := spec.ui.allowNull.getD spec.constraints.nullable
    nullLabel := spec.ui.nullLabel }

/-- What every kind of form field has in common. -/
def plainField (c : NamedColumn) (kind : InputKind) : FormField :=
  let spec := c.spec
  { FormField.default with
    name := c.name
    kind
    label := spec.labels
    placeholder := spec.ui.placeholder
    required := spec.validation.required.getD !spec.constraints.nullable
    readonly := spec.ui.readonly || spec.constraints.autoIncrement
    disabled := spec.ui.disabled
    ui := if spec.ui.readonly then some ⟨false, true, none⟩ else none
    validation := if spec.validation.isEmpty then none
      else some (Document.ofDemands spec.validation)
    autofill := spec.autofill
    calculation := spec.calculation }

/-- The form field of a column. Bounds and lengths go to the kinds of input that know them. -/
def formField (c : NamedColumn) : FormField :=
  let spec := c.spec
  let kind := InputKind.ofName (spec.ui.inputType.getD "text")
  let field := plainField c kind
  match kind with
  | .number =>
    { field with min := spec.validation.min, max := spec.validation.max, step := spec.ui.step }
  | .text =>
    { field with minLength := spec.validation.minLength, maxLength := spec.validation.maxLength }
  | .textarea =>
    { field with
      minLength := spec.validation.minLength
      maxLength := spec.validation.maxLength
      rows := spec.ui.rows }
  | .select => { field with options := spec.foreignKey.map (choices spec) }
  | .checkbox =>
    { field with defaultValue := some (spec.constraints.default.getD (.bool false)) }
  | _ => field

/-- The list column of a column. -/
def listColumn (c : NamedColumn) : ListColumn :=
  let spec := c.spec
  let format := cellFormat? spec.sqlType
  { name := c.name
    label := spec.labels
    sqlType := spec.sqlType
    sortable := isSortable spec.sqlType
    searchable := isSearchable spec.sqlType
    width := spec.ui.width.getD "auto"
    align := spec.ui.align.getD "left"
    format
    decimalPlaces := if format = some .decimal then spec.scale else none
    foreignKey := spec.foreignKey.map fun r => ⟨r.table, r.displayColumn, r.column⟩ }

/-! ## Tables -/

/-- The primary key of columns; none if no column is part of one. -/
def primaryKey? (columns : List NamedColumn) : Option PrimaryKey :=
  match (columns.filter (·.spec.constraints.primaryKey)).map (·.name) with
  | [] => none
  | [name] => some (.single name)
  | names => some (.composite names)

/-- The columns that screens show. -/
def visible (columns : List NamedColumn) : List NamedColumn :=
  columns.filter (!·.spec.ui.hidden)

/-- The definition of a table. -/
def definition (name default : String) (t : TableSpec) (columns : List NamedColumn) : Table where
  name
  metadata := { t.metadata with labels := withLabel t.metadata.labels name default }
  key := primaryKey? columns
  columns := columns.map schemaColumn
  formFields := (visible columns).map formField
  listColumns := (visible columns).map listColumn
  searchable := (columns.filter fun c => isSearchable c.spec.sqlType).map (·.name)
  sortable := (columns.filter fun c => isSortable c.spec.sqlType).map (·.name)

/-! ## Rules -/

/-- The rule of a pattern, whose names are expanded. -/
def patternRule (pattern : String) : Rule :=
  let named : Rule := ⟨.pattern, some (.str pattern), ""⟩
  ⟨.pattern, some (.str (Pattern.expand pattern)), named.defaultKey⟩

/-- A rule with the message that its kind has by default. -/
def plainRule (kind : RuleKind) (value : Option Value) : Rule :=
  ⟨kind, value, (⟨kind, value, ""⟩ : Rule).defaultKey⟩

/-- The rules of a column. -/
def rules (spec : ColumnSpec) : List Rule :=
  let d := spec.validation
  let demanded := d.required == some true || !spec.constraints.nullable
  (if demanded then [plainRule .required none] else [])
    ++ (d.minLength.map fun n => plainRule .minLength (some (.int n))).toList
    ++ (d.maxLength.map fun n => plainRule .maxLength (some (.int n))).toList
    ++ (d.min.map fun x => plainRule .min (some (.float x))).toList
    ++ (d.max.map fun x => plainRule .max (some (.float x))).toList
    ++ (d.pattern.map patternRule).toList
    ++ (if spec.constraints.unique then [plainRule .unique none] else [])

/-- The rules of the columns that screens show, as far as they have any. -/
def tableRules (name : String) (columns : List NamedColumn) : TableRules :=
  let ruled := (visible columns).filter fun c => !(rules c.spec).isEmpty
  ⟨name, .ofList (ruled.map fun c =>
    (c.name, ⟨c.name, rules c.spec, c.spec.validation.realtime.getD true⟩)), []⟩

/-! ## Messages -/

/-- The messages of the rules in Japanese. -/
def japaneseMessages : List (String × String) := [
  ("validation.required", "この項目は必須です"),
  ("validation.min.length", "最低\x7b0\x7d文字以上入力してください"),
  ("validation.max.length", "\x7b0\x7d文字以内で入力してください"),
  ("validation.min.value", "\x7b0\x7d以上の値を入力してください"),
  ("validation.max.value", "\x7b0\x7d以下の値を入力してください"),
  ("validation.pattern.email", "有効なメールアドレスを入力してください"),
  ("validation.pattern.phone", "有効な電話番号を入力してください"),
  ("validation.pattern.url", "有効なURLを入力してください"),
  ("validation.pattern.invalid", "入力形式が正しくありません"),
  ("validation.unique", "この値は既に使用されています")]

/-- The messages of the rules in English, for all other languages. -/
def englishMessages : List (String × String) := [
  ("validation.required", "This field is required"),
  ("validation.min.length", "Please enter at least \x7b0\x7d characters"),
  ("validation.max.length", "Please enter no more than \x7b0\x7d characters"),
  ("validation.min.value", "Please enter a value of \x7b0\x7d or greater"),
  ("validation.max.value", "Please enter a value of \x7b0\x7d or less"),
  ("validation.pattern.email", "Please enter a valid email address"),
  ("validation.pattern.phone", "Please enter a valid phone number"),
  ("validation.pattern.url", "Please enter a valid URL"),
  ("validation.pattern.invalid", "Please enter a value in the correct format"),
  ("validation.unique", "This value is already in use")]

/-- The messages of a table in a language: its label, its description, and its columns' labels. -/
def tableMessages (language default : String) (entry : String × Table) :
    List (String × String) :=
  let (name, t) := entry
  let start := "table." ++ name
  (start ++ ".label", t.label language default)
    :: ((t.description? language default).map fun text => (start ++ ".description", text)).toList
    ++ t.columns.map fun c =>
      (start ++ ".column." ++ c.name ++ ".label",
        (c.labels.resolve? language default).getD (Text.titleCase c.name))

/-- The messages of a language. -/
def catalog (language default : String) (tables : Dict Table) : Catalog :=
  let rules := if language = "ja" then japaneseMessages else englishMessages
  ⟨.ofList (rules ++ tables.entries.flatMap (tableMessages language default))⟩

/-! ## Documents -/

/-- A table with its rules. -/
def generateTable (default name : String) (raw : Value) : Except Error (Table × TableRules) := do
  match Document.ofValue? Document.tableSpec raw with
  | none => .error (.config ("invalid metadata for table '" ++ name ++ "'"))
  | some t =>
    let columns ← readColumns name default t
    let table := definition name default t columns
    let _ ← Plan.ofTable table
    return (table, tableRules name columns)

/-- The documents of a schema, marked with the time of their making. -/
def generate (s : Schema) (time : String) : Except Error Generated := do
  let default := s.project.defaultLanguage
  let made ← s.tables.mapM fun (name, raw) => do
    let (table, rules) ← generateTable default name raw
    return (name, table, rules)
  let tables : Dict Table := .ofList (made.map fun (name, table, _) => (name, table))
  return {
    tables := ⟨version, some time, s.project, tables⟩
    rules := ⟨version, some time, .ofList (made.map fun (name, _, rules) => (name, rules))⟩
    messages := .ofList (s.project.languages.map fun l => (l, catalog l default tables)) }

end Schema

end RecordDesk

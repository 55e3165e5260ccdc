import RecordDesk.Document.Table

/-
  Schemas: the tables of a database with their columns, as a project describes them. Tables and
  columns keep the order in which they are declared, and what stands under their names is read
  only when it is needed, so that a fault can be told by the name of its table or column.
-/

namespace RecordDesk

/-- A schema document. -/
structure Schema where
  project : Project
  tables : List (String × Value)

namespace Schema

/-! ## Parts -/

/-- A table: its presentation and its columns. -/
structure TableSpec where
  metadata : TableMetadata
  columns : List (String × Value)

/-- The constraints of a column in the database. -/
structure Constraints where
  nullable : Bool
  primaryKey : Bool
  unique : Bool
  autoIncrement : Bool
  default : Option Value

/-- Directives of a column for the screen. -/
structure Presentation where
  hidden : Bool
  readonly : Bool
  disabled : Bool
  inputType : Option String
  placeholder : Localized
  step : Option Float
  rows : Option Nat
  allowNull : Option Bool
  nullLabel : Localized
  width : Option String
  align : Option String

/-- What the values of a column must satisfy. -/
structure Demands where
  required : Option Bool
  minLength : Option Nat
  maxLength : Option Nat
  min : Option Float
  max : Option Float
  pattern : Option String
  realtime : Option Bool

/-- The column of another table that a column refers to. -/
structure Reference where
  table : String
  column : String
  displayColumn : String
deriving DecidableEq, Repr

/-- A column. -/
structure ColumnSpec where
  sqlType : String
  constraints : Constraints
  labels : Localized
  ui : Presentation
  validation : Demands
  foreignKey : Option Reference
  autofill : Option Autofill
  calculation : Option Calculation
  scale : Option Nat

namespace Constraints

/-- A column that may be null and has no other constraint. -/
def relaxed : Constraints := ⟨true, false, false, false, none⟩

end Constraints

namespace Presentation

/-- No directives. -/
def default : Presentation :=
  ⟨false, false, false, none, .empty, none, none, none, .empty, none, none⟩

end Presentation

namespace Demands

/-- No demands. -/
def empty : Demands := ⟨none, none, none, none, none, none, none⟩

/-- Nothing is demanded of a value; when it is checked does not count. -/
def isEmpty (d : Demands) : Bool :=
  d.required.isNone && d.minLength.isNone && d.maxLength.isNone && d.min.isNone && d.max.isNone
    && d.pattern.isNone

end Demands

/-- The project of a schema that describes none. -/
def defaultProject : Project := ⟨"Generated CRUD System", "ja", ["ja", "en"]⟩

end Schema

/-! ## Documents -/

namespace Document

/-- An object of values that are read later. -/
def entries : Reader (List (String × Value)) := fun w =>
  match any w with
  | some (.obj fields) => some fields
  | _ => none

/-- The project of a schema. -/
def schemaProject : Reader Project := fun w => do
  let [name, defaultLanguage, languages] ←
    slots [["name"], ["defaultLanguage"], ["supportedLanguages"]] w | none
  return {
    name := ← orElse text Schema.defaultProject.name name
    defaultLanguage := ← orElse text Schema.defaultProject.defaultLanguage defaultLanguage
    languages := ← orElse (list text) Schema.defaultProject.languages languages }

/-- A schema document. -/
def schema : Reader Schema := fun w => do
  let [settings, tables] ← slots [["project"], ["tables"]] w | none
  return {
    project := ← orElse schemaProject Schema.defaultProject settings
    tables := ← orElse entries [] tables }

/-- A table of a schema. -/
def tableSpec : Reader Schema.TableSpec := fun w => do
  let [metadata, columns] ← slots [["metadata"], ["columns"]] w | none
  return {
    metadata := ← orElse tableMetadata .default metadata
    columns := ← orElse entries [] columns }

/-- The constraints of a column. -/
def constraints : Reader Schema.Constraints := fun w => do
  let [nullable, primaryKey, unique, autoIncrement, given] ←
    slots [["nullable"], ["primaryKey"], ["unique"], ["autoIncrement"], ["default"]] w | none
  return {
    nullable := ← orElse flag true nullable
    primaryKey := ← orElse flag false primaryKey
    unique := ← orElse flag false unique
    autoIncrement := ← orElse flag false autoIncrement
    default := ← optional any given }

/-- Directives of a column for the screen. -/
def presentation : Reader Schema.Presentation := fun w => do
  let [hidden, readonly, disabled, inputType, placeholder, step, rows, allowNull, nullLabel, width,
      align] ←
    slots [["hidden"], ["readonly"], ["disabled"], ["inputType"], ["placeholder"], ["step"],
      ["rows"], ["allowNull"], ["nullLabel"], ["width"], ["align"]] w | none
  return {
    hidden := ← orElse flag false hidden
    readonly := ← orElse flag false readonly
    disabled := ← orElse flag false disabled
    inputType := ← optional text inputType
    placeholder := ← orElse localized .empty placeholder
    step := ← optional double step
    rows := ← optional nat32 rows
    allowNull := ← optional flag allowNull
    nullLabel := ← orElse localized .empty nullLabel
    width := ← optional text width
    align := ← optional text align }

/-- What the values of a column must satisfy. -/
def demands : Reader Schema.Demands := fun w => do
  let [required, minLength, maxLength, min, max, pattern, realtime] ←
    slots [["required"], ["minLength"], ["maxLength"], ["min"], ["max"], ["pattern"],
      ["realtime"]] w | none
  return {
    required := ← optional flag required
    minLength := ← optional nat64 minLength
    maxLength := ← optional nat64 maxLength
    min := ← optional double min
    max := ← optional double max
    pattern := ← optional text pattern
    realtime := ← optional flag realtime }

/-- A reference to another table. -/
def reference : Reader Schema.Reference := fun w => do
  let [table, column, displayColumn] ←
    slots [["table"], ["column"], ["displayColumn"]] w | none
  return {
    table := ← required text table
    column := ← orElse text "id" column
    displayColumn := ← orElse text "name" displayColumn }

/-- A column of a schema. -/
def columnSpec : Reader Schema.ColumnSpec := fun w => do
  let [sqlType, bounds, labels, ui, validation, foreign, filled, computed, scale] ←
    slots [["type"], ["constraints"], ["labels"], ["ui"], ["validation"], ["foreignKey"],
      ["autofill"], ["autoCalculate"], ["scale"]] w | none
  return {
    sqlType := ← orElse text "" sqlType
    constraints := ← orElse constraints .relaxed bounds
    labels := ← orElse localized .empty labels
    ui := ← orElse presentation .default ui
    validation := ← orElse demands .empty validation
    foreignKey := ← optional reference foreign
    autofill := ← optional autofill filled
    calculation := ← optional calculation computed
    scale := ← optional nat32 scale }

/-- Text by language that is written unless there is none. -/
def unlessEmpty (name : String) (t : Localized) : List (String × Value) :=
  given name (if t.isEmpty then none else some (ofLocalized t))

/-- The constraints of a column as a document. -/
def ofConstraints (c : Schema.Constraints) : Value :=
  .obj (
    always "nullable" (.bool c.nullable)
    ++ always "primaryKey" (.bool c.primaryKey)
    ++ always "unique" (.bool c.unique)
    ++ always "autoIncrement" (.bool c.autoIncrement)
    ++ given "default" c.default)

/-- Directives of a column for the screen as a document. -/
def ofPresentation (p : Schema.Presentation) : Value :=
  .obj (
    always "hidden" (.bool p.hidden)
    ++ always "readonly" (.bool p.readonly)
    ++ always "disabled" (.bool p.disabled)
    ++ given "inputType" (p.inputType.map .str)
    ++ unlessEmpty "placeholder" p.placeholder
    ++ given "step" (p.step.map .float)
    ++ given "rows" (p.rows.map ofNat)
    ++ given "allowNull" (p.allowNull.map .bool)
    ++ unlessEmpty "nullLabel" p.nullLabel
    ++ given "width" (p.width.map .str)
    ++ given "align" (p.align.map .str))

/-- What the values of a column must satisfy, as a document. -/
def ofDemands (d : Schema.Demands) : Value :=
  .obj (
    given "required" (d.required.map .bool)
    ++ given "minLength" (d.minLength.map ofNat)
    ++ given "maxLength" (d.maxLength.map ofNat)
    ++ given "min" (d.min.map .float)
    ++ given "max" (d.max.map .float)
    ++ given "pattern" (d.pattern.map .str)
    ++ given "realtime" (d.realtime.map .bool))

/-- A reference to another table as a document. -/
def ofReference (r : Schema.Reference) : Value :=
  .obj (
    always "table" (.str r.table)
    ++ always "column" (.str r.column)
    ++ always "displayColumn" (.str r.displayColumn))

end Document

end RecordDesk

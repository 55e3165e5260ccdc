import RecordDesk.Document.Reading
import RecordDesk.Record.Basic

/-
  Form fields: what a form shows for a column and how the column's value comes about. A field may
  offer choices, copy columns of a chosen row into other fields, or be calculated by a formula.
-/

namespace RecordDesk

/-! ## Input kinds -/

/-- The input that a field is shown as. Names that are not known are kept. -/
inductive InputKind
  | text
  | email
  | tel
  | textarea
  | number
  | date
  | dateTime
  | checkbox
  | select
  | hidden
  | other (name : String)
deriving DecidableEq, Repr, Inhabited

namespace InputKind

/-- The name of an input kind in a document. -/
def name : InputKind → String
  | text => "text"
  | email => "email"
  | tel => "tel"
  | textarea => "textarea"
  | number => "number"
  | date => "date"
  | dateTime => "datetime-local"
  | checkbox => "checkbox"
  | select => "select"
  | hidden => "hidden"
  | other name => name

/-- The input kind of a name. -/
def ofName : String → InputKind
  | "text" => text
  | "email" => email
  | "tel" => tel
  | "textarea" => textarea
  | "number" => number
  | "date" => date
  | "datetime-local" | "datetime" => dateTime
  | "checkbox" => checkbox
  | "select" => select
  | "hidden" => hidden
  | name => other name

end InputKind

/-! ## Choices -/

/-- A choice listed in the document. -/
structure Choice where
  value : Value
  label : Localized

/-- Where the choices of a selection come from. -/
structure ChoiceSource where
  kind : Option String
  table : Option String
  valueColumn : String
  displayColumn : String
  allowNull : Bool
  nullLabel : Localized
  items : List Choice

namespace ChoiceSource

/-- No choices; a table would be read by its `id` and `name` columns. -/
def default : ChoiceSource := ⟨none, none, "id", "name", false, .empty, []⟩

/-- Choices taken from the rows of another table. -/
def foreignKey (table valueColumn displayColumn : String) : ChoiceSource :=
  { default with kind := some "foreign_key", table := some table, valueColumn, displayColumn }

/-- The table whose rows are the choices. -/
def foreignTable? (s : ChoiceSource) : Option String :=
  if s.kind = some "foreign_key" then s.table else none

end ChoiceSource

/-! ## Derived values -/

/-- A column of a source row and the field it is copied to. -/
structure ColumnCopy where
  source : String
  target : String
deriving DecidableEq, Repr

/-- Copies columns of the row that a selection stands for into other fields. -/
structure Autofill where
  enabled : Bool
  sourceTable : String
  sourceColumn : String
  copies : List ColumnCopy
deriving DecidableEq, Repr

/-- Recomputes a field when one of its triggers changes. Without a target the carrying field is
meant, without triggers the fields that the formula refers to. -/
structure Calculation where
  enabled : Bool
  formula : String
  target : Option String
  triggers : List String
deriving DecidableEq, Repr

/-! ## Fields -/

/-- A form makes a new record or edits one. -/
inductive FormMode
  | create
  | edit
deriving DecidableEq, Repr, Inhabited

namespace FormMode

/-- The name of a mode. -/
def name : FormMode → String
  | create => "create"
  | edit => "edit"

end FormMode

/-- Directives for the screen. -/
structure UiHints where
  hidden : Bool
  readonly : Bool
  inputType : Option String
deriving DecidableEq, Repr

/-- A field of a form. -/
structure FormField where
  name : String
  kind : InputKind
  label : Localized
  placeholder : Localized
  required : Bool
  readonly : Bool
  disabled : Bool
  hidden : Bool
  min : Option Float
  max : Option Float
  step : Option Float
  minLength : Option Nat
  maxLength : Option Nat
  rows : Option Nat
  defaultValue : Option Value
  options : Option ChoiceSource
  validation : Option Value
  ui : Option UiHints
  autofill : Option Autofill
  calculation : Option Calculation

namespace FormField

/-- A nameless text field without any directive. -/
def default : FormField where
  name := ""
  kind := .text
  label := .empty
  placeholder := .empty
  required := false
  readonly := false
  disabled := false
  hidden := false
  min := none
  max := none
  step := none
  minLength := none
  maxLength := none
  rows := none
  defaultValue := none
  options := none
  validation := none
  ui := none
  autofill := none
  calculation := none

/-- The conventional key field. -/
def isId (f : FormField) : Bool := isIdName f.name

/-- Hidden by its own flag, by its kind or by its screen directives. -/
def isHidden (f : FormField) : Bool :=
  f.hidden || f.kind == .hidden || f.ui.any (·.hidden)

/-- The field is shown: unless hidden, and unless it is the key of a record that does not exist
yet. -/
def isShown (f : FormField) (mode : FormMode) : Bool :=
  !((mode == .create && f.isId) || f.isHidden)

/-- Read-only by its screen directives. -/
def isUiReadonly (f : FormField) : Bool := f.ui.any (·.readonly)

/-- The label in a language, or the name. -/
def labelText (f : FormField) (language default : String) : String :=
  (f.label.resolve? language default).getD f.name

end FormField

/-! ## Documents -/

namespace Document

/-- An input kind by its name. -/
def inputKind : Reader InputKind := fun w => (text w).map InputKind.ofName

/-- A listed choice; its value must be given. -/
def choice : Reader Choice := fun w => do
  let [value, label] ← slots [["value"], ["label"]] w | none
  return { value := ← required any value, label := ← orElse localized .empty label }

/-- A source of choices. -/
def choiceSource : Reader ChoiceSource := fun w => do
  let [kind, table, valueColumn, displayColumn, allowNull, nullLabel, items] ←
    slots [["type"], ["table"], ["valueColumn"], ["displayColumn"], ["allowNull"], ["nullLabel"],
      ["items"]] w | none
  return {
    kind := ← optional text kind
    table := ← optional text table
    valueColumn := ← orElse text "id" valueColumn
    displayColumn := ← orElse text "name" displayColumn
    allowNull := ← orElse flag false allowNull
    nullLabel := ← orElse localized .empty nullLabel
    items := ← orElse (list choice) [] items }

/-- A column copy. Both ends have several accepted names. -/
def columnCopy : Reader ColumnCopy := fun w => do
  let [source, target] ←
    slots [["source", "from", "sourceColumn"], ["target", "to", "targetField"]] w | none
  return { source := ← required text source, target := ← required text target }

/-- An autofill directive. -/
def autofill : Reader Autofill := fun w => do
  let [enabled, sourceTable, sourceColumn, copies] ←
    slots [["enabled"], ["sourceTable"], ["sourceColumn"], ["mappings"]] w | none
  return {
    enabled := ← orElse flag true enabled
    sourceTable := ← required text sourceTable
    sourceColumn := ← orElse text "id" sourceColumn
    copies := ← orElse (list columnCopy) [] copies }

/-- A calculation directive. -/
def calculation : Reader Calculation := fun w => do
  let [enabled, formula, target, triggers] ←
    slots [["enabled"], ["formula"], ["targetField"], ["triggerFields"]] w | none
  return {
    enabled := ← orElse flag true enabled
    formula := ← required text formula
    target := ← optional text target
    triggers := ← orElse (list text) [] triggers }

/-- Directives for the screen. -/
def uiHints : Reader UiHints := fun w => do
  let [hidden, readonly, inputType] ← slots [["hidden"], ["readonly"], ["inputType"]] w | none
  return {
    hidden := ← orElse flag false hidden
    readonly := ← orElse flag false readonly
    inputType := ← optional text inputType }

/-- A form field. -/
def formField : Reader FormField := fun w => do
  let [name, kind, label, placeholder, required, readonly, disabled, hidden, min, max, step,
      minLength, maxLength, rows, defaultValue, options, validation, ui, filled, computed] ←
    slots [["name"], ["type"], ["label"], ["placeholder"], ["required"], ["readonly"],
      ["disabled"], ["hidden"], ["min"], ["max"], ["step"], ["minLength"], ["maxLength"],
      ["rows"], ["defaultValue"], ["options"], ["validation"], ["ui"], ["autofill"],
      ["autoCalculate"]] w | none
  return {
    name := ← orElse text "" name
    kind := ← orElse inputKind .text kind
    label := ← orElse localized .empty label
    placeholder := ← orElse localized .empty placeholder
    required := ← orElse flag false required
    readonly := ← orElse flag false readonly
    disabled := ← orElse flag false disabled
    hidden := ← orElse flag false hidden
    min := ← optional double min
    max := ← optional double max
    step := ← optional double step
    minLength := ← optional nat64 minLength
    maxLength := ← optional nat64 maxLength
    rows := ← optional nat32 rows
    defaultValue := ← optional any defaultValue
    options := ← optional choiceSource options
    validation := ← optional any validation
    ui := ← optional uiHints ui
    autofill := ← optional autofill filled
    calculation := ← optional calculation computed }

/-- A natural number as a value. -/
def ofNat (n : Nat) : Value := .int n

/-- A listed choice as a document. -/
def ofChoice (c : Choice) : Value :=
  .obj (always "value" c.value ++ always "label" (ofLocalized c.label))

/-- A source of choices as a document. -/
def ofChoiceSource (s : ChoiceSource) : Value :=
  .obj (
    given "type" (s.kind.map .str)
    ++ given "table" (s.table.map .str)
    ++ always "valueColumn" (.str s.valueColumn)
    ++ always "displayColumn" (.str s.displayColumn)
    ++ always "allowNull" (.bool s.allowNull)
    ++ always "nullLabel" (ofLocalized s.nullLabel)
    ++ nonEmpty "items" (s.items.map ofChoice))

/-- A column copy as a document. -/
def ofColumnCopy (c : ColumnCopy) : Value :=
  .obj (always "source" (.str c.source) ++ always "target" (.str c.target))

/-- An autofill directive as a document. -/
def ofAutofill (a : Autofill) : Value :=
  .obj (
    always "enabled" (.bool a.enabled)
    ++ always "sourceTable" (.str a.sourceTable)
    ++ always "sourceColumn" (.str a.sourceColumn)
    ++ always "mappings" (.arr (a.copies.map ofColumnCopy)))

/-- A calculation directive as a document. -/
def ofCalculation (c : Calculation) : Value :=
  .obj (
    always "enabled" (.bool c.enabled)
    ++ always "formula" (.str c.formula)
    ++ given "targetField" (c.target.map .str)
    ++ nonEmpty "triggerFields" (texts c.triggers))

/-- Directives for the screen as a document. -/
def ofUiHints (u : UiHints) : Value :=
  .obj (
    always "hidden" (.bool u.hidden)
    ++ always "readonly" (.bool u.readonly)
    ++ given "inputType" (u.inputType.map .str))

/-- A form field as a document. The `hidden` flag is written only where it is set. -/
def ofFormField (f : FormField) : Value :=
  .obj (
    always "name" (.str f.name)
    ++ always "type" (.str f.kind.name)
    ++ always "label" (ofLocalized f.label)
    ++ always "placeholder" (ofLocalized f.placeholder)
    ++ always "required" (.bool f.required)
    ++ always "readonly" (.bool f.readonly)
    ++ always "disabled" (.bool f.disabled)
    ++ given "hidden" (if f.hidden then some (.bool true) else none)
    ++ given "min" (f.min.map .float)
    ++ given "max" (f.max.map .float)
    ++ given "step" (f.step.map .float)
    ++ given "minLength" (f.minLength.map ofNat)
    ++ given "maxLength" (f.maxLength.map ofNat)
    ++ given "rows" (f.rows.map ofNat)
    ++ given "defaultValue" f.defaultValue
    ++ given "options" (f.options.map ofChoiceSource)
    ++ given "validation" f.validation
    ++ given "ui" (f.ui.map ofUiHints)
    ++ given "autofill" (f.autofill.map ofAutofill)
    ++ given "autoCalculate" (f.calculation.map ofCalculation))

end Document

end RecordDesk

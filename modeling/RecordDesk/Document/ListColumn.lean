import RecordDesk.Document.Reading

/-
  List columns: what a list shows of each row, and how a cell is written.
-/

namespace RecordDesk

/-- How the cells of a column are written. A format that is not known leaves values plain. -/
inductive CellFormat
  | boolean
  | decimal
  | date
  | dateTime
  | plain
deriving DecidableEq, Repr, Inhabited

namespace CellFormat

/-- The name of a format in a document. -/
def name : CellFormat → String
  | boolean => "boolean"
  | decimal => "decimal"
  | date => "date"
  | dateTime => "datetime"
  | plain => "plain"

/-- The format of a name. -/
def ofName : String → CellFormat
  | "boolean" => boolean
  | "decimal" => decimal
  | "date" => date
  | "datetime" => dateTime
  | _ => plain

end CellFormat

/-- Shows a column of the row that a cell refers to, in place of the cell itself. -/
structure ForeignDisplay where
  table : String
  displayColumn : String
  valueColumn : String
deriving DecidableEq, Repr

/-- A column of a list. -/
structure ListColumn where
  name : String
  label : Localized
  sqlType : String
  sortable : Bool
  searchable : Bool
  width : String
  align : String
  format : Option CellFormat
  decimalPlaces : Option Nat
  foreignKey : Option ForeignDisplay

namespace ListColumn

/-- A nameless plain column at the left. -/
def default : ListColumn where
  name := ""
  label := .empty
  sqlType := ""
  sortable := false
  searchable := false
  width := "auto"
  align := "left"
  format := none
  decimalPlaces := none
  foreignKey := none

/-- The header in a language, or the name. -/
def labelText (c : ListColumn) (language default : String) : String :=
  (c.label.resolve? language default).getD c.name

end ListColumn

namespace Document

/-- A cell format, by its name or as an object that gives it null. -/
def cellFormat : Reader CellFormat
  | .str name => some (.ofName name)
  | .obj [(name, .null)] => some (.ofName name)
  | _ => none

/-- A foreign display directive. -/
def foreignDisplay : Reader ForeignDisplay := fun w => do
  let [table, displayColumn, valueColumn] ←
    slots [["table"], ["displayColumn"], ["valueColumn"]] w | none
  return {
    table := ← required text table
    displayColumn := ← orElse text "name" displayColumn
    valueColumn := ← orElse text "id" valueColumn }

/-- A list column. -/
def listColumn : Reader ListColumn := fun w => do
  let [name, label, sqlType, sortable, searchable, width, align, format, places, foreign] ←
    slots [["name"], ["label"], ["type"], ["sortable"], ["searchable"], ["width"], ["align"],
      ["format"], ["decimalPlaces"], ["foreignKey"]] w | none
  return {
    name := ← orElse text "" name
    label := ← orElse localized .empty label
    sqlType := ← orElse text "" sqlType
    sortable := ← orElse flag false sortable
    searchable := ← orElse flag false searchable
    width := ← orElse text "auto" width
    align := ← orElse text "left" align
    format := ← optional cellFormat format
    decimalPlaces := ← optional nat32 places
    foreignKey := ← optional foreignDisplay foreign }

/-- A foreign display directive as a document. -/
def ofForeignDisplay (d : ForeignDisplay) : Value :=
  .obj (
    always "table" (.str d.table)
    ++ always "displayColumn" (.str d.displayColumn)
    ++ always "valueColumn" (.str d.valueColumn))

/-- A list column as a document. -/
def ofListColumn (c : ListColumn) : Value :=
  .obj (
    always "name" (.str c.name)
    ++ always "label" (ofLocalized c.label)
    ++ always "type" (.str c.sqlType)
    ++ always "sortable" (.bool c.sortable)
    ++ always "searchable" (.bool c.searchable)
    ++ always "width" (.str c.width)
    ++ always "align" (.str c.align)
    ++ given "format" (c.format.map fun f => .str f.name)
    ++ given "decimalPlaces" (c.decimalPlaces.map fun n : Nat => .int n)
    ++ given "foreignKey" (c.foreignKey.map ofForeignDisplay))

end Document

end RecordDesk

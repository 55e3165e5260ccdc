import RecordDesk.Schema.Basic
import RecordDesk.Text.Case
import RecordDesk.Text.Search
import RecordDesk.Text.Title

/-
  Completing a schema: labels are made from names where they are missing, input kinds are guessed
  from the name and the type of a column, and a column that cannot be null is required.
-/

namespace RecordDesk.Schema

/-- Labels with one in the default language, made from the name if there is none. -/
def withLabel (labels : Localized) (name default : String) : Localized :=
  if labels.contains default then labels else labels.insert default (Text.titleCase name)

/-- Parts of a column name and the inputs that they suggest; the first one counts. -/
def nameHints : List (String × String) := [
  ("email", "email"), ("phone", "tel"), ("tel", "tel"), ("url", "url"), ("website", "url"),
  ("password", "password"), ("date", "date"), ("time", "datetime-local")]

/-- The type of a column contains one of these words in any case. -/
def typeHas (sqlType : String) (words : List String) : Bool :=
  words.any (Text.contains (Text.upper sqlType))

/-- The input of a column by its type. -/
def inputOfType (sqlType : String) : String :=
  if typeHas sqlType ["DATETIME", "TIMESTAMP"] then "datetime-local"
  else if typeHas sqlType ["INT", "DECIMAL", "FLOAT"] then "number"
  else if typeHas sqlType ["BOOL"] then "checkbox"
  else if typeHas sqlType ["TEXT"] then "textarea"
  else if typeHas sqlType ["DATE"] then "date"
  else "text"

/-- The input of a column that names none: by its name, by a reference, by its type. -/
def guessedInput (name : String) (c : ColumnSpec) : String :=
  match nameHints.find? fun (part, _) => Text.contains (Text.lower name) part with
  | some (_, input) => input
  | none => if c.foreignKey.isSome then "select" else inputOfType c.sqlType

/-- The type of a column that names none. -/
def typeOrDefault (sqlType : String) : String := if sqlType.isEmpty then "VARCHAR" else sqlType

/-- A column with what it leaves open filled in. -/
def ColumnSpec.completed (c : ColumnSpec) (name default : String) : ColumnSpec :=
  let typed := { c with sqlType := typeOrDefault c.sqlType }
  { typed with
    labels := withLabel c.labels name default
    ui := { c.ui with inputType := some (c.ui.inputType.getD (guessedInput name typed)) }
    validation :=
      { c.validation with
        required := if c.constraints.nullable then c.validation.required else some true } }

/-- Columns of this type are searched. -/
def isSearchable (sqlType : String) : Bool :=
  typeHas sqlType ["VARCHAR", "TEXT", "CHAR", "INT", "DECIMAL", "FLOAT"]

/-- Columns of this type can be sorted by. -/
def isSortable (sqlType : String) : Bool := !typeHas sqlType ["TEXT", "BLOB"]

/-- The cell format of a type. -/
def cellFormat? (sqlType : String) : Option CellFormat :=
  if typeHas sqlType ["DATETIME", "TIMESTAMP"] then some .dateTime
  else if typeHas sqlType ["DATE"] then some .date
  else if typeHas sqlType ["DECIMAL", "FLOAT"] then some .decimal
  else if typeHas sqlType ["BOOLEAN"] then some .boolean
  else none

end RecordDesk.Schema

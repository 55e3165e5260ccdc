import RecordDesk.Record.Basic
import RecordDesk.Document.PrimaryKey
import RecordDesk.Error

/-
  Record keys: the values by which one record of a table is found again. A key is taken from a
  record along the table's primary key, and matches every record that shows the same values.
-/

namespace RecordDesk

/-- The key of a record. -/
inductive RecordKey
  | single (column : String) (value : Value)
  | composite (values : Record)

namespace RecordKey

/-- The value of a key column: present and not null. -/
def fetch (r : Record) (column : String) : Except Error Value :=
  match r.lookup column with
  | some .null | none =>
    .error (.validation (some column) ("record has no value for key column '" ++ column ++ "'"))
  | some v => .ok v

/-- The values of key columns, put into a record one after another. -/
def gather (r : Record) (values : Record) : List String → Except Error Record
  | [] => .ok values
  | column :: rest => do gather r (values.insert column (← fetch r column)) rest

/-- The key of a record along a primary key; each key column must have a value. -/
def ofRecord (r : Record) (key : PrimaryKey) : Except Error RecordKey :=
  if key.isComposite then do
    return .composite (← gather r .empty key.columns)
  else do
    let column := key.columns.head?.getD "id"
    return .single column (← fetch r column)

/-- The record shows this value in the column. -/
def shows (r : Record) (column : String) (value : Value) : Bool :=
  (r.lookup column).any (·.agrees value)

/-- The record carries the key. -/
def isIn (k : RecordKey) (r : Record) : Bool :=
  match k with
  | single column value => shows r column value
  | composite values => values.entries.all fun (column, value) => shows r column value

/-- The columns of a key with their values. -/
def parts : RecordKey → List (String × Value)
  | single column value => [(column, value)]
  | composite values => values.entries

/-- The key as people read it: `column=value`, with commas between several. -/
def display (k : RecordKey) : String :=
  String.intercalate "," (k.parts.map fun (column, value) => column ++ "=" ++ value.display)

end RecordKey

end RecordDesk

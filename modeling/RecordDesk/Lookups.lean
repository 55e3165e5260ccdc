import RecordDesk.Document.Table
import RecordDesk.Record.Key

/-
  Lookups: the rows of the tables that a screen refers to. From them come the choices of a
  selection, the text of a cell that refers to another table, and the row behind a chosen value.
-/

namespace RecordDesk

/-- The rows of tables, by table name. -/
structure Lookups where
  tables : Dict (List Record)

/-- A choice as a selection offers it. -/
structure Offer where
  value : Value
  label : String

namespace Lookups

/-- No tables. -/
def empty : Lookups := ⟨.empty⟩

instance : Inhabited Lookups := ⟨empty⟩

/-- Puts in the rows of a table. -/
def insert (l : Lookups) (table : String) (rows : List Record) : Lookups :=
  ⟨l.tables.insert table rows⟩

/-- The rows of a table are there. -/
def contains (l : Lookups) (table : String) : Bool := l.tables.contains table

/-- The rows of a table; none if it was not loaded. -/
def rows (l : Lookups) (table : String) : List Record := (l.tables.get? table).getD []

/-! ## Finding rows -/

/-- The value of a column, or of `id` where a row does not have the column. -/
def keyValue? (row : Record) (column : String) : Option Value :=
  match row.lookup column with
  | some v => some v
  | none => if isIdName column then none else row.lookup "id"

/-- The row of a table whose column agrees with a value, the first if there are several. -/
def rowFor? (l : Lookups) (table column : String) (value : Value) : Option Record :=
  (l.rows table).find? fun row => (keyValue? row column).any (·.agrees value)

/-! ## Choices -/

/-- The value that a row is chosen by: that of the column, or of `id` where it is missing or
null. -/
def offeredValue? (row : Record) (column : String) : Option Value :=
  match row.lookup column with
  | some .null | none => if isIdName column then none else row.lookup "id"
  | some v => some v

/-- The choice that a row is; its label is the display column, or the value where that is blank. -/
def offerOfRow? (row : Record) (valueColumn displayColumn : String) : Option Offer :=
  (offeredValue? row valueColumn).map fun value =>
    match row.lookup displayColumn with
    | some v => if Value.isBlank (some v) then ⟨value, value.display⟩ else ⟨value, v.display⟩
    | none => ⟨value, value.display⟩

/-- The choices of a field: the rows of the table it refers to, or those listed. -/
def offers (l : Lookups) (field : FormField) (language default : String) : List Offer :=
  match field.options with
  | none => []
  | some source =>
    match source.foreignTable? with
    | some table =>
      (l.rows table).filterMap fun row => offerOfRow? row source.valueColumn source.displayColumn
    | none =>
      source.items.map fun item =>
        ⟨item.value, (item.label.resolve? language default).getD item.value.display⟩

/-! ## Cells -/

/-- The text of a cell: the display column of the row it refers to, `-` where that is null, and the
value itself where it refers to no row. -/
def displayFor (l : Lookups) (column : ListColumn) (value : Value) : String :=
  match column.foreignKey with
  | none => value.display
  | some foreign =>
    match l.rowFor? foreign.table foreign.valueColumn value with
    | none => value.display
    | some row =>
      match row.lookup foreign.displayColumn with
      | some .null | none => "-"
      | some v => v.display

/-! ## Loading -/

/-- The tables that a definition refers to, in the order of mention. -/
def mentioned (t : Table) : List String :=
  t.formFields.flatMap (fun f =>
      ((f.options.bind (·.foreignTable?)).toList)
        ++ ((f.autofill.filter (·.enabled)).map (·.sourceTable)).toList)
    ++ t.listColumns.filterMap (fun c => c.foreignKey.map (·.table))

/-- The tables that a definition refers to, each once and by name. -/
def referenced (t : Table) : List String :=
  (Dict.ofList ((mentioned t).map (·, ()))).keys

/-- The rows of the referenced tables; a table that fails to load is empty. -/
def load {m : Type → Type} [Monad m] (findAll : String → m (Except Error (List Record)))
    (t : Table) : m Lookups :=
  (referenced t).foldlM (fun l table => do
    match ← findAll table with
    | .ok rows => return l.insert table rows
    | .error _ => return l.insert table []) empty

end Lookups

end RecordDesk

import RecordDesk.Document.Table
import RecordDesk.Document.Rules
import RecordDesk.Record.Key
import RecordDesk.Catalog.Basic

/-
  Sources: where records come from and go to, and where the configuration comes from. A source
  answers in some monad, so that the same screens work over rows in memory and over a server.
-/

namespace RecordDesk

/-- A store of records by table. Each answer is a result or a failure. -/
structure RecordSource (m : Type → Type) where
  /-- All rows of a table. -/
  findAll : (table : String) → m (Except Error (List Record))
  /-- The row with an `id`, if there is one. -/
  findById : (table : String) → (id : Value) → m (Except Error (Option Record))
  /-- Stores a new row; the answer is what the store reports. -/
  create : (table : String) → Record → m (Except Error Value)
  /-- Changes columns of the row with a key. -/
  update : (table : String) → RecordKey → Record → m (Except Error Value)
  /-- Deletes what has a key; whether anything did. -/
  delete : (table : String) → RecordKey → m (Except Error Bool)

/-- A provider of the configuration documents. -/
structure ConfigSource (m : Type → Type) where
  /-- The tables. -/
  tables : m (Except Error TableBook)
  /-- The validation rules. -/
  rules : m (Except Error RuleBook)
  /-- The messages of a language. -/
  messages : (language : String) → m (Except Error Catalog)

end RecordDesk

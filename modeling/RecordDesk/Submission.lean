import RecordDesk.Source.Basic

/-
  Submissions: what a form or a list sends to a source. The payload of a form holds the columns of
  its fields only, and never the `id`.
-/

namespace RecordDesk

/-- A new record, or changed columns of a record with a key. -/
inductive Submission
  | create (table : String) (data : Record)
  | update (table : String) (key : RecordKey) (data : Record)

/-- A record to be deleted. -/
structure Deletion where
  table : String
  key : RecordKey

namespace Submission

/-- The table that is written to. -/
def table : Submission → String
  | create table _ | update table _ _ => table

/-- The columns that are written. -/
def data : Submission → Record
  | create _ data | update _ _ data => data

/-- The key of the record that is changed. -/
def key? : Submission → Option RecordKey
  | create .. => none
  | update _ key _ => some key

/-- Sends a submission; the answer is what the source reports. -/
def send {m : Type → Type} (s : Submission) (source : RecordSource m) : m (Except Error Value) :=
  match s with
  | create table data => source.create table data
  | update table key data => source.update table key data

/-- The values of a table's form fields, as far as there are any, in the order of the form. -/
def payload (t : Table) (values : Record) : Record :=
  .ofList ((t.formFields.filter (!·.isId)).filterMap fun f =>
    (values.lookup f.name).map fun v => (f.name, v))

end Submission

namespace Deletion

/-- The deletion of a listed record. -/
def ofRecord (t : Table) (r : Record) : Except Error Deletion := do
  return ⟨t.name, ← RecordKey.ofRecord r t.primaryKey⟩

/-- Sends a deletion; whether anything was deleted. -/
def send {m : Type → Type} (d : Deletion) (source : RecordSource m) : m (Except Error Bool) :=
  source.delete d.table d.key

end Deletion

end RecordDesk

import RecordDesk.Desk.Basic
import RecordDesk.Form.Session
import RecordDesk.Listing.View
import RecordDesk.Screen.Form

/-
  What can be done at the desk.
-/

namespace RecordDesk.Desk

open DeskTask

variable {m : Type → Type} [Monad m]

/-! ## Tables and lists -/

/-- A table with its label and description. -/
def tableRow (c : Configuration) (t : Table) : List String :=
  [t.name, t.label c.language c.defaultLanguage,
    (t.description? c.language c.defaultLanguage).getD ""]

/-- The tables in the order of navigation. -/
def tables : DeskTask m String := do
  let c ← configuration
  return Grid.render ["TABLE", "LABEL", "DESCRIPTION"] (c.tables.inDisplayOrder.map (tableRow c))

/-- A list sorted by a column, which must allow that. -/
def sorted (l : Listing) (table column : String) (descending : Bool) : Except Failure Listing :=
  if l.isSortable column then
    let up := l.toggleSort column
    .ok (if descending then up.toggleSort column else up)
  else .error (.usage ("column '" ++ column ++ "' of '" ++ table ++ "' is not sortable"))

/-- How many records a list shows, and of how many. -/
def summary (l : Listing) : String :=
  if l.foundCount = l.totalCount then toString l.totalCount ++ " records"
  else toString l.foundCount ++ " of " ++ toString l.totalCount ++ " records"

/-- The text of a list. -/
def listText (l : Listing) : String :=
  Grid.render (l.headers.map (·.title)) (l.rows.map (·.cells)) ++ summary l ++ "\n"

/-- The records of a table, narrowed down by a search and sorted. -/
def list (d : Desk m) (table : String) (search sort : Option String) (descending : Bool) :
    DeskTask m String := do
  let c ← configuration
  let t ← ofResult (c.table table)
  let records ← (d.records.findAll table : m _)
  let lookups ← (Lookups.load d.records.findAll t : m _)
  let records ← ofResult records
  let all := Listing.ofRecords t records lookups c.language c.defaultLanguage
  let found := (search.map all.search).getD all
  match sort with
  | none => return listText found
  | some column => return listText (← sorted found table column descending)

/-! ## Forms -/

/-- A form for a record, or for a new one. -/
def openForm (d : Desk m) (table : String) (r : Option Record) : DeskTask m Session := do
  let c ← configuration
  ask (Session.openFrom d.records c table r)

/-- Sets the fields that a record has, in the order of the form. What is no field is passed over. -/
def setFields (s : Session) (r : Record) : Except Error Session :=
  s.table.formFields.foldlM (fun s f =>
    match r.get? f.name with
    | some v => (s.setValue f.name v).map Prod.snd
    | none => .ok s) s

/-- A form with the values of a record. In a new form they are set one by one, so that the rest
derives from them. -/
def fillForm (d : Desk m) (table : String) (r : Record) (edit : Bool) : DeskTask m Session := do
  if edit then d.openForm table (some r)
  else ofResult (setFields (← d.openForm table none) r)

/-- The record in a file. -/
def readRecord (d : Desk m) (path : String) : DeskTask m Record := do
  Record.ofFile path (← ask (d.read path))

/-- The form of a table, for the record in a file if one is named. -/
def form (d : Desk m) (table : String) (path : Option String) : DeskTask m String := do
  let r ← path.mapM d.readRecord
  return Widget.render (← d.openForm table r).widgets

/-- The violations of the record in a file. -/
def validate (d : Desk m) (table path : String) (edit : Bool) : DeskTask m Report := do
  let s ← d.fillForm table (← d.readRecord path) edit
  ofResult s.validate

/-- Stores the record in a file, if it violates no rule; the answer is what the source reports. -/
def submit (d : Desk m) (table path : String) (edit : Bool) : DeskTask m Value := do
  let s ← d.fillForm table (← d.readRecord path) edit
  let report ← ofResult s.validate
  if !report.isValid then throw (.invalid report.violations.length)
  let submission ← ofResult s.submit
  ask (submission.send d.records)

/-! ## Deletions -/

/-- Deletes the record with a key; whether there was one. -/
def delete (d : Desk m) (table : String) (key : List String) : DeskTask m Bool := do
  let c ← configuration
  let t ← ofResult (c.table table)
  let deletion ← ofResult (Deletion.ofRecord t (← Record.ofTypedPairs key))
  ask (deletion.send d.records)

end RecordDesk.Desk

import RecordDesk.Source.Basic

/-
  A source in memory. Tables hold rows in the order of their creation; a table can be made to fail.
  A new row without an `id` gets the number after the largest `id` of the table.
-/

namespace RecordDesk

/-- Rows and configuration held in memory, and the names that fail. -/
structure Memory where
  tables : Dict (List Record)
  failing : List String
  tableBook : TableBook
  ruleBook : RuleBook
  catalogs : Dict Catalog

namespace Memory

/-- Nothing at all. -/
def empty : Memory := ⟨.empty, [], .default, .default, .empty⟩

instance : Inhabited Memory := ⟨empty⟩

/-- The rows of a table. -/
def rows (s : Memory) (table : String) : List Record := (s.tables.get? table).getD []

/-- Replaces the rows of a table. -/
def setRows (s : Memory) (table : String) (rows : List Record) : Memory :=
  { s with tables := s.tables.insert table rows }

/-- Sets the messages of a language. -/
def setMessages (s : Memory) (language : String) (catalog : Catalog) : Memory :=
  { s with catalogs := s.catalogs.insert language catalog }

/-- Makes a table fail from now on; `messages` stands for the message catalogs. -/
def failTable (s : Memory) (table : String) : Memory :=
  { s with failing := table :: s.failing }

/-- The failure of a table that is made to fail. -/
def check (s : Memory) (table : String) : Except Error Unit :=
  if table ∈ s.failing then .error (.source ("table '" ++ table ++ "' unavailable") true)
  else .ok ()

/-- The `id` of the next new row: one more than the largest number among the ids, and than zero. -/
def nextId (rows : List Record) : Value :=
  let ids := rows.filterMap fun row => (row.lookup "id").bind Value.number?
  .ofNumber (ids.foldl Decimal.greatest 0.0 + 1.0)

/-- The columns of a change put into a row. -/
def merge (row change : Record) : Record :=
  change.entries.foldl (fun row (column, value) => row.insert column value) row

/-- The rows with the first that has the key changed, and that row; none if no row has it. -/
def updateFirst (key : RecordKey) (change : Record) :
    List Record → Option (List Record × Record)
  | [] => none
  | row :: rest =>
    if key.isIn row then
      let changed := merge row change
      some (changed :: rest, changed)
    else (updateFirst key change rest).map fun (rows, changed) => (row :: rows, changed)

/-! ## Answers and what they leave behind -/

/-- All rows of a table. -/
def findAll (s : Memory) (table : String) : Except Error (List Record) := do
  s.check table
  return s.rows table

/-- The first row with an `id`. -/
def findById (s : Memory) (table : String) (id : Value) : Except Error (Option Record) := do
  s.check table
  return (s.rows table).find? fun row => (row.lookup "id").any (·.agrees id)

/-- Stores a new row at the end of its table. -/
def create (s : Memory) (table : String) (data : Record) : Except Error (Record × Memory) := do
  s.check table
  let rows := s.rows table
  let row := if (data.lookup "id").isSome then data else data.insert "id" (nextId rows)
  return (row, s.setRows table (rows ++ [row]))

/-- Changes the first row that has the key. -/
def update (s : Memory) (table : String) (key : RecordKey) (data : Record) :
    Except Error (Record × Memory) := do
  s.check table
  match updateFirst key data (s.rows table) with
  | some (rows, row) => return (row, s.setRows table rows)
  | none => .error (.notFound "record" key.display)

/-- Deletes every row that has the key. -/
def delete (s : Memory) (table : String) (key : RecordKey) : Except Error (Bool × Memory) := do
  s.check table
  let rows := s.rows table
  let kept := rows.filter (!key.isIn ·)
  return (kept.length != rows.length, s.setRows table kept)

/-- The messages of a language; no messages where none are held. -/
def messages (s : Memory) (language : String) : Except Error Catalog := do
  s.check "messages"
  return (s.catalogs.get? language).getD .empty

/-! ## As a source -/

/-- A question, which leaves the memory as it is. -/
def ask {α : Type} (question : Memory → Except Error α) : StateM Memory (Except Error α) :=
  fun s => (question s, s)

/-- A command, which leaves the memory as it is if it fails. -/
def run {α β : Type} (command : Memory → Except Error (α × Memory)) (answer : α → β) :
    StateM Memory (Except Error β) :=
  fun s =>
    match command s with
    | .ok (a, s') => (.ok (answer a), s')
    | .error e => (.error e, s)

/-- The memory as a source of records. -/
def records : RecordSource (StateM Memory) where
  findAll table := ask (·.findAll table)
  findById table id := ask (·.findById table id)
  create table data := run (·.create table data) Record.toValue
  update table key data := run (·.update table key data) Record.toValue
  delete table key := run (·.delete table key) id

/-- The memory as a source of configuration. -/
def config : ConfigSource (StateM Memory) where
  tables := ask fun s => .ok s.tableBook
  rules := ask fun s => .ok s.ruleBook
  messages language := ask (·.messages language)

end Memory

end RecordDesk

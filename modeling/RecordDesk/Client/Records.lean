import RecordDesk.Client.Basic

/-
  A server as a source of records and of configuration. Calls on records answer with an envelope
  that says whether they succeeded; documents come as they are.
-/

namespace RecordDesk

/-- What a call on records answers. -/
structure Envelope where
  success : Bool
  data : Value
  message : Option String
  error : Option String

namespace Document

/-- An envelope. -/
def envelope : Reader Envelope := fun w => do
  let [success, data, message, error] ←
    slots [["success"], ["data"], ["message"], ["error"]] w | none
  return {
    success := ← orElse flag false success
    data := ← orElse any .null data
    message := ← optional text message
    error := ← optional text error }

end Document

namespace Envelope

/-- The text of a failure. -/
def failure (e : Envelope) : String := (e.error.or e.message).getD "API call failed"

/-- The data of a success. -/
def result (e : Envelope) : Except ClientError Value :=
  if e.success then .ok e.data else .error (.api e.failure)

end Envelope

namespace Client

variable {m : Type → Type} [Monad m]

/-- A failure of the program as one of the client. -/
def lift {α : Type} (r : Except Error α) : Except ClientError α := r.mapError .inner

/-- A value read as a document. -/
def read {α : Type} (reader : Document.Reader α) (v : Value) : Except ClientError α :=
  match Document.ofValue? reader v with
  | some a => .ok a
  | none => .error (.inner .serialization)

/-- Posts a body and reads the envelope of the answer. -/
def post (c : Client m) (path : String) (body : Value) : m (Except ClientError Envelope) := do
  return (← c.request .post path (some body)).bind (read Document.envelope)

/-- The records in the data of an answer; no data are no records. -/
def rows (table : String) : Value → Except ClientError (List Record)
  | .null => .ok []
  | .arr items => items.mapM fun v => lift (Record.ofValue v)
  | v => .error (.api ("expected a list of records for '" ++ table ++ "', got " ++ v.compact))

/-- All rows of a table. -/
def findAll (c : Client m) (table : String) : m (Except ClientError (List Record)) := do
  let body := Value.obj [("tableName", .str table)]
  return (← c.post "/api/sql/findAll" body).bind fun e => e.result.bind (rows table)

/-- The row that an answer to a question for one holds; none if the server has no such record. -/
def rowFound (answer : Except ClientError Value) : Except ClientError (Option Record) :=
  match answer with
  | .error (.status 404 _) => .ok none
  | .error e => .error e
  | .ok v => do
    let e ← read Document.envelope v
    if e.success then return some (← lift (Record.ofValue e.data)) else return none

/-- The row with an `id`, if there is one. -/
def findById (c : Client m) (table : String) (id : Value) :
    m (Except ClientError (Option Record)) := do
  return rowFound (← c.request .get ("/api/config/data/" ++ table ++ "/" ++ id.display) none)

/-- Stores a new row. -/
def create (c : Client m) (table : String) (data : Record) : m (Except ClientError Value) := do
  let body := Value.obj [("tableName", .str table), ("data", data.toValue)]
  return (← c.post "/api/sql/create" body).bind Envelope.result

/-- The body that names a table and a record in it. -/
def keyBody (table : String) (key : RecordKey) : List (String × Value) :=
  ("tableName", .str table) ::
    match key with
    | .single _ value => [("id", value)]
    | .composite values => [("keyValues", values.toValue)]

/-- Changes columns of the row with a key. -/
def update (c : Client m) (table : String) (key : RecordKey) (data : Record) :
    m (Except ClientError Value) := do
  let body := Value.obj (keyBody table key ++ [("data", data.toValue)])
  return (← c.post "/api/sql/update" body).bind Envelope.result

/-- Whether an answer to a deletion says that something was deleted. -/
def deleted (e : Envelope) : Except ClientError Bool :=
  if !e.success && e.error.isSome then .error (.api e.failure) else .ok e.success

/-- Deletes the row with a key; whether there was one. -/
def delete (c : Client m) (table : String) (key : RecordKey) : m (Except ClientError Bool) := do
  return (← c.post "/api/sql/delete" (.obj (keyBody table key))).bind deleted

/-- The document of tables. -/
def tableBook (c : Client m) : m (Except ClientError TableBook) := do
  return (← c.request .post "/api/sql/config/table-config" (some (.obj []))).bind
    (read Document.tableBook)

/-- The document of validation rules. -/
def ruleBook (c : Client m) : m (Except ClientError RuleBook) := do
  return (← c.request .post "/api/sql/config/validation-config" (some (.obj []))).bind
    (read Document.ruleBook)

/-- The messages of a language. -/
def messages (c : Client m) (language : String) : m (Except ClientError Catalog) := do
  let body := Value.obj [("language", .str language)]
  return (← c.request .post "/api/sql/config/messages" (some body)).bind fun v =>
    lift (Catalog.ofValue v)

/-! ## As a source -/

/-- The answer of a client as that of a source. -/
def asSource {α : Type} (answer : m (Except ClientError α)) : m (Except Error α) := do
  return (← answer).mapError ClientError.toError

/-- The server as a source of records. -/
def records (c : Client m) : RecordSource m where
  findAll table := asSource (c.findAll table)
  findById table id := asSource (c.findById table id)
  create table data := asSource (c.create table data)
  update table key data := asSource (c.update table key data)
  delete table key := asSource (c.delete table key)

/-- The server as a source of configuration. -/
def config (c : Client m) : ConfigSource m where
  tables := asSource c.tableBook
  rules := asSource c.ruleBook
  messages language := asSource (c.messages language)

end Client

end RecordDesk

import RecordDesk.Client.Script

/-
  The calls on the records of a server as a family. Each of them sends one request, however often it
  is sent again, and makes its answer of what comes back (`run_eq`). Where the server is a source of
  records its failures are those of the source (`ask_eq`).
-/

namespace RecordDesk

/-- A call on the records of a server, by what it answers. -/
inductive RecordCall : Type → Type
  | findAll (table : String) : RecordCall (List Record)
  | findById (table : String) (id : Value) : RecordCall (Option Record)
  | create (table : String) (data : Record) : RecordCall Value
  | update (table : String) (key : RecordKey) (data : Record) : RecordCall Value
  | delete (table : String) (key : RecordKey) : RecordCall Bool

namespace RecordCall

variable {m : Type → Type} [Monad m] {α : Type}

/-- The call made on a client. -/
def run (c : Client m) : RecordCall α → m (Except ClientError α)
  | findAll table => c.findAll table
  | findById table id => c.findById table id
  | create table data => c.create table data
  | update table key data => c.update table key data
  | delete table key => c.delete table key

/-- The call made on a source of records. -/
def ask (source : RecordSource m) : RecordCall α → m (Except Error α)
  | findAll table => source.findAll table
  | findById table id => source.findById table id
  | create table data => source.create table data
  | update table key data => source.update table key data
  | delete table key => source.delete table key

/-- One row is asked for. -/
def asksForOne : RecordCall α → Bool
  | findById .. => true
  | _ => false

/-! ## The request of a call -/

/-- The method of the request. -/
def method : RecordCall α → Method
  | findById .. => .get
  | _ => .post

/-- The path of the request. -/
def path : RecordCall α → String
  | findAll _ => "/api/sql/findAll"
  | findById table id => "/api/config/data/" ++ table ++ "/" ++ id.display
  | create .. => "/api/sql/create"
  | update .. => "/api/sql/update"
  | delete .. => "/api/sql/delete"

/-- The body of the request. -/
def body : RecordCall α → Option Value
  | findAll table => some (.obj [("tableName", .str table)])
  | findById .. => none
  | create table data => some (.obj [("tableName", .str table), ("data", data.toValue)])
  | update table key data => some (.obj (Client.keyBody table key ++ [("data", data.toValue)]))
  | delete table key => some (.obj (Client.keyBody table key))

/-! ## The answer of a call -/

/-- What a call makes of an envelope. -/
def ofEnvelope (e : Envelope) : RecordCall α → Except ClientError α
  | findAll table => e.result.bind (Client.rows table)
  | findById .. => if e.success then (Client.lift (Record.ofValue e.data)).map some else .ok none
  | create .. => e.result
  | update .. => e.result
  | delete .. => Client.deleted e

/-- What a call makes of the answer to its request. Where one row is asked for, one failure is an
answer too: there is no such record. -/
def result : RecordCall α → Except ClientError Value → Except ClientError α
  | findById .., .error (.status 404 _) => .ok none
  | _, .error e => .error e
  | call, .ok v => (Client.read Document.envelope v).bind fun e => call.ofEnvelope e

theorem result_ok (call : RecordCall α) (v : Value) :
    call.result (.ok v) =
      (Client.read Document.envelope v).bind fun e => call.ofEnvelope e := by
  cases call <;> rfl

theorem rowFound_eq (table : String) (id : Value) (answer : Except ClientError Value) :
    Client.rowFound answer = (findById table id).result answer := by
  cases answer with
  | ok v =>
    rw [Client.rowFound, result_ok]
    cases Client.read Document.envelope v with
    | error e => rfl
    | ok e =>
      change (if e.success = true then _ else _) = (if e.success = true then _ else _)
      split
      · cases Client.lift (Record.ofValue e.data) <;> rfl
      · rfl
  | error e =>
    unfold Client.rowFound
    split <;> simp_all [result]

/-- What is made of the envelope of a posted body. -/
theorem post_eq [LawfulMonad m] (c : Client m) (path : String) (body : Value)
    (f : Envelope → Except ClientError α) :
    (do return (← c.post path body).bind f) =
      (·.bind fun v => (Client.read Document.envelope v).bind f) <$>
        c.request .post path (some body) := by
  rw [bind_pure_comp, Client.post, bind_pure_comp, Functor.map_map]
  refine map_congr fun answer => ?_
  cases answer <;> rfl

theorem result_of_many {call : RecordCall α} (h : call.asksForOne = false)
    (answer : Except ClientError Value) :
    call.result answer =
      answer.bind fun v => (Client.read Document.envelope v).bind fun e => call.ofEnvelope e := by
  cases call with
  | findById table id => cases h
  | _ => cases answer <;> rfl

/-- A call is its request and what it makes of the answer. -/
theorem run_eq [LawfulMonad m] (c : Client m) (call : RecordCall α) :
    call.run c = call.result <$> c.request call.method call.path call.body := by
  have hpost (path : String) (body : Value) (h : call.asksForOne = false) :
      (do return (← c.post path body).bind fun e => call.ofEnvelope e) =
        call.result <$> c.request .post path (some body) :=
    (post_eq c path body _).trans
      (map_congr fun answer => (result_of_many h answer).symm)
  cases call with
  | findAll table => exact hpost _ _ rfl
  | findById table id =>
    rw [run, Client.findById, bind_pure_comp]
    exact map_congr fun answer => rowFound_eq table id answer
  | create table data => exact hpost _ _ rfl
  | update table key data => exact hpost _ _ rfl
  | delete table key => exact hpost _ _ rfl

/-- As a source of records the server gives the same answers, its failures being those of a
source. -/
theorem ask_eq [LawfulMonad m] (c : Client m) (call : RecordCall α) :
    call.ask c.records = (·.mapError ClientError.toError) <$> call.run c := by
  rw [← bind_pure_comp]
  cases call <;> rfl

end RecordCall

end RecordDesk
